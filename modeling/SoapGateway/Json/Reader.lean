import SoapGateway.Json.Number
import SoapGateway.Text.Quoted
import SoapGateway.Text.Utf8

/-!
# Reading typed JSON

A reader takes one value of a known type from the front of the input and returns what follows it, or
the first fault in reading order. A record is written as an object, whose unknown members are passed
over and whose known ones may stand once, or as an array with its members in order. Values that are
passed over are checked for their grammar only, not for well-formed text.
-/
namespace SoapGateway.Json

/-- Takes a value from the front of the input. -/
abbrev Reader (α : Type) := List UInt8 → Except Fault (α × List UInt8)

def isBlankByte (b : UInt8) : Bool := b == 0x20 || b == 0x0A || b == 0x09 || b == 0x0D

def skipBlanks (input : List UInt8) : List UInt8 := input.dropWhile isBlankByte

def readWord : List UInt8 → List UInt8 → Except Fault (List UInt8)
  | [], rest => .ok rest
  | _ :: _, [] => failHere .unfinishedValue []
  | e :: es, b :: rest => if b = e then readWord es rest else failHere .expectedWord rest

def lettersAfter (w : String) : List UInt8 := (Utf8.bytesOf w).drop 1

def hexByte? (b : UInt8) : Option Nat := Text.hexValue? (Char.ofNat b.toNat)

def readUnit : Reader Nat
  | a :: b :: c :: d :: rest =>
    match hexByte? a, hexByte? b, hexByte? c, hexByte? d with
    | some a, some b, some c, some d => .ok (((a * 16 + b) * 16 + c) * 16 + d, rest)
    | _, _, _, _ => failHere .invalidEscape rest
  | _ => failHere .unfinishedText []

/-- Reads the character that an escape of code units writes, after `\u`. -/
def readEscapedUnits (input : List UInt8) : Except Fault (Char × List UInt8) :=
  match readUnit input with
  | .error f => .error f
  | .ok (n, rest) =>
    if 0xDC00 ≤ n ∧ n ≤ 0xDFFF then failHere .loneSurrogate rest
    else if n < 0xD800 ∨ 0xDBFF < n then .ok (Char.ofNat n, rest)
    else
      match rest with
      | [] => failHere .unfinishedText []
      | b :: rest =>
        if b ≠ 0x5C then failHere .brokenSurrogatePair rest
        else
          match rest with
          | [] => failHere .unfinishedText []
          | b :: rest =>
            if b ≠ 0x75 then failHere .brokenSurrogatePair rest
            else
              match readUnit rest with
              | .error f => .error f
              | .ok (low, rest) =>
                if low < 0xDC00 ∨ 0xDFFF < low then failHere .loneSurrogate rest
                else .ok (Char.ofNat (0x10000 + (n - 0xD800) * 1024 + (low - 0xDC00)), rest)

def simpleEscape? (b : UInt8) : Option Char :=
  if b = 0x22 then some '"' else if b = 0x5C then some '\\' else if b = 0x2F then some '/'
  else if b = 0x62 then some '\x08' else if b = 0x66 then some '\x0c'
  else if b = 0x6E then some '\n' else if b = 0x72 then some '\r' else if b = 0x74 then some '\t'
  else none

def readEscape (input : List UInt8) : Except Fault (Char × List UInt8) :=
  match input with
  | [] => failHere .unfinishedText []
  | b :: rest =>
    match simpleEscape? b with
    | some c => .ok (c, rest)
    | none => if b = 0x75 then readEscapedUnits rest else failHere .invalidEscape rest

/-- Octets of a text up to its closing quote, `acc` holding those read so far backwards. Each round
reads at least one octet, which bounds the recursion. -/
def readTextBytes (acc : List UInt8) : Nat → Reader (List UInt8)
  | 0, input => failHere .unfinishedText input
  | _ + 1, [] => failHere .unfinishedText []
  | n + 1, b :: rest =>
    if b = 0x22 then .ok (acc.reverse, rest)
    else if b = 0x5C then
      match readEscape rest with
      | .error f => .error f
      | .ok (c, rest) => readTextBytes ((String.utf8EncodeChar c).reverse ++ acc) n rest
    else if b < 0x20 then failHere .controlCharacter rest
    else readTextBytes (b :: acc) n rest

/-- Reads a text after its opening quote. Octets that write no text are reported at the closing
quote. -/
def readText (input : List UInt8) : Except Fault (String × List UInt8) :=
  match readTextBytes [] (input.length + 1) input with
  | .error f => .error f
  | .ok (bytes, rest) =>
    match Utf8.decode? bytes with
    | some s => .ok (s, rest)
    | none => failHere .invalidCodePoint (0x22 :: rest)

def skipText : Nat → List UInt8 → Except Fault (List UInt8)
  | 0, input => failHere .unfinishedText input
  | _ + 1, [] => failHere .unfinishedText []
  | n + 1, b :: rest =>
    if b = 0x22 then .ok rest
    else if b = 0x5C then
      match rest with
      | [] => failHere .unfinishedText []
      | e :: rest =>
        if (simpleEscape? e).isSome then skipText n rest
        else if e = 0x75 then
          match readUnit rest with
          | .error f => .error f
          | .ok (_, rest) => skipText n rest
        else failHere .invalidEscape rest
    else if b < 0x20 then failHere .controlCharacter (b :: rest)
    else skipText n rest

inductive Bracket where
  | list | object
  deriving DecidableEq, Repr

mutual

/-- Passes over a value that is nested in the brackets `open_`, and then over what closes them. -/
def skipItem (stack : List Bracket) : Nat → List UInt8 → Except Fault (List UInt8)
  | 0, input => failHere .unfinishedValue input
  | n + 1, input =>
    match skipBlanks input with
    | [] => failNext .unfinishedValue []
    | b :: rest =>
      let scalar (r : Except Fault (List UInt8)) : Except Fault (List UInt8) :=
        match r with
        | .error f => .error f
        | .ok rest => skipAfter stack true n rest
      if b = 0x6E then scalar (readWord (lettersAfter "null") rest)
      else if b = 0x74 then scalar (readWord (lettersAfter "true") rest)
      else if b = 0x66 then scalar (readWord (lettersAfter "false") rest)
      else if b = 0x2D then scalar (skipNumber rest)
      else if isDigitByte b then scalar (skipNumber (b :: rest))
      else if b = 0x22 then scalar (skipText (rest.length + 1) rest)
      else if b = 0x5B then skipAfter (.list :: stack) false n rest
      else if b = 0x7B then skipAfter (.object :: stack) false n rest
      else failNext .expectedValue (b :: rest)

/-- Goes on after a value, or after an opening bracket when `comma` is false. -/
def skipAfter (stack : List Bracket) (comma : Bool) : Nat → List UInt8 → Except Fault (List UInt8)
  | 0, input => failHere .unfinishedValue input
  | n + 1, input =>
    match stack with
    | [] => .ok input
    | frame :: outer =>
      match skipBlanks input with
      | [] => failNext (if frame = .list then .unfinishedList else .unfinishedObject) []
      | b :: rest =>
        if b = 0x2C ∧ comma then skipMember frame (frame :: outer) n rest
        else if (b = 0x5D ∧ frame = .list) ∨ (b = 0x7D ∧ frame = .object) then
          skipAfter outer true n rest
        else if comma then
          failNext (if frame = .list then .expectedListEnd else .expectedObjectEnd) (b :: rest)
        else skipMember frame (frame :: outer) n (b :: rest)

/-- Passes over the key that a member of an object begins with, then over the value. -/
def skipMember (frame : Bracket) (stack : List Bracket) :
    Nat → List UInt8 → Except Fault (List UInt8)
  | 0, input => failHere .unfinishedValue input
  | n + 1, input =>
    match frame with
    | .list => skipItem stack n input
    | .object =>
      match skipBlanks input with
      | [] => failNext .unfinishedObject []
      | b :: rest =>
        if b ≠ 0x22 then failNext .keyNotText (b :: rest)
        else
          match skipText (rest.length + 1) rest with
          | .error f => .error f
          | .ok rest =>
            match skipBlanks rest with
            | [] => failNext .unfinishedObject []
            | b :: rest =>
              if b = 0x3A then skipItem stack n rest else failNext .expectedColon (b :: rest)

end

def skipValue (input : List UInt8) : Except Fault (List UInt8) :=
  skipItem [] (4 * input.length + 4) input

/-- Fails with what stands at the front of the input in place of an expected value. -/
def mismatch {α : Type} (expected : String) (input : List UInt8) : Except Fault α :=
  let found (shown : String) (rest : List UInt8) : Except Fault α :=
    failHere (.mismatch shown expected) rest
  match input with
  | [] => failNext .unfinishedValue []
  | b :: rest =>
    if b = 0x6E then
      match readWord (lettersAfter "null") rest with
      | .error f => .error f
      | .ok rest => found "null" rest
    else if b = 0x74 then
      match readWord (lettersAfter "true") rest with
      | .error f => .error f
      | .ok rest => found "boolean `true`" rest
    else if b = 0x66 then
      match readWord (lettersAfter "false") rest with
      | .error f => .error f
      | .ok rest => found "boolean `false`" rest
    else if b = 0x2D ∨ isDigitByte b then
      match readNumber (b = 0x2D) (if b = 0x2D then rest else b :: rest) with
      | .error f => .error f
      | .ok (x, rest) => found x.shown rest
    else if b = 0x22 then
      match readText rest with
      | .error f => .error f
      | .ok (s, rest) => found ("string " ++ Text.quoted s) rest
    else if b = 0x5B then found "sequence" (b :: rest)
    else if b = 0x7B then found "map" (b :: rest)
    else failNext .expectedValue (b :: rest)

namespace Reader

def text : Reader String := fun input =>
  match skipBlanks input with
  | [] => failNext .unfinishedValue []
  | b :: rest => if b = 0x22 then readText rest else mismatch "a string" (b :: rest)

def flag : Reader Bool := fun input =>
  match skipBlanks input with
  | [] => failNext .unfinishedValue []
  | b :: rest =>
    if b = 0x74 then (readWord (lettersAfter "true") rest).map fun rest => (true, rest)
    else if b = 0x66 then (readWord (lettersAfter "false") rest).map fun rest => (false, rest)
    else mismatch "a boolean" (b :: rest)

/-- Moves to the next item of an array, or answers `none` before its closing bracket. -/
def nextItem (first : Bool) (input : List UInt8) : Except Fault (Option (List UInt8)) :=
  match skipBlanks input with
  | [] => failNext .unfinishedList []
  | b :: rest =>
    if b = 0x5D then .ok none
    else if b = 0x2C ∧ first = false then
      match skipBlanks rest with
      | [] => failNext .unfinishedValue []
      | c :: rest =>
        if c = 0x5D then failNext .trailingComma (c :: rest) else .ok (some (c :: rest))
    else if first then .ok (some (b :: rest))
    else failNext .expectedListEnd (b :: rest)

/-- Moves to the next key of an object, past its quote, or answers `none` before the closing brace.
-/
def nextKey (first : Bool) (input : List UInt8) : Except Fault (Option (List UInt8)) :=
  match skipBlanks input with
  | [] => failNext .unfinishedObject []
  | b :: rest =>
    if b = 0x7D then .ok none
    else if b = 0x2C ∧ first = false then
      match skipBlanks rest with
      | [] => failNext .unfinishedValue []
      | c :: rest =>
        if c = 0x22 then .ok (some rest)
        else if c = 0x7D then failNext .trailingComma (c :: rest)
        else failNext .keyNotText (c :: rest)
    else if first then
      if b = 0x22 then .ok (some rest) else failNext .keyNotText (b :: rest)
    else failNext .expectedObjectEnd (b :: rest)

def closeList (input : List UInt8) : Except Fault (List UInt8) :=
  match skipBlanks input with
  | [] => failNext .unfinishedList []
  | b :: rest =>
    if b = 0x5D then .ok rest
    else if b = 0x2C then
      match skipBlanks rest with
      | c :: rest =>
        failNext (if c = 0x5D then .trailingComma else .trailingCharacters) (c :: rest)
      | [] => failNext .trailingCharacters []
    else failNext .trailingCharacters (b :: rest)

def closeObject (input : List UInt8) : Except Fault (List UInt8) :=
  match skipBlanks input with
  | [] => failNext .unfinishedObject []
  | b :: rest =>
    if b = 0x7D then .ok rest
    else if b = 0x2C then failNext .trailingComma (b :: rest)
    else failNext .trailingCharacters (b :: rest)

/-- Where an array is left when its contents are refused: after its end or its next comma. -/
def leaveList (input : List UInt8) : List UInt8 :=
  match skipBlanks input with
  | [] => []
  | b :: rest => if b = 0x5D then rest else if b = 0x2C then skipBlanks rest else b :: rest

/-- Where an object is left when its contents are refused: after its end, if that comes next. -/
def leaveObject (input : List UInt8) : List UInt8 :=
  match skipBlanks input with
  | [] => []
  | b :: rest => if b = 0x7D then rest else b :: rest

/-- Items of an array after its bracket; `acc` holds those read so far backwards. -/
def itemsFrom {α : Type} (item : Reader α) (acc : List α) : Nat → Reader (List α)
  | 0, input => failHere .unfinishedList input
  | n + 1, input =>
    match nextItem acc.isEmpty input with
    | .error f => .error f
    | .ok none => .ok (acc.reverse, input)
    | .ok (some rest) =>
      match item rest with
      | .error f => .error f
      | .ok (x, rest) => itemsFrom item (x :: acc) n rest

def list {α : Type} (item : Reader α) : Reader (List α) := fun input =>
  match skipBlanks input with
  | [] => failNext .unfinishedValue []
  | b :: rest =>
    if b = 0x5B then
      match itemsFrom item [] (rest.length + 1) rest with
      | .error f => .error f
      | .ok (xs, rest) => (closeList rest).map fun rest => (xs, rest)
    else mismatch "a sequence" (b :: rest)

/-- Members of a record that were read, by name. -/
abbrev Members (α : Type) := List (String × α)

namespace Members

def get? {α : Type} (m : Members α) (name : String) : Option α := m.lookup name

def need {α : Type} (m : Members α) (name : String) : Except String α :=
  match m.get? name with
  | some x => .ok x
  | none => .error name

end Members

/-- Why the contents of a record are refused: a fault with its place, or a problem of the record as
a whole, which is reported where the record is left. -/
inductive Refusal where
  | fault (f : Fault)
  | problem (p : Problem) (rest : List UInt8)

/-- Members of an object after its brace. -/
def membersFrom {α : Type} (keys : List String) (item : Reader α) (acc : Members α) (first : Bool) :
    Nat → List UInt8 → Except Refusal (Members α × List UInt8)
  | 0, input => .error (.fault ⟨.unfinishedObject, input⟩)
  | n + 1, input =>
    match nextKey first input with
    | .error f => .error (.fault f)
    | .ok none => .ok (acc.reverse, input)
    | .ok (some rest) =>
      match readText rest with
      | .error f => .error (.fault f)
      | .ok (key, rest) =>
        if key ∈ keys ∧ (acc.lookup key).isSome then
          .error (.problem (.duplicateField key) rest)
        else
          match skipBlanks rest with
          | [] => .error (.fault ⟨.unfinishedObject, []⟩)
          | b :: rest =>
            if b ≠ 0x3A then .error (.fault ⟨.expectedColon, rest⟩)
            else if key ∈ keys then
              match item rest with
              | .error f => .error (.fault f)
              | .ok (x, rest) => membersFrom keys item ((key, x) :: acc) false n rest
            else
              match skipValue rest with
              | .error f => .error (.fault f)
              | .ok rest => membersFrom keys item acc false n rest

/-- Members of a record that is written as an array, in the order of `keys`. -/
def positional {α : Type} (item : Reader α) (acc : Members α) :
    List String → List UInt8 → Except Fault (Members α × List UInt8)
  | [], input => .ok (acc.reverse, input)
  | key :: keys, input =>
    match nextItem acc.isEmpty input with
    | .error f => .error f
    | .ok none => .ok (acc.reverse, input)
    | .ok (some rest) =>
      match item rest with
      | .error f => .error f
      | .ok (x, rest) => positional item ((key, x) :: acc) keys rest

/-- Reads the record called `name`, whose members are all read by `item`; `build` makes the value or
names a member that must not be missing. -/
def record {α β : Type} (name : String) (keys : List String) (item : Reader α)
    (build : Members α → Except String β) : Reader β := fun input =>
  match skipBlanks input with
  | [] => failNext .unfinishedValue []
  | b :: rest =>
    if b = 0x5B then
      match positional item [] keys rest with
      | .error f => .error f
      | .ok (members, rest) =>
        match build members with
        | .ok x => (closeList rest).map fun rest => (x, rest)
        | .error _ => failHere (.shortRecord members.length name keys.length) (leaveList rest)
    else if b = 0x7B then
      match membersFrom keys item [] true (rest.length + 1) rest with
      | .error (.fault f) => .error f
      | .error (.problem p rest) => failHere p (leaveObject rest)
      | .ok (members, rest) =>
        match build members with
        | .ok x => (closeObject rest).map fun rest => (x, rest)
        | .error missing => failHere (.missingField missing) (leaveObject rest)
    else mismatch name (b :: rest)

/-- Reads a document that consists of one value. -/
def document {α : Type} (r : Reader α) (input : List UInt8) : Except Fault α :=
  match r input with
  | .error f => .error f
  | .ok (x, rest) =>
    match skipBlanks rest with
    | [] => .ok x
    | rest => failNext .trailingCharacters rest

end Reader

end SoapGateway.Json
