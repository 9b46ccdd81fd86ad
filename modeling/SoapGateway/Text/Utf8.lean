/-!
# UTF-8

Encoding of characters as octets, and the two ways of reading octets back: the strict reader, which
names the first octets that are no character, and the tolerant one, which writes the replacement
character for every maximal malformed piece. Both rest on `next`, which takes one well-formed
character (RFC 3629) or the longest malformed beginning of one.
-/
namespace SoapGateway.Utf8

def encode (s : List Char) : List UInt8 := s.flatMap String.utf8EncodeChar

def octets (s : List Char) : Nat := s.foldr (fun c n => c.utf8Size + n) 0

def bytesOf (s : String) : List UInt8 := encode s.toList

/-- What a first octet announces: how many octets follow, and the range of the second. -/
def lead? (b : Nat) : Option (Nat × Nat × Nat) :=
  if b < 0x80 then some (0, 0, 0)
  else if 0xC2 ≤ b ∧ b ≤ 0xDF then some (1, 0x80, 0xBF)
  else if b = 0xE0 then some (2, 0xA0, 0xBF)
  else if b = 0xED then some (2, 0x80, 0x9F)
  else if 0xE1 ≤ b ∧ b ≤ 0xEF then some (2, 0x80, 0xBF)
  else if b = 0xF0 then some (3, 0x90, 0xBF)
  else if 0xF1 ≤ b ∧ b ≤ 0xF3 then some (3, 0x80, 0xBF)
  else if b = 0xF4 then some (3, 0x80, 0x8F)
  else none

def isTail (b : Nat) : Bool := 0x80 ≤ b && b ≤ 0xBF

inductive Step where
  /-- A character, followed by `rest`. -/
  | char (c : Char) (rest : List UInt8)
  /-- `length` octets that begin no character; `atEnd` when only the end of input is at fault. -/
  | malformed (length : Nat) (atEnd : Bool) (rest : List UInt8)
  | done

/-- Collects the tails that a lead octet still owes; `seen` octets have been read. -/
def tails (value seen : Nat) : Nat → List UInt8 → Step
  | 0, rest => .char (Char.ofNat value) rest
  | _ + 1, [] => .malformed seen true []
  | owed + 1, b :: rest =>
    if isTail b.toNat then tails (value * 64 + (b.toNat - 0x80)) (seen + 1) owed rest
    else .malformed seen false (b :: rest)

def next : List UInt8 → Step
  | [] => .done
  | b :: rest =>
    match lead? b.toNat with
    | none => .malformed 1 false rest
    | some (0, _, _) => .char (Char.ofNat b.toNat) rest
    | some (owed + 1, low, high) =>
      match rest with
      | [] => .malformed 1 true []
      | c :: rest' =>
        if low ≤ c.toNat ∧ c.toNat ≤ high then
          let mask := if owed = 0 then 0xC0 else if owed = 1 then 0xE0 else 0xF0
          tails ((b.toNat - mask) * 64 + (c.toNat - 0x80)) 2 owed rest'
        else .malformed 1 false (c :: rest')

/-- Why octets are not a text: the index of the first bad octet, and the number of octets at fault,
or `none` when the text ends inside a character. -/
structure Fault where
  index : Nat
  length? : Option Nat
  deriving DecidableEq, Repr

def decodeFrom (index : Nat) (acc : List Char) : Nat → List UInt8 → Except Fault (List Char)
  | 0, _ => .ok acc.reverse
  | fuel + 1, input =>
    match next input with
    | .done => .ok acc.reverse
    | .char c rest => decodeFrom (index + c.utf8Size) (c :: acc) fuel rest
    | .malformed length atEnd _ => .error ⟨index, if atEnd then none else some length⟩

/-- The text that octets write, or the first fault. -/
def decode (input : List UInt8) : Except Fault (List Char) := decodeFrom 0 [] input.length input

/-- The text that octets write, if they are well-formed. -/
def decode? (input : List UInt8) : Option String :=
  match decode input with
  | .ok s => some (String.ofList s)
  | .error _ => none

def decodeLossyFrom (acc : List Char) : Nat → List UInt8 → List Char
  | 0, _ => acc.reverse
  | fuel + 1, input =>
    match next input with
    | .done => acc.reverse
    | .char c rest => decodeLossyFrom (c :: acc) fuel rest
    | .malformed _ _ rest => decodeLossyFrom (Char.ofNat 0xFFFD :: acc) fuel rest

/-- The text that octets write, with the replacement character for each malformed piece. -/
def decodeLossy (input : List UInt8) : String :=
  String.ofList (decodeLossyFrom [] input.length input)

end SoapGateway.Utf8
