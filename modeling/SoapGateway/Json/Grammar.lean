import SoapGateway.Json.Value

/-!
# The grammar of JSON

How documents may be written, apart from any reader or writer. Gaps may stand between the parts of a
document, and a character of a text has several spellings. Each relation holds between characters,
what stands at their front, and what is left of them. Numbers are whole ones, as in `Value`: nothing
is said here about a fraction or an exponent.
-/
namespace SoapGateway.Json

/-- A character that may stand between the parts of a document. -/
def isGap (c : Char) : Bool := c == ' ' || c == '\t' || c == '\n' || c == '\r'

def afterGap (s : List Char) : List Char := s.dropWhile isGap

def unit? : List Char → Option (Nat × List Char)
  | a :: b :: c :: d :: rest =>
    if [a, b, c, d].all fun x => (Text.hexValue? x).isSome then
      some (Text.valueOf 16 [a, b, c, d], rest)
    else none
  | _ => none

/-- The character of one code unit, or of two that are a surrogate pair. -/
def units? (s : List Char) : Option (Char × List Char) :=
  match unit? s with
  | none => none
  | some (n, rest) =>
    if n < 0xD800 ∨ 0xDFFF < n then some (Char.ofNat n, rest)
    else
      match rest with
      | '\\' :: 'u' :: rest =>
        match unit? rest with
        | none => none
        | some (low, rest) =>
          if n < 0xDC00 ∧ 0xDC00 ≤ low ∧ low ≤ 0xDFFF then
            some (Char.ofNat (0x10000 + (n - 0xD800) * 1024 + (low - 0xDC00)), rest)
          else none
      | _ => none

def escapes : List (Char × Char) :=
  [('"', '"'), ('\\', '\\'), ('/', '/'), ('b', '\x08'), ('f', '\x0c'), ('n', '\n'), ('r', '\r'),
    ('t', '\t')]

/-- The next character of a text; there is none at its closing quote. -/
def character? : List Char → Option (Char × List Char)
  | [] => none
  | '\\' :: 'u' :: rest => units? rest
  | '\\' :: letter :: rest => (escapes.lookup letter).map (·, rest)
  | c :: rest => if c = '"' ∨ c = '\\' ∨ c.toNat < 0x20 then none else some (c, rest)

/-- The characters of a text up to its closing quote. -/
inductive Spells : List Char → List Char → List Char → Prop where
  | done {rest : List Char} : Spells ('"' :: rest) [] rest
  | more {s t u rest : List Char} {c : Char} (next : character? s = some (c, t))
    (spells : Spells t u rest) : Spells s (c :: u) rest

/-- The number of a run of digits, if no zero leads it and no fraction or exponent follows it. -/
def natural? (s : List Char) : Option (Nat × List Char) :=
  let digits := s.takeWhile Text.isDigit
  let rest := s.dropWhile Text.isDigit
  if digits = [] ∨ (digits.head? = some '0' ∧ digits.length ≠ 1) then none
  else if rest.head?.any (· ∈ ['.', 'e', 'E']) then none
  else some (Text.valueOf 10 digits, rest)

def number? : List Char → Option (Int × List Char)
  | '-' :: s => (natural? s).map fun read => (-(read.1 : Int), read.2)
  | s => (natural? s).map fun read => ((read.1 : Int), read.2)

def word? : List Char → Option (Value × List Char)
  | 'n' :: 'u' :: 'l' :: 'l' :: rest => some (.null, rest)
  | 't' :: 'r' :: 'u' :: 'e' :: rest => some (.bool true, rest)
  | 'f' :: 'a' :: 'l' :: 's' :: 'e' :: rest => some (.bool false, rest)
  | s => (number? s).map fun read => (.number read.1, read.2)

/-- Where the next part of an array or an object begins: a comma stands before all but the first.
-/
def part? (first : Bool) (s : List Char) : Option (List Char) :=
  if first then some (afterGap s)
  else
    match afterGap s with
    | ',' :: rest => some (afterGap rest)
    | _ => none

mutual

inductive Begins : List Char → Value → List Char → Prop where
  | word {s rest : List Char} {v : Value} (next : word? s = some (v, rest)) : Begins s v rest
  | text {s t rest : List Char} (spells : Spells s t rest) :
    Begins ('"' :: s) (.text (String.ofList t)) rest
  | array {s rest : List Char} {items : List Value} (listed : Lists true s items rest) :
    Begins ('[' :: s) (.array items) rest
  | object {s rest : List Char} {members : List (String × Value)}
    (bound : Binds true s members rest) : Begins ('{' :: s) (.object members) rest

/-- The items of an array up to its bracket. -/
inductive Lists : Bool → List Char → List Value → List Char → Prop where
  | done {first : Bool} {s rest : List Char} (closed : afterGap s = ']' :: rest) :
    Lists first s [] rest
  | more {first : Bool} {s t u rest : List Char} {v : Value} {items : List Value}
    (next : part? first s = some t) (item : Begins t v u) (others : Lists false u items rest) :
    Lists first s (v :: items) rest

/-- The members of an object up to its brace. -/
inductive Binds : Bool → List Char → List (String × Value) → List Char → Prop where
  | done {first : Bool} {s rest : List Char} (closed : afterGap s = '}' :: rest) :
    Binds first s [] rest
  | more {first : Bool} {s t key u w x rest : List Char} {v : Value}
    {members : List (String × Value)} (next : part? first s = some ('"' :: t))
    (spells : Spells t key u) (colon : afterGap u = ':' :: w) (value : Begins (afterGap w) v x)
    (others : Binds false x members rest) :
    Binds first s ((String.ofList key, v) :: members) rest

end

/-- A text that is a document, with gaps around it and nothing else. -/
def IsDocument (s : List Char) (v : Value) : Prop :=
  ∃ rest, Begins (afterGap s) v rest ∧ afterGap rest = []

end SoapGateway.Json
