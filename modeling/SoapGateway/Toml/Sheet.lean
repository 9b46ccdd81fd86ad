import SoapGateway.Toml.Document

/-!
# Written documents

How a document with sections may be written, apart from how it is read. A character has several
spellings between double quotes; blanks, comments and empty lines may stand where they mean nothing.
-/
namespace SoapGateway.Toml

/-- Letters that name a character after a backslash. -/
def shortEscapes : List (Char × Char) :=
  [('b', '\x08'), ('t', '\t'), ('n', '\n'), ('f', '\x0c'), ('r', '\r'), ('"', '"'), ('\\', '\\')]

/-- Letters after which a code point follows, with the number of its digits. -/
def pointEscapes : List (Char × Nat) := [('u', 4), ('U', 8)]

inductive Spells : Char → List Char → Prop where
  | plain {c : Char} (basic : isBasic c = true) : Spells c [c]
  | short {c letter : Char} (known : (letter, c) ∈ shortEscapes) : Spells c ['\\', letter]
  | point {c letter : Char} {hex : List Char} (known : (letter, hex.length) ∈ pointEscapes)
    (digits : ∀ d ∈ hex, (Text.hexValue? d).isSome = true)
    (names : Text.valueOf 16 hex = c.toNat) : Spells c ('\\' :: letter :: hex)

/-- What may be written for a text between double quotes. -/
inductive Writes : List Char → List Char → Prop where
  | nil : Writes [] []
  | cons {c : Char} {s t u : List Char} (spells : Spells c t) (writes : Writes s u) :
    Writes (c :: s) (t ++ u)

inductive IsName : String → List Char → Prop where
  | bare {t : List Char} (some : t ≠ []) (letters : ∀ c ∈ t, isBare c = true) :
    IsName (String.ofList t) t
  | quoted {s t : List Char} (writes : Writes s t) : IsName (String.ofList s) ('"' :: t ++ ['"'])

/-- Blanks, or nothing. -/
def IsGap (s : List Char) : Prop := ∀ c ∈ s, isBlank c = true

/-- What may follow a value on its line. -/
def Halts (rest : List Char) : Prop :=
  ∀ c ∈ rest.head?, isBlank c = true ∨ c ∈ ['#', '\n', '\r']

/-- What may be written for a value. Nothing is said here about spellings of other values, and other
spellings of these, but that a reader knows them. -/
inductive IsValue : Value → List Char → Prop where
  | text {s t : List Char} (writes : Writes s t) :
    IsValue (.text (String.ofList s)) ('"' :: t ++ ['"'])
  | integer {n : Nat} (fits : n < Number.twoPow 63) : IsValue (.integer n) (Text.digits n)
  | yes : IsValue (.boolean true) "true".toList
  | no : IsValue (.boolean false) "false".toList
  | other {v : Value} {t : List Char}
    (known : ∀ rest, Halts rest → topValue (t ++ rest) = some (v, rest)) : IsValue v t

def IsRemark (s : List Char) : Prop :=
  s = [] ∨ ∃ words, s = '#' :: words ∧ ∀ c ∈ words, isPlain c = true

/-- The end of a line before what follows; the last line needs no line end. -/
inductive Ends : List Char → List Char → Prop where
  | intro {gap words newline rest : List Char} (blank : IsGap gap) (remark : IsRemark words)
    (newlines : newline = ['\n'] ∨ newline = ['\r', '\n'] ∨ newline = [] ∧ rest = []) :
    Ends (gap ++ words ++ newline) rest

/-- What a line writes. -/
inductive Line where
  | entry (key : String) (v : Value)
  /-- The header of a section. -/
  | header (name : String)

inductive Written : List Line → List Char → Prop where
  | nil : Written [] []
  | idle {lines : List Line} {tail rest : List Char} (some : tail ≠ []) (ends : Ends tail rest)
    (more : Written lines rest) : Written lines (tail ++ rest)
  | entry {lines : List Line} {key : String} {v : Value} {a name b c value tail rest : List Char}
    (indent : IsGap a) (isName : IsName key name) (before : IsGap b) (after : IsGap c)
    (isValue : IsValue v value) (ends : Ends tail rest) (more : Written lines rest) :
    Written (.entry key v :: lines) (a ++ name ++ b ++ '=' :: c ++ value ++ tail ++ rest)
  | header {lines : List Line} {title : String} {a b name c tail rest : List Char}
    (indent : IsGap a) (before : IsGap b) (isName : IsName title name) (after : IsGap c)
    (ends : Ends tail rest) (more : Written lines rest) :
    Written (.header title :: lines) (a ++ '[' :: b ++ name ++ c ++ ']' :: tail ++ rest)

/-- A document with sections: entries outside of them, and the entries of each. -/
structure Sheet where
  loose : List (String × Value)
  sections : List (String × List (String × Value))

namespace Sheet

def lines (sheet : Sheet) : List Line :=
  sheet.loose.map (fun m => .entry m.1 m.2) ++
    sheet.sections.flatMap fun part =>
      .header part.1 :: part.2.map fun m => .entry m.1 m.2

/-- Nothing is named twice where it stands. -/
structure IsDistinct (sheet : Sheet) : Prop where
  names : (sheet.loose.map Prod.fst ++ sheet.sections.map Prod.fst).Nodup
  keys : ∀ part ∈ sheet.sections, (part.2.map Prod.fst).Nodup

/-- The members of a document: a section is a table. -/
def members (sheet : Sheet) : List (String × Value) :=
  sheet.loose ++ sheet.sections.map fun part => (part.1, .table part.2)

end Sheet

end SoapGateway.Toml
