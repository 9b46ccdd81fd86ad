import SoapGateway.Idna.MappingTable
import SoapGateway.Idna.PropertyTable
import SoapGateway.Text.Decimal
import SoapGateway.Text.Pieces

/-!
# Mapping and properties of characters

The tables in the form in which they are asked: what becomes of a character in a domain name, and
which direction, joining and mark a character has.
-/
namespace SoapGateway.Idna

open SoapGateway.Text (splitAll valueOf)

/-- What becomes of the code points of a run. -/
inductive Treatment where
  | valid
  | refused
  | ignored
  /-- Every other code point is replaced by the next one. -/
  | paired
  | shifted (distance : Int)
  | replaced (text : List Char)
  deriving DecidableEq, Repr

def hex (s : List Char) : Nat := valueOf 16 s

/-- The length and the treatment that an entry of the mapping table states. -/
def treatmentOf : List Char → Nat × Treatment
  | 'v' :: n => (hex n, .valid)
  | 'i' :: n => (hex n, .ignored)
  | 'a' :: n => (hex n, .paired)
  | 's' :: entry =>
    match Text.splitOnce ':' entry, Text.splitOnce ';' entry with
    | (n, some up), _ => (hex n, .shifted (hex up))
    | _, (n, some down) => (hex n, .shifted (-(hex down : Int)))
    | _, _ => (0, .refused)
  | 'c' :: entry =>
    match Text.splitOnce ':' entry with
    | (n, some points) =>
      (hex n, .replaced ((splitAll '.' points).map fun p => Char.ofNat (hex p)))
    | _ => (0, .refused)
  | _ :: n => (hex n, .refused)
  | [] => (0, .refused)

def entries (rows : List String) : List (List Char) :=
  rows.flatMap fun row => splitAll ' ' row.toList

def mappingRuns : List (Nat × Treatment) := (entries mappingRows).map treatmentOf

/-- The treatment of the code point that lies `n` places after the beginning of a list of runs, and
its place in its run. -/
def treatmentAt : Nat → List (Nat × Treatment) → Treatment × Nat
  | n, [] => (.refused, n)
  | n, (length, t) :: rest => if n < length then (t, n) else treatmentAt (n - length) rest

/-- What replaces a character in a domain name, or nothing if it is refused. -/
def mapped? (c : Char) : Option (List Char) :=
  match treatmentAt c.toNat mappingRuns with
  | (.valid, _) => some [c]
  | (.refused, _) => none
  | (.ignored, _) => some []
  | (.paired, place) => some [if place % 2 = 0 then Char.ofNat (c.toNat + 1) else c]
  | (.shifted d, _) => some [Char.ofNat ((c.toNat : Int) + d).toNat]
  | (.replaced text, _) => some text

def isValid (c : Char) : Bool := mapped? c == some [c]

/-- The code points at which a property changes, with the letter of its new value. -/
def switches (rows : List String) : List (Nat × Char) :=
  (entries rows).map fun e => (hex e.dropLast, e.getLast?.getD 'X')

def directionSwitches : List (Nat × Char) := switches directionRows

def joiningSwitches : List (Nat × Char) := switches joiningRows

def markSwitches : List (Nat × Char) := switches markRows

/-- The value of a property that holds at a code point; `current` is the one before the first
switch. -/
def valueAt {α : Type} (n : Nat) (current : α) : List (Nat × α) → α
  | [] => current
  | (start, next) :: rest => if n < start then current else valueAt n next rest

def direction (c : Char) : Char := valueAt c.toNat 'X' directionSwitches

def joining (c : Char) : Char := valueAt c.toNat 'U' joiningSwitches

def mark (c : Char) : Char := valueAt c.toNat 'O' markSwitches

end SoapGateway.Idna
