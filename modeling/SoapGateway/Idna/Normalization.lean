import SoapGateway.Idna.Mapping
import SoapGateway.Idna.NormalizationTable

/-!
# Normalization

One spelling for each text (NFC). Every character is taken apart as far as it goes, the marks after
a letter are put in the order of their classes, and what makes one character together is composed
again. The characters are those that the mapping table lets pass, each of which is a spelling of its
own already: whatever comes apart can be composed again.
-/
namespace SoapGateway.Idna

open SoapGateway.Text (splitAll)

/-- The composed characters that an entry states, each after its two parts. -/
def compositesOf (second : Nat) : List (List Char) → List ((Nat × Nat) × Nat)
  | first :: whole :: rest => ((hex first, second), hex whole) :: compositesOf second rest
  | _ => []

def composites : List ((Nat × Nat) × Nat) :=
  (entries compositeRows).flatMap fun e =>
    match Text.splitOnce ':' e with
    | (second, some pairs) => compositesOf (hex second) (splitAll '.' pairs)
    | _ => []

def classSwitches : List (Nat × Nat) :=
  (entries classRows).map fun e =>
    match Text.splitOnce ':' e with
    | (start, some value) => (hex start, hex value)
    | _ => (hex e, 0)

/-- The class of a character among marks. -/
def combiningClass (c : Char) : Nat := valueAt c.toNat 0 classSwitches

/-- The two parts of a syllable: what comes before its last letter, and this letter. The first
syllable is U+AC00; after every one that ends in a vowel come those with a third letter. -/
def syllableParts? (n : Nat) : Option (Nat × Nat) :=
  let place := n - 0xAC00
  if n < 0xAC00 ∨ 0xD7A3 < n then none
  else if place % 28 = 0 then some (0x1100 + place / 588, 0x1161 + place % 588 / 28)
  else some (n - place % 28, 0x11A7 + place % 28)

def syllable? (first second : Nat) : Option Nat :=
  if 0x1100 ≤ first ∧ first ≤ 0x1112 ∧ 0x1161 ≤ second ∧ second ≤ 0x1175 then
    some (0xAC00 + (first - 0x1100) * 588 + (second - 0x1161) * 28)
  else if 0xAC00 ≤ first ∧ first ≤ 0xD7A3 ∧ (first - 0xAC00) % 28 = 0 ∧
      0x11A7 < second ∧ second ≤ 0x11C2 then
    some (first + (second - 0x11A7))
  else none

def parts? (c : Char) : Option (Char × Char) :=
  let stated := (composites.find? fun e => e.2 == c.toNat).map Prod.fst
  ((syllableParts? c.toNat).or stated).map fun p => (Char.ofNat p.1, Char.ofNat p.2)

def composite? (first second : Char) : Option Char :=
  let stated := composites.lookup (first.toNat, second.toNat)
  ((syllable? first.toNat second.toNat).or stated).map Char.ofNat

/-- A character taken apart, at most `depth` times; only its first part can come apart again. -/
def takeApart : Nat → Char → List Char
  | 0, c => [c]
  | depth + 1, c =>
    match parts? c with
    | some (first, second) => takeApart depth first ++ [second]
    | none => [c]

/-- Puts a character before a text, behind all marks of lower classes than its own. -/
def insertMark (c : Char) : List Char → List Char
  | [] => [c]
  | d :: rest =>
    if 0 < combiningClass d ∧ combiningClass d < combiningClass c then d :: insertMark c rest
    else c :: d :: rest

/-- Composes what follows a letter with it. A mark reaches the letter if all `marks` that are left
in between have lower classes. -/
def compose (letter : Char) (marks : List Char) : List Char → List Char
  | [] => letter :: marks
  | c :: rest =>
    let reaches := marks.all fun m => combiningClass m < combiningClass c
    match if reaches then composite? letter c else none with
    | some whole => compose whole marks rest
    | none =>
      if combiningClass c = 0 then letter :: marks ++ compose c [] rest
      else compose letter (marks ++ [c]) rest

/-- Composes a text; marks at its front stay. -/
def composeAll : List Char → List Char
  | [] => []
  | c :: rest => if combiningClass c = 0 then compose c [] rest else c :: composeAll rest

def isAscii (s : List Char) : Bool := s.all fun c => c.toNat < 128

/-- The one spelling of a text. No character comes apart more than three times. -/
def normalize (s : List Char) : List Char :=
  if isAscii s then s
  else composeAll ((s.flatMap (takeApart 3)).foldr insertMark [])

end SoapGateway.Idna
