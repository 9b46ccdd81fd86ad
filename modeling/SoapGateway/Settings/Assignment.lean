import SoapGateway.Settings.Key
import SoapGateway.Settings.Load

/-!
# Assigned settings

Values for some of the settings, key by key, and what it is for a document to give them.
-/
namespace SoapGateway.Settings

open Toml (Value)

namespace Kind

/-- How a document gives a value. -/
def toml : (kind : Kind) → kind.Carrier → Value
  | text, s => .text s
  | count, (n : Nat) => .integer n
  | flag, b => .boolean b

/-- Numbers in documents have 64 bits and a sign. -/
def Fits : (kind : Kind) → kind.Carrier → Prop
  | count, (n : Nat) => n < Number.twoPow 63
  | _, _ => True

end Kind

abbrev Assignment : Type := (k : Key) → Option k.kind.Carrier

/-- What stands under a key of a section. -/
def valueAt? (members : List (String × Value)) (part key : String) : Option Value :=
  match members.lookup part with
  | some (.table entries) => entries.lookup key
  | _ => none

namespace Assignment

/-- An assignment on some keys. -/
def only (a : Assignment) (p : Key → Bool) : Assignment := fun k => if p k then a k else none

/-- An assignment without some keys. -/
def without (a : Assignment) (p : Key → Bool) : Assignment := fun k => if p k then none else a k

/-- Settings that have the assigned values, and are as before under the other keys. -/
def Fills (a : Assignment) (s s' : Settings) : Prop := ∀ k : Key, k.get s' = (a k).getD (k.get s)

/-- All numbers can be given by a document. -/
def IsBounded (a : Assignment) : Prop := ∀ k, ∀ v ∈ a k, k.kind.Fits v

/-- A document gives the assigned values and no other settings. What else is in it does not matter,
as long as no section of the settings is anything but a table, and nothing is named twice. -/
structure StandsIn (a : Assignment) (members : List (String × Value)) : Prop where
  names : (members.map Prod.fst).Nodup
  tables : ∀ m ∈ members, (∃ k : Key, k.group = m.1) →
    ∃ entries, m.2 = .table entries ∧ (entries.map Prod.fst).Nodup
  given : ∀ k : Key, valueAt? members k.group k.name = (a k).map k.kind.toml

/-- Reading comes to the one settings that have the assigned values and the default ones under the
other keys: they are accepted if they violate no rule, and refused with all violations otherwise. -/
def Decides (a : Assignment) (outcome : Except Fault Settings) : Prop :=
  ∃ s : Settings, (∀ s', a.Fills {} s' ↔ s' = s) ∧
    outcome = if s.violations = [] then .ok s else .error (.invalid s.violations)

end Assignment

def isSection (part : String) : Bool := Key.all.any fun k => k.group == part

def isSetting (part key : String) : Bool := Key.all.any fun k => k.group == part && k.name == key

/-- A section without what is no setting. -/
def knownEntries (part : String) : Value → Value
  | .table entries => .table (entries.filter fun m => isSetting part m.1)
  | v => v

/-- A document without what is no setting and no section of the settings. -/
def known (members : List (String × Value)) : List (String × Value) :=
  (members.filter fun m => isSection m.1).map fun m => (m.1, knownEntries m.1 m.2)

end SoapGateway.Settings
