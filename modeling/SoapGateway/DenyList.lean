import SoapGateway.Operation

/-!
# The deny-list

A set of operation names that the gateway refuses, kept in increasing order of code points without
repetition. It is read from a text of names between blanks. Names of no operation may stand in it
and are reported.
-/
namespace SoapGateway

/-- Refused names in increasing order. -/
structure DenyList where
  names : List String := []
  deriving DecidableEq, Repr

namespace DenyList

/-- Puts a name at its place in an ordered list. -/
def insertName (name : String) : List String → List String
  | [] => [name]
  | n :: rest =>
    if name < n then name :: n :: rest
    else if name = n then n :: rest
    else n :: insertName name rest

def contains (d : DenyList) (name : String) : Bool := d.names.contains name

def size (d : DenyList) : Nat := d.names.length

def add (d : DenyList) (name : String) : Bool × DenyList :=
  (!d.contains name, ⟨insertName name d.names⟩)

def ofText (text : String) : DenyList :=
  (Text.words text).foldl (fun d name => (d.add name).2) {}

/-- The names of a text, in order and with repetitions, that belong to no operation. -/
def unknownNames (text : String) : List String :=
  (Text.words text).filter fun name => (Operation.find? name).isNone

end DenyList

end SoapGateway
