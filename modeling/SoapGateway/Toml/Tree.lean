import SoapGateway.Toml.Value

/-!
# Tables under construction

A document is built key by key. Until it is complete, every table remembers how it came to be, since
that decides what may still be added to it: a table under its own header is closed to dotted keys
from elsewhere, one that only a longer header implies may still get its header, and one that dotted
keys make is open to such keys alone. A key is never set twice.
-/
namespace SoapGateway.Toml

/-- How a table came to be. -/
inductive Origin where
  | header
  /-- Some header or dotted key goes through it, and no header names it. -/
  | implied
  | dotted
  deriving DecidableEq, Repr

inductive Node where
  | value (v : Value)
  | table (origin : Origin) (members : List (String × Node))
  /-- A list of tables, one for each header in double brackets. -/
  | tables (items : List (List (String × Node)))
  deriving Inhabited

/-- Members of a table under construction, in order. -/
abbrev Members := List (String × Node)

namespace Node

mutual

def toValue : Node → Value
  | value v => v
  | table _ members => .table (toMembers members)
  | tables items => .array (toTables items)

def toMembers : List (String × Node) → List (String × Value)
  | [] => []
  | (k, node) :: rest => (k, node.toValue) :: toMembers rest

def toTables : List (List (String × Node)) → List Value
  | [] => []
  | members :: rest => .table (toMembers members) :: toTables rest

end

end Node

namespace Members

/-- Changes the entry under a key, or adds one at the end. -/
def change (key : String) (f : Option Node → Option Node) : Members → Option Members
  | [] => (f none).map fun node => [(key, node)]
  | (k, node) :: rest =>
    if k = key then (f (some node)).map fun node => (k, node) :: rest
    else (change key f rest).map ((k, node) :: ·)

/-- Goes down a path of tables and changes the members of the last one, of which `f` is told how it
came to be. Tables that are missing are made. Dotted keys do not enter a table with a header. -/
def descend (dotted : Bool) (f : Origin → Members → Option Members) :
    List String → Origin → Members → Option Members
  | [], origin, members => f origin members
  | key :: path, _, members =>
    members.change key fun
      | none =>
        let origin := if dotted then .dotted else .implied
        (descend dotted f path origin []).map (.table origin)
      | some (.value _) => none
      | some (.tables items) =>
        match items.reverse with
        | [] => none
        | last :: before =>
          (descend dotted f path .header last).map fun last =>
            .tables (before.reverse ++ [last])
      | some (.table origin members) =>
        if dotted ∧ origin = .header then none
        else (descend dotted f path origin members).map (.table origin)

/-- Adds a key that is not there yet. -/
def add (key : String) (node : Node) (members : Members) : Option Members :=
  if members.any (fun m => m.1 == key) then none else some (members ++ [(key, node)])

/-- Sets a dotted key below the table at hand; only the tables on its way may be dotted ones. -/
def set (key : List String) (v : Value) (members : Members) : Option Members :=
  match key.getLast? with
  | none => none
  | some last =>
    descend true (fun origin members =>
        if key.dropLast.isEmpty ∨ origin = .dotted then add last (.value v) members else none)
      key.dropLast .header members

/-- Opens the table of a header; it moves to the end of the table that it stands in. -/
def openTable (last : String) (members : Members) : Option Members :=
  match members.lookup last with
  | none => some (members ++ [(last, .table .header [])])
  | some (.table .implied inner) =>
    some (members.filter (fun m => m.1 != last) ++ [(last, .table .header inner)])
  | some _ => none

/-- Opens the next table of a header in double brackets. -/
def openNext (last : String) (members : Members) : Option Members :=
  members.change last fun
    | none => some (.tables [[]])
    | some (.tables items) => some (.tables (items ++ [[]]))
    | some _ => none

/-- Opens the table that a header names. -/
def header (array : Bool) (path : List String) (members : Members) : Option Members :=
  match path.getLast? with
  | none => none
  | some last =>
    descend false (fun _ members => if array then openNext last members else openTable last members)
      path.dropLast .header members

end Members

end SoapGateway.Toml
