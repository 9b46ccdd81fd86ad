import SoapGateway.Toml.Scalar
import SoapGateway.Toml.Tree

/-!
# TOML documents

Reading values, which may be nested to a fixed depth, and whole documents: lines that set a key,
open a table, or hold a comment or nothing. A text is a document or it is not; nothing is said
about why.
-/
namespace SoapGateway.Toml

/-- Reads the values of a list up to its closing bracket; bounded by the length of the text. -/
def items (value : Reader Value) : Nat → Reader (List Value)
  | 0, _ => none
  | n + 1, s =>
    match skipTrivia s with
    | ']' :: rest => some ([], rest)
    | s =>
      match value s with
      | none => none
      | some (v, rest) =>
        match skipTrivia rest with
        | ',' :: rest => (items value n rest).map fun (vs, rest) => (v :: vs, rest)
        | ']' :: rest => some ([v], rest)
        | _ => none

def pair (value : Reader Value) : Reader (List String × Value) := fun s =>
  match key s with
  | some (key, '=' :: rest) => (value (skipBlanks rest)).map fun (v, rest) => ((key, v), rest)
  | _ => none

/-- Reads the members of a table within a line up to its closing brace; bounded by the length of the
text. -/
def inlineMembers (value : Reader Value) (members : Members) : Nat → Reader Members
  | 0, _ => none
  | n + 1, s =>
    match pair value s with
    | none => none
    | some ((key, v), rest) =>
      match members.set key v with
      | none => none
      | some members =>
        match skipBlanks rest with
        | ',' :: rest => inlineMembers value members n rest
        | '\x7d' :: rest => some (members, rest)
        | _ => none

/-- Reads a table within a line, after its opening brace. -/
def inlineTable (value : Reader Value) : Reader Members := fun s =>
  match skipBlanks s with
  | '\x7d' :: rest => some ([], rest)
  | _ => inlineMembers value [] (s.length + 1) s

/-- Reads a value with at most `depth` lists or tables around one another. -/
def value : Nat → Reader Value
  | _, [] => none
  | depth, c :: rest =>
    if c = '"' ∨ c = '\'' then
      (string (c :: rest)).map fun (s, rest) => (.text (String.ofList s), rest)
    else if c = '[' then
      match depth with
      | 0 => none
      | depth + 1 =>
        (items (value depth) (rest.length + 1) rest).map fun (vs, rest) => (.array vs, rest)
    else if c = '\x7b' then
      match depth with
      | 0 => none
      | depth + 1 =>
        (inlineTable (value depth) rest).map fun (ms, rest) => (.table (Node.toMembers ms), rest)
    else
      match c :: rest with
      | 't' :: 'r' :: 'u' :: 'e' :: rest => some (.boolean true, rest)
      | 'f' :: 'a' :: 'l' :: 's' :: 'e' :: rest => some (.boolean false, rest)
      | s => numberOrMoment s

def topValue : Reader Value := value (depthLimit - 1)

/-- A document that has been read in part: its tables, and the path to the one that is open. -/
structure Draft where
  members : Members := []
  path : List String := []
  deriving Inhabited

namespace Draft

/-- Sets a key in the open table. -/
def set (d : Draft) (key : List String) (v : Value) : Option Draft :=
  (Members.descend false (fun _ members => members.set key v) d.path .header d.members).map
    fun members => { d with members := members }

/-- Opens another table. -/
def header (d : Draft) (array : Bool) (path : List String) : Option Draft :=
  (d.members.header array path).map fun members => ⟨members, path⟩

end Draft

def headerLine (d : Draft) (s : List Char) : Option (Draft × List Char) :=
  let (array, s) := match s with
    | '[' :: rest => (true, rest)
    | rest => (false, rest)
  let closed := (key s).bind fun (path, rest) =>
    match array, rest with
    | true, ']' :: ']' :: rest => some (path, rest)
    | false, ']' :: rest => some (path, rest)
    | _, _ => none
  closed.bind fun (path, rest) =>
    (endLine? rest).bind fun rest => (d.header array path).map fun d => (d, rest)

def keyLine (d : Draft) (s : List Char) : Option (Draft × List Char) :=
  (pair topValue s).bind fun ((key, v), rest) =>
    (endLine? rest).bind fun rest => (d.set key v).map fun d => (d, rest)

def line (d : Draft) (s : List Char) : Option (Draft × List Char) :=
  match skipBlanks s with
  | '[' :: rest => headerLine d rest
  | c :: rest =>
    if c = '#' ∨ c = '\n' ∨ c = '\r' then (endLine? (c :: rest)).map fun rest => (d, rest)
    else keyLine d (c :: rest)
  | [] => some (d, [])

/-- Reads all lines; bounded by the length of the text. -/
def lines : Nat → Draft → List Char → Option Draft
  | 0, _, _ => none
  | _ + 1, d, [] => some d
  | n + 1, d, s => (line d s).bind fun (d, rest) => lines n d rest

/-- A text without the mark of its encoding. -/
def dropMark : List Char → List Char
  | '\uFEFF' :: rest => rest
  | s => s

/-- The members of the document that a text writes. -/
def document? (text : String) : Option (List (String × Value)) :=
  let s := dropMark text.toList
  (lines (s.length + 1) {} s).map fun d => Node.toMembers d.members

end SoapGateway.Toml
