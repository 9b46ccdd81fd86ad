import SoapGateway.Text.Decimal

/-!
# JSON values and their compact text

Documents that the gateway writes. Members of an object keep the order in which they are listed, and
nothing but what the grammar requires is written: no blanks, and an escape only for the quote, the
backslash and the characters below U+0020.
-/
namespace SoapGateway.Json

/-- A JSON document with whole numbers. -/
inductive Value where
  | null
  | bool (b : Bool)
  | number (n : Int)
  | text (s : String)
  | array (items : List Value)
  | object (members : List (String × Value))
  deriving Repr, Inhabited

/-- A character inside a JSON string. -/
def escapeChar (c : Char) : List Char :=
  if c = '"' then ['\\', '"']
  else if c = '\\' then ['\\', '\\']
  else if c = '\x08' then ['\\', 'b']
  else if c = '\x0c' then ['\\', 'f']
  else if c = '\n' then ['\\', 'n']
  else if c = '\r' then ['\\', 'r']
  else if c = '\t' then ['\\', 't']
  else if c.toNat < 0x20 then
    ['\\', 'u', '0', '0', Text.hexChar (c.toNat / 16), Text.hexChar (c.toNat % 16)]
  else [c]

def quote (s : List Char) : List Char := '"' :: s.flatMap escapeChar ++ ['"']

def commaSeparated : List (List Char) → List Char
  | [] => []
  | [s] => s
  | s :: rest => s ++ ',' :: commaSeparated rest

namespace Value

mutual

def render : Value → List Char
  | null => "null".toList
  | bool b => if b then "true".toList else "false".toList
  | number n => (Text.ofInt n).toList
  | text s => quote s.toList
  | array items => '[' :: commaSeparated (renderItems items) ++ [']']
  | object members => '{' :: commaSeparated (renderMembers members) ++ ['}']

def renderItems : List Value → List (List Char)
  | [] => []
  | v :: rest => v.render :: renderItems rest

def renderMembers : List (String × Value) → List (List Char)
  | [] => []
  | (k, v) :: rest => (quote k.toList ++ ':' :: v.render) :: renderMembers rest

end

def compact (v : Value) : String := String.ofList v.render

/-- The member of an object with a given name; the last one counts. -/
def member? (name : String) : Value → Option Value
  | object members => (members.reverse.find? (fun m => m.1 == name)).map (·.2)
  | _ => none

end Value

end SoapGateway.Json
