import SoapGateway.Xml.Escape
import SoapGateway.Xml.Event

/-!
# Attributes

The attributes of a start tag in order, up to the first fault. Positions count octets from the
beginning of the tag's name. Values are still escaped.
-/
namespace SoapGateway.Xml

structure Attribute where
  name : List Char
  value : List Char
  deriving DecidableEq, Repr

inductive AttributeFault where
  | expectedEquals (position : Nat)
  | expectedValue (position : Nat)
  | unquoted (position : Nat)
  | unclosed (position : Nat) (quote : Char)
  | duplicate (position previous : Nat)
  deriving DecidableEq, Repr

def AttributeFault.message : AttributeFault → String
  | expectedEquals p =>
    "error while parsing attribute: position " ++ Text.ofNat p ++
      ": attribute key must be directly followed by `=` or space"
  | expectedValue p =>
    "error while parsing attribute: position " ++ Text.ofNat p ++
      ": `=` must be followed by an attribute value"
  | unquoted p =>
    "error while parsing attribute: position " ++ Text.ofNat p ++
      ": attribute value must be enclosed in `\"` or `'`"
  | unclosed p q =>
    "error while parsing attribute: position " ++ Text.ofNat p ++
      ": missing closing quote `" ++ String.singleton q ++ "` in attribute value"
  | duplicate p previous =>
    "error while parsing attribute: position " ++ Text.ofNat p ++
      ": duplicated attribute, previous declaration at position " ++ Text.ofNat previous

/-- Reads the value after an equals sign at octet `position`. -/
def attributeValue (position : Nat) (s : List Char) :
    Except AttributeFault (List Char × Nat × List Char) :=
  let blank := s.takeWhile isSpace
  let position := position + Utf8.octets blank
  match s.dropWhile isSpace with
  | [] => .error (.expectedValue position)
  | q :: rest =>
    if q = '"' ∨ q = '\'' then
      let value := rest.takeWhile (· != q)
      match rest.dropWhile (· != q) with
      | [] => .error (.unclosed (position + 1 + Utf8.octets value) q)
      | _ :: after => .ok (value, position + Utf8.octets value + 2, after)
    else .error (.unquoted position)

/-- Attributes of what is left of a tag at octet `position`; `seen` lists the names so far with
their positions. Each attribute takes a character at least, which bounds the recursion. -/
def attributesFrom (seen : List (List Char × Nat)) (position : Nat) :
    Nat → List Char → List (Except AttributeFault Attribute)
  | 0, _ => []
  | n + 1, s =>
    let position := position + Utf8.octets (s.takeWhile isSpace)
    match s.dropWhile isSpace with
    | [] => []
    | c :: rest =>
      let more := fun d => d != '=' && !isSpace d
      let name := c :: rest.takeWhile more
      let gap := (rest.dropWhile more).takeWhile isSpace
      let equals := position + Utf8.octets name + Utf8.octets gap
      match (rest.dropWhile more).dropWhile isSpace with
      | '=' :: rest =>
        match seen.lookup name with
        | some previous => [.error (.duplicate position previous)]
        | none =>
          match attributeValue (equals + 1) rest with
          | .error f => [.error f]
          | .ok (value, position', rest) =>
            .ok ⟨name, value⟩ :: attributesFrom ((name, position) :: seen) position' n rest
      | _ => [.error (.expectedEquals equals)]

def attributes (tag : List Char) : List (Except AttributeFault Attribute) :=
  let name := tagName tag
  attributesFrom [] (Utf8.octets name) (tag.length + 1) (tag.drop name.length)

/-- The name under which an attribute is looked up: its local part, unless the attribute declares a
namespace. -/
def attributeKey (name : List Char) : List Char :=
  match name.dropWhile (· != ':') with
  | [] => name
  | _ :: rest => if name.takeWhile (· != ':') = "xmlns".toList then name else rest

end SoapGateway.Xml
