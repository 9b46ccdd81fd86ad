import SoapGateway.Xml.Escape

/-!
# Flat elements

Names of XML 1.1, and elements that hold one namespace attribute and a row of text elements. This is
all that a request needs.
-/
namespace SoapGateway.Xml

def inRanges (ranges : List (Nat × Nat)) (c : Char) : Bool :=
  ranges.any fun r => r.1 ≤ c.toNat && c.toNat ≤ r.2

def isNameStart (c : Char) : Bool :=
  c == ':' || c == '_' || c.isAlpha ||
    inRanges [(0xC0, 0xD6), (0xD8, 0xF6), (0xF8, 0x2FF), (0x370, 0x37D), (0x37F, 0x1FFF),
      (0x200C, 0x200D), (0x2070, 0x218F), (0x2C00, 0x2FEF), (0x3001, 0xD7FF), (0xF900, 0xFDCF),
      (0xFDF0, 0xFFFD), (0x10000, 0xEFFFF)] c

def isNameChar (c : Char) : Bool :=
  isNameStart c || c == '-' || c == '.' || c.isDigit ||
    inRanges [(0xB7, 0xB7), (0x300, 0x36F), (0x203F, 0x2040)] c

inductive NameFault where
  | start (c : Char) (name : String)
  | inside (c : Char) (name : String)
  deriving DecidableEq, Repr

def NameFault.message : NameFault → String
  | start c name =>
    "Unsupported operation: character `" ++ String.singleton c ++
      "` is not allowed at the start of an XML name `" ++ name ++ "`"
  | inside c name =>
    "Unsupported operation: character `" ++ String.singleton c ++
      "` is not allowed in an XML name `" ++ name ++ "`"

/-- Accepts a name; nothing is said about the empty text. -/
def checkName (name : String) : Except NameFault Unit :=
  match name.toList with
  | [] => .ok ()
  | c :: rest =>
    if !isNameStart c then .error (.start c name)
    else
      match (c :: rest).find? (fun d => !isNameChar d) with
      | some d => .error (.inside d name)
      | none => .ok ()

/-- An element with a namespace declaration and text elements as children. -/
structure FlatElement where
  name : String
  xmlns : String
  fields : List (String × String)
  deriving DecidableEq, Repr

namespace FlatElement

def renderField (field : String × String) : List Char :=
  let name := field.1.toList
  if field.2 = "" then '<' :: name ++ "/>".toList
  else '<' :: name ++ '>' :: escapeText field.2.toList ++ "</".toList ++ name ++ ['>']

/-- The source text of an element; without children it is written as one tag. -/
def render (e : FlatElement) : List Char :=
  let name := e.name.toList
  let head := '<' :: name ++ " xmlns=\"".toList ++ escapeAttribute e.xmlns.toList ++ ['"']
  if e.fields.isEmpty then head ++ "/>".toList
  else head ++ '>' :: e.fields.flatMap renderField ++ "</".toList ++ name ++ ['>']

end FlatElement

end SoapGateway.Xml
