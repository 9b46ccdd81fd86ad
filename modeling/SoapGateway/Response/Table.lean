import SoapGateway.Text.Blank
import SoapGateway.Text.Utf8
import SoapGateway.Xml.Outline

/-!
# Tables in any document

What a listing holds in any body, well-formed or not: the child elements of the first element with
the target's name that have the name of a row, and in each of them the child elements that have the
name of a field. Everything else in the body is left out of it.
-/
namespace SoapGateway.Response

open Text (trimBy)
open Xml (Outline isSpace)

/-- What stands in the first element named `target` of the text that a body is. -/
def content? (target : String) (body : List UInt8) : Option Outline :=
  match Utf8.decode body with
  | .error _ => none
  | .ok xml => Outline.first? target.toList (Xml.events xml)

/-- For each element named `row` among siblings and each field, what stands in the child elements
with the name of the field. -/
def table (row : String) (fields : List String) (o : Outline) : List (List (List Outline)) :=
  (o.children row).map fun content => fields.map content.children

/-- The text of a field, given what stands in the elements of its name: there is at most one, and
the text is its character data, but for white space around it. -/
inductive Fills : List Outline → String → Prop
  | absent : Fills [] ""
  | only {content : Outline} {data : List Char} {s : String} (read : content.data = .ok data)
    (same : trimBy isSpace s.toList = trimBy isSpace data) : Fills [content] s

end SoapGateway.Response
