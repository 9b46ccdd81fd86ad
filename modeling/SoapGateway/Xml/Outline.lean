import SoapGateway.Xml.Escape
import SoapGateway.Xml.Event

/-!
# Outlines

What stands inside an element of any text, well-formed or not, as far as the events of the text
tell: its texts, its child elements and what stands in these. It is read from the events up to the
end tag of the element, and what follows need not be readable.
-/
namespace SoapGateway.Xml

/-- Siblings: the first of them, and those that follow it. Tags and texts are kept as they are
written, with their references. -/
inductive Outline where
  | nil
  | text (s : List Char) (rest : Outline)
  | cdata (s : List Char) (rest : Outline)
  | doctype (rest : Outline)
  /-- A comment, a processing instruction or the XML declaration. -/
  | aside (rest : Outline)
  | element (tag : List Char) (inner rest : Outline)
  deriving DecidableEq, Repr

namespace Outline

/-- Puts a sibling in front of the innermost level. -/
def onto (sibling : Outline → Outline) : List Outline → List Outline
  | [] => []
  | level :: around => sibling level :: around

/-- What follows a place that is `depth` elements deep in an element: its siblings, then those of
the element around it, and so on up to the end tag of the outermost. -/
def levels? (depth : Nat) : List (Except MarkupFault Token) → Option (List Outline)
  | [] => none
  | .error _ :: _ => none
  | .ok t :: rest =>
    match t.event with
    | .text s => (levels? depth rest).map (onto (text s))
    | .cdata s => (levels? depth rest).map (onto (cdata s))
    | .doctype => (levels? depth rest).map (onto doctype)
    | .aside => (levels? depth rest).map (onto aside)
    | .empty tag => (levels? depth rest).map (onto (element tag nil))
    | .start tag =>
      match levels? (depth + 1) rest with
      | some (inner :: after :: around) => some (element tag inner after :: around)
      | _ => none
    | .stop _ =>
      match depth with
      | 0 => some [nil]
      | d + 1 => (levels? d rest).map (nil :: ·)

/-- What stands in the first element with the local name `target`, in the order of start tags. -/
def first? (target : List Char) : List (Except MarkupFault Token) → Option Outline
  | [] => none
  | .error _ :: _ => none
  | .ok t :: rest =>
    match t.event with
    | .start tag =>
      if localName (tagName tag) = target then (levels? 0 rest).bind List.head?
      else first? target rest
    | .empty tag => if localName (tagName tag) = target then some nil else first? target rest
    | _ => first? target rest

def elements : Outline → List (List Char × Outline)
  | nil => []
  | text _ rest => rest.elements
  | cdata _ rest => rest.elements
  | doctype rest => rest.elements
  | aside rest => rest.elements
  | element tag inner rest => (tag, inner) :: rest.elements

/-- The elements with the local name `key` among siblings. -/
def named (key : String) (o : Outline) : List (List Char × Outline) :=
  o.elements.filter fun e => localName (tagName e.1) == key.toList

/-- What stands in each of the elements with the local name `key`, in order. -/
def children (key : String) (o : Outline) : List Outline := (o.named key).map Prod.snd

/-- The character data of siblings, put together: texts with their references replaced, and CDATA
sections as they are. -/
def data : Outline → Except EscapeFault (List Char)
  | nil => .ok []
  | text s rest =>
    match unescape s with
    | .error f => .error f
    | .ok s => rest.data.map (s ++ ·)
  | cdata s rest => rest.data.map (s ++ ·)
  | doctype rest => rest.data
  | aside rest => rest.data
  | element _ _ rest => rest.data

end Outline

end SoapGateway.Xml
