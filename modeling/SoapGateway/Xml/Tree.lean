import SoapGateway.Xml.Attribute

/-!
# Documents as trees

What a document says: its elements with their attributes and contents, references replaced. Names
keep their prefixes and texts their white space; comments and instructions say nothing. A document
of which any part cannot be read has no trees.
-/
namespace SoapGateway.Xml

inductive Tree where
  | text (s : String)
  | element (name : String) (attributes : List (String × String)) (children : List Tree)
  deriving Repr

namespace Tree

/-- An element that holds one text; an empty text leaves nothing behind. -/
def holding (name s : String) : Tree := element name [] (if s = "" then [] else [text s])

/-- Attributes with the references in their values replaced. -/
def attributes? : List (Except AttributeFault Attribute) → Option (List (String × String))
  | [] => some []
  | .error _ :: _ => none
  | .ok a :: rest =>
    match unescape a.value, attributes? rest with
    | .ok v, some more => some ((String.ofList a.name, String.ofList v) :: more)
    | _, _ => none

/-- An element that is not closed yet, with the siblings before it, the last one first. -/
structure Opened where
  name : String
  attributes : List (String × String)
  before : List Tree

/-- Reads events inside the open elements `around`, innermost first; `siblings` have been read in
the innermost one, the last one first. -/
def read (around : List Opened) (siblings : List Tree) :
    List (Except MarkupFault Token) → Option (List Tree)
  | [] => if around.isEmpty then some siblings.reverse else none
  | .error _ :: _ => none
  | .ok t :: rest =>
    match t.event with
    | .text s =>
      match unescape s with
      | .ok s => read around (.text (String.ofList s) :: siblings) rest
      | .error _ => none
    | .cdata s => read around (.text (String.ofList s) :: siblings) rest
    | .start tag =>
      match attributes? (attributes tag) with
      | some values => read (⟨String.ofList (tagName tag), values, siblings⟩ :: around) [] rest
      | none => none
    | .empty tag =>
      match attributes? (attributes tag) with
      | some values =>
        read around (.element (String.ofList (tagName tag)) values [] :: siblings) rest
      | none => none
    | .stop _ =>
      match around with
      | [] => none
      | e :: around => read around (.element e.name e.attributes siblings.reverse :: e.before) rest
    | .doctype => read around siblings rest
    | .aside => read around siblings rest

end Tree

/-- The trees of a document, one for each text and element that is not inside another one. -/
def trees (s : List Char) : Option (List Tree) := Tree.read [] [] (events s)

end SoapGateway.Xml
