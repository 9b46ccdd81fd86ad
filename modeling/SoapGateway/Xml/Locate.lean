import SoapGateway.Xml.Escape
import SoapGateway.Xml.Event

/-!
# Finding an element

The source text of the first element with a given local name, in the order of start tags. Positions
count octets after a byte order mark, so in a document with such a mark the text is cut out as many
octets too early as the mark takes.
-/
namespace SoapGateway.Xml

inductive LocateFault where
  | notFound
  /-- A fault of the markup before the element. -/
  | malformed (f : MarkupFault)
  /-- A fault of the markup inside the element. -/
  | unterminated (f : MarkupFault)
  deriving DecidableEq, Repr

/-- Source text up to the end tag of the element `name`, of which `depth` inner ones are open. -/
def untilEnd (name : List Char) (depth : Nat) :
    List (Except MarkupFault Token) → Except MarkupFault (List Char)
  | [] => .error (.missingEnd (String.ofList name))
  | .error f :: _ => .error f
  | .ok t :: rest =>
    match t.event with
    | .start tag =>
      (untilEnd name (if tagName tag = name then depth + 1 else depth) rest).map (t.source ++ ·)
    | .stop n =>
      if n = name then
        match depth with
        | 0 => .ok t.source
        | d + 1 => (untilEnd name d rest).map (t.source ++ ·)
      else (untilEnd name depth rest).map (t.source ++ ·)
    | _ => (untilEnd name depth rest).map (t.source ++ ·)

/-- Octets before the element and its source text. -/
def find (target : List Char) (before : Nat) :
    List (Except MarkupFault Token) → Except LocateFault (Nat × List Char)
  | [] => .error .notFound
  | .error f :: _ => .error (.malformed f)
  | .ok t :: rest =>
    match t.event with
    | .start tag =>
      if localName (tagName tag) = target then
        match untilEnd (tagName tag) 0 rest with
        | .ok s => .ok (before, t.source ++ s)
        | .error f => .error (.unterminated f)
      else find target (before + Utf8.octets t.source) rest
    | .empty tag =>
      if localName (tagName tag) = target then .ok (before, t.source)
      else find target (before + Utf8.octets t.source) rest
    | _ => find target (before + Utf8.octets t.source) rest

/-- The characters of a text whose octets begin in a range. A range with an end inside a character
cuts out no text at all, which stops the thread that asks for it; here it gives the characters that
begin in it. Only the shift by a byte order mark can lead to such a range. -/
def cutOctets (start stop offset : Nat) : List Char → List Char
  | [] => []
  | c :: rest =>
    let after := cutOctets start stop (offset + c.utf8Size) rest
    if start ≤ offset ∧ offset < stop then c :: after else after

/-- The source text of the first element whose local name is `target`. -/
def locate (s target : List Char) : Except LocateFault (List Char) :=
  match find target 0 (events s) with
  | .error f => .error f
  | .ok (before, node) =>
    if s.head? = some byteOrderMark then .ok (cutOctets before (before + Utf8.octets node) 0 s)
    else .ok node

end SoapGateway.Xml
