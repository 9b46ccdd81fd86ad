import SoapGateway.Text.Quoted
import SoapGateway.Text.Utf8
import SoapGateway.Xml.Attribute

/-!
# Reading records from elements

An element is read as a record: its attributes, its text and its child elements fill named fields,
each at most once, and what has no field is passed over. Character data and CDATA sections that
follow each other make one text, with comments between them left out, and white space is stripped
where such a text begins and ends in character data. References are replaced afterwards, piece by
piece. The first text directly inside an element that is passed over is read too, so that its
references have to be sound; nothing else in it is looked at.
-/
namespace SoapGateway.Xml

inductive ContentFault where
  | badMarkup (f : MarkupFault)
  | badAttribute (f : AttributeFault)
  | badReference (f : EscapeFault)
  | unexpectedStart (name : List Char)
  | unexpectedEnd
  | duplicateField (name : String)
  /-- Text where a record is expected. -/
  | mismatch (text expected : String)
  deriving DecidableEq, Repr

namespace ContentFault

/-- An octet of a name as a message shows it. -/
def shownOctet (b : UInt8) : List Char :=
  if b = 0x22 then ['\\', '"']
  else if 0x20 ≤ b ∧ b ≤ 0x7E then [Char.ofNat b.toNat]
  else "0x".toList ++ (Text.hexDigits b.toNat).map fun c =>
    if 'a' ≤ c ∧ c ≤ 'f' then Char.ofNat (c.toNat - 32) else c

def message : ContentFault → String
  | badMarkup f => f.message
  | badAttribute f => f.message
  | badReference f => f.message
  | unexpectedStart name =>
    "Unexpected `Event::Start(\"" ++
      String.ofList ((Utf8.encode name).flatMap shownOctet) ++ "\")`"
  | unexpectedEnd => "Unexpected `Event::Eof`"
  | duplicateField name => "duplicate field `" ++ name ++ "`"
  | mismatch text expected =>
    "invalid type: string " ++ Text.quoted text ++ ", expected " ++ expected

end ContentFault

/-- A piece of content, texts merged. -/
inductive Piece where
  | start (tag : List Char)
  | stop (name : List Char)
  | text (s : List Char)
  | finish
  deriving DecidableEq, Repr

/-- A reader of content: the events to come, the one that is next, and whether a text that follows
it loses the white space at its beginning. -/
structure Cursor where
  ahead : Except MarkupFault (Option Event)
  trim : Bool
  coming : List (Except MarkupFault Event)
  /-- More events than the document has, which bounds every recursion over them. -/
  limit : Nat

namespace Cursor

/-- Takes the next event that counts. Character data of white space alone vanishes where its
beginning is stripped. -/
def pull (limit : Nat) (trim : Bool) : List (Except MarkupFault Event) → Cursor
  | [] => ⟨.ok none, true, [], limit⟩
  | .error f :: rest => ⟨.error f, trim, rest, limit⟩
  | .ok e :: rest =>
    match e with
    | .text s =>
      if trim then
        match s.dropWhile isSpace with
        | [] => pull limit trim rest
        | s => ⟨.ok (some (.text s)), false, rest, limit⟩
      else ⟨.ok (some (.text s)), false, rest, limit⟩
    | .cdata s => ⟨.ok (some (.cdata s)), false, rest, limit⟩
    | .aside => pull limit trim rest
    | e => ⟨.ok (some e), true, rest, limit⟩

/-- A tag that is closed at once counts as a start tag and an end tag. -/
def expand : Except MarkupFault Token → List (Except MarkupFault Event)
  | .error f => [.error f]
  | .ok t =>
    match t.event with
    | .empty tag => [.ok (.start tag), .ok (.stop (tagName tag))]
    | e => [.ok e]

def ofText (s : List Char) : Cursor :=
  let all := (events s).flatMap expand
  pull (all.length + 3) true all

def advance (c : Cursor) : Cursor := pull c.limit c.trim c.coming

/-- Whether a text that has just been taken is the last one of its run. -/
def endsText (c : Cursor) : Bool :=
  match c.ahead with
  | .ok (some (.text _)) => false
  | .ok (some (.cdata _)) => false
  | _ => true

/-- Character data with its end stripped if its run ends here. -/
def trimEnd (last : Bool) (s : List Char) : List Char :=
  if last then (s.reverse.dropWhile isSpace).reverse else s

/-- Takes the rest of a run of texts. -/
def drain : Nat → Cursor → Except ContentFault (List Char × Cursor)
  | 0, c => .ok ([], c)
  | n + 1, c =>
    match c.ahead with
    | .ok (some (.text s)) =>
      let next := c.advance
      match unescape (trimEnd next.endsText s) with
      | .error f => .error (.badReference f)
      | .ok s => (drain n next).map fun (more, c) => (s ++ more, c)
    | .ok (some (.cdata s)) => (drain n c.advance).map fun (more, c) => (s ++ more, c)
    | _ => .ok ([], c)

/-- Takes the next piece; what is skipped on the way bounds the recursion. -/
def takePiece : Nat → Cursor → Except ContentFault (Piece × Cursor)
  | 0, c => .ok (.finish, c)
  | n + 1, c =>
    match c.ahead with
    | .error f => .error (.badMarkup f)
    | .ok none => .ok (.finish, c.advance)
    | .ok (some e) =>
      let next := c.advance
      match e with
      | .start tag => .ok (.start tag, next)
      | .stop name => .ok (.stop name, next)
      | .text s =>
        let s := trimEnd next.endsText s
        if s.isEmpty ∧ next.endsText then takePiece n next
        else
          match unescape s with
          | .error f => .error (.badReference f)
          | .ok s => (drain next.limit next).map fun (more, c) => (.text (s ++ more), c)
      | .cdata s => (drain next.limit next).map fun (more, c) => (.text (s ++ more), c)
      | _ => takePiece n next

def next (c : Cursor) : Except ContentFault (Piece × Cursor) := takePiece c.limit c

/-- Events after the end tag of the element `name`, of which `depth` inner ones are open. -/
def afterEnd (name : List Char) (depth : Nat) :
    List (Except MarkupFault Event) → Except MarkupFault (List (Except MarkupFault Event))
  | [] => .error (.missingEnd (String.ofList name))
  | .error f :: _ => .error f
  | .ok e :: rest =>
    match e with
    | .start tag => afterEnd name (if tagName tag = name then depth + 1 else depth) rest
    | .stop n =>
      if n = name then
        match depth with
        | 0 => .ok rest
        | d + 1 => afterEnd name d rest
      else afterEnd name depth rest
    | _ => afterEnd name depth rest

def skipTo (name : List Char) (c : Cursor) : Except ContentFault Cursor :=
  match c.ahead with
  | .error f => .error (.badMarkup f)
  | .ok (some (.stop n)) =>
    if n = name then .ok c.advance
    else
      match afterEnd name 0 c.coming with
      | .error f => .error (.badMarkup f)
      | .ok rest => .ok (pull c.limit c.trim rest)
  | .ok ahead =>
    let depth := match ahead with
      | some (.start tag) => if tagName tag = name then 1 else 0
      | _ => 0
    match afterEnd name depth c.coming with
    | .error f => .error (.badMarkup f)
    | .ok rest => .ok (pull c.limit c.trim rest)

/-- Passes over the element `name`, whose start tag has been taken. -/
def skipElement (name : List Char) (c : Cursor) : Except ContentFault Cursor :=
  match c.next with
  | .error f => .error f
  | .ok (.start tag, c) =>
    match c.skipTo (tagName tag) with
    | .error f => .error f
    | .ok c => c.skipTo name
  | .ok (.stop n, c') => if n = name then .ok c' else c'.skipTo name
  | .ok (_, c) => c.skipTo name

/-- The text of the element that comes next, which must hold nothing else. -/
def elementText (c : Cursor) : Except ContentFault (List Char × Cursor) :=
  match c.next with
  | .error f => .error f
  | .ok (.text s, c) => .ok (s, c)
  | .ok (.stop _, _) => .error .unexpectedEnd
  | .ok (.finish, _) => .error .unexpectedEnd
  | .ok (.start tag, c) =>
    let missing : MarkupFault := .missingEnd (String.ofList (tagName tag))
    match c.next with
    | .error f => .error f
    | .ok (.stop _, c) => .ok ([], c)
    | .ok (.start inner, _) => .error (.unexpectedStart (tagName inner))
    | .ok (.finish, _) => .error (.badMarkup missing)
    | .ok (.text s, c) =>
      match c.next with
      | .error f => .error f
      | .ok (.stop _, c) => .ok (s, c)
      | .ok (.start inner, _) => .error (.unexpectedStart (tagName inner))
      | .ok (_, _) => .error (.badMarkup missing)

end Cursor

/-- How a field is read from each of the places where it may stand. -/
structure FieldReader (α : Type) where
  ofAttribute : List Char → Except ContentFault α
  ofText : List Char → Except ContentFault α
  /-- From the child elements that come next, given the name of the element around them. -/
  ofElements : List Char → Cursor → Except ContentFault (α × Cursor)

abbrev Fields (α : Type) := List (String × α)

/-- Fails when the field is there already. -/
def onlyOnce {α : Type} (fields : Fields α) (key : String) : Except ContentFault Unit :=
  if (fields.lookup key).isSome then .error (.duplicateField key) else .ok ()

/-- Reads the attributes of a tag into fields. -/
def readAttributes {α : Type} (keys : List String) (field : FieldReader α) (fields : Fields α) :
    List (Except AttributeFault Attribute) → Except ContentFault (Fields α)
  | [] => .ok fields
  | .error f :: _ => .error (.badAttribute f)
  | .ok a :: rest =>
    let key := String.ofList ('@' :: attributeKey a.name)
    if key ∈ keys then
      match onlyOnce fields key with
      | .error f => .error f
      | .ok () =>
        match field.ofAttribute a.value with
        | .error f => .error f
        | .ok x => readAttributes keys field ((key, x) :: fields) rest
    else readAttributes keys field fields rest

def textKey : String := "$text"

/-- Reads the content of the element `name` into fields, up to its end tag. -/
def readContent {α : Type} (keys : List String) (field : FieldReader α) (name : List Char)
    (fields : Fields α) : Nat → Cursor → Except ContentFault (Fields α × Cursor)
  | 0, c => .ok (fields, c)
  | n + 1, c =>
    match c.next with
    | .error f => .error f
    | .ok (.finish, _) => .error (.badMarkup (.missingEnd (String.ofList name)))
    | .ok (.stop _, c) => .ok (fields, c)
    | .ok (.text s, c) =>
      if textKey ∈ keys then
        match onlyOnce fields textKey with
        | .error f => .error f
        | .ok () =>
          match field.ofText s with
          | .error f => .error f
          | .ok x => readContent keys field name ((textKey, x) :: fields) n c
      else readContent keys field name fields n c
    | .ok (.start tag, inside) =>
      let key := String.ofList (localName (tagName tag))
      if key ∈ keys then
        match onlyOnce fields key with
        | .error f => .error f
        | .ok () =>
          match field.ofElements name c with
          | .error f => .error f
          | .ok (x, c) => readContent keys field name ((key, x) :: fields) n c
      else
        match inside.skipElement (tagName tag) with
        | .error f => .error f
        | .ok c => readContent keys field name fields n c

/-- Reads the element with the given start tag, which has been taken, into fields. -/
def readFields {α : Type} (keys : List String) (field : FieldReader α) (tag : List Char)
    (c : Cursor) : Except ContentFault (Fields α × Cursor) :=
  match readAttributes keys field [] (attributes tag) with
  | .error f => .error f
  | .ok fields => readContent keys field (tagName tag) fields c.limit c

/-- Reads the element that comes next as the record called `record`. -/
def readRecord {α : Type} (record : String) (keys : List String) (field : FieldReader α)
    (c : Cursor) : Except ContentFault (Fields α × Cursor) :=
  match c.next with
  | .error f => .error f
  | .ok (.start tag, c) => readFields keys field tag c
  | .ok (.text s, _) => .error (.mismatch (String.ofList s) record)
  | .ok (_, _) => .error .unexpectedEnd

/-- Fields that hold text: an attribute with its references replaced, the text of the element, or
the text of one child element. -/
def textField : FieldReader String where
  ofAttribute v :=
    match unescape v with
    | .error f => .error (.badReference f)
    | .ok s => .ok (String.ofList s)
  ofText s := .ok (String.ofList s)
  ofElements _ c := c.elementText.map fun (s, c) => (String.ofList s, c)

/-- Reads a run of child elements with one full name, each as the record called `record`, up to an
element of another name or the end of the element `parent`. -/
def readRun {α : Type} (record : String)
    (row : List Char → Cursor → Except ContentFault (α × Cursor)) (name parent : List Char)
    (acc : List α) : Nat → Cursor → Except ContentFault (List α × Cursor)
  | 0, c => .ok (acc.reverse, c)
  | n + 1, c =>
    match c.next with
    | .error f => .error f
    | .ok (.finish, _) => .error (.badMarkup (.missingEnd (String.ofList parent)))
    | .ok (.stop _, _) => .ok (acc.reverse, c)
    | .ok (.text s, _) => .error (.mismatch (String.ofList s) record)
    | .ok (.start tag, inside) =>
      if tagName tag = name then
        match row tag inside with
        | .error f => .error f
        | .ok (x, c) => readRun record row name parent (x :: acc) n c
      else .ok (acc.reverse, c)

/-- Fields that hold a run of records. -/
def runField {α : Type} (record : String)
    (row : List Char → Cursor → Except ContentFault (α × Cursor)) : FieldReader (List α) where
  ofAttribute v := .error (.mismatch (String.ofList v) "a sequence")
  ofText s := .error (.mismatch (String.ofList s) "a sequence")
  ofElements parent c :=
    match c.next with
    | .error f => .error f
    | .ok (.start tag, _) => readRun record row (tagName tag) parent [] c.limit c
    | .ok (_, _) => .error .unexpectedEnd

/-- Fields that hold one record. -/
def recordField {α : Type} (record : String) (read : Cursor → Except ContentFault (α × Cursor)) :
    FieldReader α where
  ofAttribute v := .error (.mismatch (String.ofList v) record)
  ofText s := .error (.mismatch (String.ofList s) record)
  ofElements _ c := read c

end SoapGateway.Xml
