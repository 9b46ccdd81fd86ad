import SoapGateway.Text.Blank

/-!
# Markup events

A document is read as a stream of events, each with the exact source text that it covers, so that
the sources of a stream put together are the document again. Start tags and end tags are checked to
match by name. A fault of the syntax ends the stream; a fault of the nesting does not.
-/
namespace SoapGateway.Xml

inductive Event where
  | text (s : List Char)
  /-- A start tag; `tag` is what stands between the angle brackets. -/
  | start (tag : List Char)
  /-- A tag that is closed at once, without its slash. -/
  | empty (tag : List Char)
  /-- An end tag with its name. -/
  | stop (name : List Char)
  | cdata (s : List Char)
  | doctype
  /-- A comment, a processing instruction or the XML declaration. -/
  | aside
  deriving DecidableEq, Repr

/-- An event and the source text that it covers. -/
structure Token where
  event : Event
  source : List Char
  deriving DecidableEq, Repr

inductive MarkupFault where
  | unclosedTag | unclosedComment | unclosedInstruction | unclosedCdata | unclosedDoctype
  | unknownMarkup
  | mismatchedEnd (expected found : String)
  | unmatchedEnd (name : String)
  | missingEnd (name : String)
  | unnamedDoctype
  deriving DecidableEq, Repr

namespace MarkupFault

/-- Whether the fault is one of syntax, after which nothing more can be read. -/
def isSyntax : MarkupFault → Bool
  | mismatchedEnd _ _ => false
  | unmatchedEnd _ => false
  | missingEnd _ => false
  | unnamedDoctype => false
  | _ => true

def detail : MarkupFault → String
  | unclosedTag => "tag not closed: `>` not found before end of input"
  | unclosedComment => "comment not closed: `-->` not found before end of input"
  | unclosedInstruction =>
    "processing instruction or xml declaration not closed: `?>` not found before end of input"
  | unclosedCdata => "CDATA not closed: `]]>` not found before end of input"
  | unclosedDoctype => "DOCTYPE not closed: `>` not found before end of input"
  | unknownMarkup => "unknown or missed symbol in markup"
  | mismatchedEnd expected found =>
    "expected `</" ++ expected ++ ">`, but `</" ++ found ++ ">` was found"
  | unmatchedEnd name => "close tag `</" ++ name ++ ">` does not match any open tag"
  | missingEnd name =>
    "start tag not closed: `</" ++ name ++ ">` not found before end of input"
  | unnamedDoctype => "`<!DOCTYPE>` declaration does not contain a name of a document type"

def message (f : MarkupFault) : String :=
  (if f.isSyntax then "syntax error: " else "ill-formed document: ") ++ f.detail

end MarkupFault

def isSpace (c : Char) : Bool := c == ' ' || c == '\t' || c == '\r' || c == '\n'

def tagName (tag : List Char) : List Char := tag.takeWhile fun c => !isSpace c

/-- The part of a name after its first colon, or all of it. -/
def localName (name : List Char) : List Char :=
  match name.dropWhile (· != ':') with
  | [] => name
  | _ :: rest => rest

/-- Cuts a tag at the first closing angle bracket that is not quoted. -/
def cutTag (quote : Option Char) (acc : List Char) : List Char → Option (List Char × List Char)
  | [] => none
  | c :: rest =>
    match quote with
    | some q => cutTag (if c = q then none else some q) (c :: acc) rest
    | none =>
      if c = '>' then some (acc.reverse, rest)
      else cutTag (if c = '"' ∨ c = '\'' then some c else none) (c :: acc) rest

/-- Cuts at the first closing angle bracket before which `closes` holds of the text so far, which it
gets backwards. -/
def cutWhere (closes : List Char → Bool) (acc : List Char) :
    List Char → Option (List Char × List Char)
  | [] => none
  | c :: rest =>
    if c = '>' ∧ closes acc then some (acc.reverse, rest) else cutWhere closes (c :: acc) rest

def closesComment (acc : List Char) : Bool :=
  4 < acc.length && acc.take 2 == ['-', '-']

def closesCdata (acc : List Char) : Bool := acc.take 2 == [']', ']']

def closesInstruction (acc : List Char) : Bool := acc.take 1 == ['?']

/-- A document type declaration ends where its angle brackets balance. -/
def closesDoctype (acc : List Char) : Bool := acc.count '<' == acc.count '>'

/-- An event that was read after an opening angle bracket, with what it read and what follows. -/
structure Markup where
  event : Except MarkupFault Event
  read : List Char
  rest : List Char

def sawFault (f : MarkupFault) (read rest : List Char) : Markup := ⟨.error f, read, rest⟩

/-- Reads markup that begins with an exclamation mark; `s` begins with that mark. -/
def bang (s : List Char) : Markup :=
  match s.drop 1 with
  | '-' :: _ =>
    match cutWhere closesComment [] s with
    | none => sawFault .unclosedComment s []
    | some (content, rest) =>
      if content.take 3 = "!--".toList then ⟨.ok .aside, content ++ ['>'], rest⟩
      else sawFault .unclosedComment s []
  | '[' :: _ =>
    match cutWhere closesCdata [] s with
    | none => sawFault .unclosedCdata s []
    | some (content, rest) =>
      if content.take 8 = "![CDATA[".toList then
        ⟨.ok (.cdata ((content.drop 8).take (content.length - 10))), content ++ ['>'], rest⟩
      else sawFault .unclosedCdata s []
  | d :: _ =>
    if d = 'D' ∨ d = 'd' then
      match cutWhere closesDoctype [] s with
      | none => sawFault .unclosedDoctype s []
      | some (content, rest) =>
        if !Text.sameAscii (content.take 8) "!doctype".toList then sawFault .unclosedDoctype s []
        else if (content.drop 8).all isSpace then
          sawFault .unnamedDoctype (content ++ ['>']) rest
        else ⟨.ok .doctype, content ++ ['>'], rest⟩
    else sawFault .unknownMarkup s []
  | [] => sawFault .unknownMarkup s []

/-- Reads markup after its opening angle bracket; names of end tags are not checked yet. -/
def markup (s : List Char) : Markup :=
  match s with
  | [] => sawFault .unclosedTag [] []
  | '!' :: _ => bang s
  | '/' :: _ =>
    match cutTag none [] s with
    | none => sawFault .unclosedTag s []
    | some (content, rest) =>
      let name := content.drop 1
      let trimmed := (name.reverse.dropWhile isSpace).reverse
      ⟨.ok (.stop (if trimmed.isEmpty then name else trimmed)), content ++ ['>'], rest⟩
  | '?' :: _ =>
    match cutWhere closesInstruction [] s with
    | none => sawFault .unclosedInstruction s []
    | some (content, rest) =>
      if 1 < content.length then ⟨.ok .aside, content ++ ['>'], rest⟩
      else sawFault .unclosedInstruction s []
  | s =>
    match cutTag none [] s with
    | none => sawFault .unclosedTag s []
    | some (content, rest) =>
      if content.getLast? = some '/' then
        ⟨.ok (.empty content.dropLast), content ++ ['>'], rest⟩
      else ⟨.ok (.start content), content ++ ['>'], rest⟩

/-- Checks an event against the names of the open elements, innermost first. -/
def nest (names : List (List Char)) (e : Event) : Except MarkupFault Event × List (List Char) :=
  match e with
  | .start tag => (.ok e, tagName tag :: names)
  | .stop name =>
    match names with
    | [] => (.error (.unmatchedEnd (String.ofList name)), [])
    | expected :: outer =>
      if name = expected then (.ok e, outer)
      else (.error (.mismatchedEnd (String.ofList expected) (String.ofList name)), outer)
  | e => (.ok e, names)

/-- Events of a text inside the open elements `names`. Each event takes a character at least, which
bounds the recursion. -/
def eventsFrom (names : List (List Char)) : Nat → List Char → List (Except MarkupFault Token)
  | 0, _ => []
  | _ + 1, [] => []
  | n + 1, c :: rest =>
    if c = '<' then
      let m := markup rest
      match m.event with
      | .error f => .error f :: (if f.isSyntax then [] else eventsFrom names n m.rest)
      | .ok e =>
        match nest names e with
        | (.ok e, names) => .ok ⟨e, '<' :: m.read⟩ :: eventsFrom names n m.rest
        | (.error f, names) => .error f :: eventsFrom names n m.rest
    else
      let s := c :: rest.takeWhile (· != '<')
      .ok ⟨.text s, s⟩ :: eventsFrom names n (rest.dropWhile (· != '<'))

def byteOrderMark : Char := Char.ofNat 0xFEFF

def dropMark (s : List Char) : List Char :=
  match s with
  | c :: rest => if c = byteOrderMark then rest else s
  | [] => []

def events (s : List Char) : List (Except MarkupFault Token) :=
  eventsFrom [] (s.length + 1) (dropMark s)

end SoapGateway.Xml
