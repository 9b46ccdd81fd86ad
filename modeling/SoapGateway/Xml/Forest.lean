import SoapGateway.Xml.Element
import SoapGateway.Xml.Event

/-!
# Written documents

A document as the tree that it writes, down to its white space: which quotes an attribute has, how
an element without content is closed, and where comments, instructions and CDATA sections stand.
Siblings form a forest, so a document is a forest too, with whatever stands around its root. Texts
and values are kept as they are written, with their references.
-/
namespace SoapGateway.Xml

def isName : List Char → Bool
  | [] => false
  | c :: rest => isNameStart c && rest.all isNameChar

/-- An attribute with the white space before it and around its equals sign. -/
structure WrittenAttribute where
  space : List Char := [' ']
  name : List Char
  before : List Char := []
  after : List Char := []
  quote : Char := '"'
  value : List Char
  deriving DecidableEq, Repr

namespace WrittenAttribute

def source (a : WrittenAttribute) : List Char :=
  a.space ++ a.name ++ a.before ++ '=' :: a.after ++ a.quote :: a.value ++ [a.quote]

structure WellFormed (a : WrittenAttribute) : Prop where
  apart : a.space ≠ []
  space : a.space.all isSpace = true
  name : isName a.name = true
  before : a.before.all isSpace = true
  after : a.after.all isSpace = true
  quote : a.quote = '"' ∨ a.quote = '\''
  value : a.quote ∉ a.value

end WrittenAttribute

/-- A tag between its angle brackets: a name, attributes, and white space at the end. -/
structure Tag where
  name : List Char
  attributes : List WrittenAttribute := []
  space : List Char := []
  deriving DecidableEq, Repr

namespace Tag

def source (t : Tag) : List Char := t.name ++ t.attributes.flatMap (·.source) ++ t.space

structure WellFormed (t : Tag) : Prop where
  name : isName t.name = true
  attributes : ∀ a ∈ t.attributes, a.WellFormed
  /-- No attribute is written twice. -/
  once : (t.attributes.map (·.name)).Nodup
  space : t.space.all isSpace = true

end Tag

/-- Siblings: the first of them, and those that follow it. -/
inductive Forest where
  | nil
  | text (s : List Char) (rest : Forest)
  | cdata (s : List Char) (rest : Forest)
  | comment (s : List Char) (rest : Forest)
  /-- A processing instruction or the XML declaration. -/
  | instruction (s : List Char) (rest : Forest)
  /-- An element that is written as one tag. -/
  | single (tag : Tag) (rest : Forest)
  /-- An element with its content, and the white space at the end of its end tag. -/
  | element (tag : Tag) (inner : Forest) (space : List Char) (rest : Forest)
  deriving DecidableEq, Repr

def cdataSource (s : List Char) : List Char :=
  ['<', '!', '[', 'C', 'D', 'A', 'T', 'A', '['] ++ s ++ [']', ']', '>']

def commentSource (s : List Char) : List Char := ['<', '!', '-', '-'] ++ s ++ ['-', '-', '>']

def instructionSource (s : List Char) : List Char := ['<', '?'] ++ s ++ ['?', '>']

namespace Tag

def opening (t : Tag) : List Char := '<' :: t.source ++ ['>']

def closed (t : Tag) : List Char := '<' :: t.source ++ ['/', '>']

/-- The tag at the end of an element, with white space after its name. -/
def closing (t : Tag) (space : List Char) : List Char := '<' :: '/' :: t.name ++ space ++ ['>']

end Tag

/-- Whether the local part of a tag's name is `l`: all of a name without a colon, else what follows
the prefix and its colon. -/
def Tag.IsCalled (t : Tag) (l : List Char) : Prop :=
  (':' ∉ t.name ∧ t.name = l) ∨ ∃ p, ':' ∉ p ∧ t.name = p ++ ':' :: l

/-- An element of a document: its tag, and its text from the bracket that opens its start tag to the
one that closes its own end tag. -/
structure WrittenElement where
  tag : Tag
  source : List Char
  deriving DecidableEq, Repr

namespace Forest

def source : Forest → List Char
  | nil => []
  | text s rest => s ++ rest.source
  | cdata s rest => cdataSource s ++ rest.source
  | comment s rest => commentSource s ++ rest.source
  | instruction s rest => instructionSource s ++ rest.source
  | single tag rest => tag.closed ++ rest.source
  | element tag inner space rest => tag.opening ++ inner.source ++ tag.closing space ++ rest.source

def isText : Forest → Bool
  | text _ _ => true
  | _ => false

/-- What the grammar asks of a document: texts are not empty, end where markup begins and never
follow each other; what ends a section does not stand in it; tags are well-formed. -/
def WellFormed : Forest → Prop
  | nil => True
  | text s rest => s ≠ [] ∧ '<' ∉ s ∧ rest.isText = false ∧ rest.WellFormed
  | cdata s rest => ¬ "]]>".toList <:+: s ∧ rest.WellFormed
  | comment s rest => ¬ "--".toList <:+: s ∧ s.getLast? ≠ some '-' ∧ rest.WellFormed
  | instruction s rest =>
    (s.head?.any isNameStart = true) ∧ ¬ "?>".toList <:+: s ∧ rest.WellFormed
  | single tag rest => tag.WellFormed ∧ rest.WellFormed
  | element tag inner space rest =>
    tag.WellFormed ∧ inner.WellFormed ∧ space.all isSpace = true ∧ rest.WellFormed

/-- What the grammar asks of a document of which a text may be written in pieces, some of them
empty. -/
def Sound : Forest → Prop
  | nil => True
  | text s rest => '<' ∉ s ∧ rest.Sound
  | cdata s rest => ¬ "]]>".toList <:+: s ∧ rest.Sound
  | comment s rest => ¬ "--".toList <:+: s ∧ s.getLast? ≠ some '-' ∧ rest.Sound
  | instruction s rest => (s.head?.any isNameStart = true) ∧ ¬ "?>".toList <:+: s ∧ rest.Sound
  | single tag rest => tag.WellFormed ∧ rest.Sound
  | element tag inner space rest =>
    tag.WellFormed ∧ inner.Sound ∧ space.all isSpace = true ∧ rest.Sound

/-- The elements of a document, in the order of their start tags. -/
def elements : Forest → List WrittenElement
  | nil => []
  | text _ rest => rest.elements
  | cdata _ rest => rest.elements
  | comment _ rest => rest.elements
  | instruction _ rest => rest.elements
  | single tag rest => ⟨tag, tag.closed⟩ :: rest.elements
  | element tag inner space rest =>
    ⟨tag, tag.opening ++ inner.source ++ tag.closing space⟩ :: (inner.elements ++ rest.elements)

/-- Whether siblings may stand beside the root of a document. -/
def isAside : Forest → Bool
  | nil => true
  | text s rest => s.all isSpace && rest.isAside
  | comment _ rest => rest.isAside
  | instruction _ rest => rest.isAside
  | _ => false

/-- Whether siblings are one element, with nothing but white space, comments and instructions
beside it. -/
def hasRoot : Forest → Bool
  | text s rest => s.all isSpace && rest.hasRoot
  | comment _ rest => rest.hasRoot
  | instruction _ rest => rest.hasRoot
  | single _ rest => rest.isAside
  | element _ _ _ rest => rest.isAside
  | _ => false

/-- The first element with a local name, in the order of start tags, without its siblings. -/
def first? (target : List Char) : Forest → Option Forest
  | nil => none
  | text _ rest => rest.first? target
  | cdata _ rest => rest.first? target
  | comment _ rest => rest.first? target
  | instruction _ rest => rest.first? target
  | single tag rest =>
    if localName tag.name = target then some (single tag nil) else rest.first? target
  | element tag inner space rest =>
    if localName tag.name = target then some (element tag inner space nil)
    else (inner.first? target).or (rest.first? target)

end Forest

end SoapGateway.Xml
