import SoapGateway.Xml.Forest

/-!
# Whole documents

A document as it is sent: the tree that it writes, in front of it perhaps a document type
declaration, and in front of all perhaps a byte order mark. What a declaration says is kept as it is
written. A reader that does not know the grammar of declarations and counts angle brackets, those in
quotes and in comments too, sees the end of one where they balance, which may be too early or too
late.
-/
namespace SoapGateway.Xml

structure Doctype where
  space : List Char := [' ']
  name : List Char
  /-- An external identifier and declarations between square brackets. -/
  more : List Char := []
  deriving DecidableEq, Repr

/-- A text in which as many angle brackets open as close, and which has no closing one before which
this holds already. -/
def BalancesFirst (s : List Char) : Prop :=
  s.count '<' = s.count '>' ∧
    ∀ n < s.length, s[n]? = some '>' → (s.take n).count '<' ≠ (s.take n).count '>'

instance (s : List Char) : Decidable (BalancesFirst s) :=
  inferInstanceAs (Decidable (_ ∧ _))

namespace Doctype

def keyword : List Char := ['!', 'D', 'O', 'C', 'T', 'Y', 'P', 'E']

def source (d : Doctype) : List Char :=
  '<' :: keyword ++ d.space ++ d.name ++ d.more ++ ['>']

structure WellFormed (d : Doctype) : Prop where
  apart : d.space ≠ []
  space : d.space.all isSpace = true
  name : isName d.name = true

/-- Angle brackets balance at the end of the declaration, or before it with no tag in what is
left. -/
def IsSeenWhole (d : Doctype) : Prop :=
  ∃ seen left, d.more ++ ['>'] = seen ++ '>' :: left ∧ BalancesFirst seen ∧ '<' ∉ left

end Doctype

/-- A document type declaration and what stands before it. -/
structure Heading where
  before : Forest := .nil
  doctype : Doctype
  deriving DecidableEq, Repr

def Heading.source (h : Heading) : List Char := h.before.source ++ h.doctype.source

structure Document where
  /-- Whether a byte order mark comes first. -/
  marked : Bool := false
  heading : Option Heading := none
  /-- The root with what stands beside it. -/
  body : Forest
  deriving DecidableEq, Repr

namespace Document

def source (d : Document) : List Char :=
  (if d.marked then [byteOrderMark] else []) ++ (d.heading.elim [] Heading.source ++ d.body.source)

/-- What the grammar asks of a document. What a document type declaration says is not looked at. -/
structure WellFormed (d : Document) : Prop where
  before : ∀ h ∈ d.heading, h.before.WellFormed ∧ h.before.isAside = true
  doctype : ∀ h ∈ d.heading, h.doctype.WellFormed
  body : d.body.WellFormed
  root : d.body.hasRoot = true

end Document

end SoapGateway.Xml
