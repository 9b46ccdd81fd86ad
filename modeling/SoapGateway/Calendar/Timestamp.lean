import SoapGateway.Calendar.Instant

/-!
# UTC times as texts

A text of fixed form has numbers of given widths at its places and marks between them. A UTC time to
the millisecond is such a text. Its day is one of those that follow each other in the calendar.
-/
namespace SoapGateway.Calendar

/-- What stands at a place of a text of fixed form. -/
inductive Place where
  /-- A number in exactly so many digits. -/
  | number (width : Nat)
  | mark (c : Char)
  deriving DecidableEq, Repr

/-- The numbers of a text, if the text has the form. -/
def numbers? : List Place → List Char → Option (List Nat)
  | [], s => if s = [] then some [] else none
  | .mark c :: form, s => if s.head? = some c then numbers? form s.tail else none
  | .number width :: form, s =>
    if (s.take width).length = width ∧ (s.take width).all Text.isDigit then
      (numbers? form (s.drop width)).map (Text.valueOf 10 (s.take width) :: ·)
    else none

/-- The form `YYYY-MM-DDTHH:MM:SS.mmmZ`. -/
def utcForm : List Place :=
  [.number 4, .mark '-', .number 2, .mark '-', .number 2, .mark 'T', .number 2, .mark ':',
    .number 2, .mark ':', .number 2, .mark '.', .number 3, .mark 'Z']

namespace Date

def next (d : Date) : Date :=
  if d.day < daysInMonth d.year d.month then { d with day := d.day + 1 }
  else if d.month < 12 then { year := d.year, month := d.month + 1, day := 1 }
  else { year := d.year + 1, month := 1, day := 1 }

end Date

end SoapGateway.Calendar
