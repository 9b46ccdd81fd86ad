import SoapGateway.Text.Blank

/-!
# Date layouts

A layout is a text with conversion marks that begin with a percent sign. It is read into items:
plain text, blanks, numbers with their padding, and named parts. A mark that does not exist makes
the layout invalid, and nothing after it is read.
-/
namespace SoapGateway.Calendar

/-- A number that a mark stands for. -/
inductive Quantity where
  | year | century | yearOfCentury | isoYear | isoYearOfCentury | quarter | month | day
  | weekFromSunday | weekFromMonday | isoWeek | daysFromSunday | dayFromMonday | ordinal
  | hour | hour12 | minute | second | nanosecond | timestamp
  deriving DecidableEq, Repr

/-- How a short number is filled up. -/
inductive Padding where
  | none | zero | space
  deriving DecidableEq, Repr

inductive Part where
  | shortMonth | longMonth | shortWeekday | longWeekday | lowerHalf | upperHalf
  /-- A point and the places of the second, or `none` for as many as are needed. -/
  | fraction (places : Option Nat)
  /-- Places of the second without a point. -/
  | places (count : Nat)
  | zoneName | zoneOffset | looseZoneOffset | timestampText
  deriving DecidableEq, Repr

inductive Item where
  | literal (s : List Char)
  | blank (s : List Char)
  | number (q : Quantity) (p : Padding)
  | part (p : Part)
  | invalid
  deriving DecidableEq, Repr

namespace Layout

def zeros (q : Quantity) : Item := .number q .zero

def spaces (q : Quantity) : Item := .number q .space

def bare (q : Quantity) : Item := .number q .none

def sign (c : Char) : Item := .literal [c]

def clock : List Item := [zeros .hour, sign ':', zeros .minute, sign ':', zeros .second]

def american : List Item :=
  [zeros .month, sign '/', zeros .day, sign '/', zeros .yearOfCentury]

/-- What a mark of one letter stands for. -/
def mark? : Char → Option (List Item)
  | 'A' => some [.part .longWeekday]
  | 'B' => some [.part .longMonth]
  | 'C' => some [zeros .century]
  | 'D' => some american
  | 'F' => some [zeros .year, sign '-', zeros .month, sign '-', zeros .day]
  | 'G' => some [zeros .isoYear]
  | 'H' => some [zeros .hour]
  | 'I' => some [zeros .hour12]
  | 'M' => some [zeros .minute]
  | 'P' => some [.part .lowerHalf]
  | 'R' => some [zeros .hour, sign ':', zeros .minute]
  | 'S' => some [zeros .second]
  | 'T' => some clock
  | 'U' => some [zeros .weekFromSunday]
  | 'V' => some [zeros .isoWeek]
  | 'W' => some [zeros .weekFromMonday]
  | 'X' => some clock
  | 'Y' => some [zeros .year]
  | 'Z' => some [.part .zoneName]
  | 'a' => some [.part .shortWeekday]
  | 'b' => some [.part .shortMonth]
  | 'c' => some ([.part .shortWeekday, .blank [' '], .part .shortMonth, .blank [' '], spaces .day,
      .blank [' ']] ++ clock ++ [.blank [' '], zeros .year])
  | 'd' => some [zeros .day]
  | 'e' => some [spaces .day]
  | 'f' => some [zeros .nanosecond]
  | 'g' => some [zeros .isoYearOfCentury]
  | 'h' => some [.part .shortMonth]
  | 'j' => some [zeros .ordinal]
  | 'k' => some [spaces .hour]
  | 'l' => some [spaces .hour12]
  | 'm' => some [zeros .month]
  | 'n' => some [.blank ['\n']]
  | 'p' => some [.part .upperHalf]
  | 'q' => some [bare .quarter]
  | 'r' => some [zeros .hour12, sign ':', zeros .minute, sign ':', zeros .second, .blank [' '],
      .part .upperHalf]
  | 's' => some [bare .timestamp]
  | 't' => some [.blank ['\t']]
  | 'u' => some [bare .dayFromMonday]
  | 'v' => some [spaces .day, sign '-', .part .shortMonth, sign '-', zeros .year]
  | 'w' => some [bare .daysFromSunday]
  | 'x' => some american
  | 'y' => some [zeros .yearOfCentury]
  | 'z' => some [.part .zoneOffset]
  | '+' => some [.part .timestampText]
  | '%' => some [sign '%']
  | _ => none

/-- Number of places that a digit before `f` asks for. -/
def places? : Char → Option Nat
  | '3' => some 3
  | '6' => some 6
  | '9' => some 9
  | _ => none

/-- Reads a mark after its percent sign; `none` if there is no such mark. -/
def readMark : List Char → Option (List Item × List Char)
  | '.' :: 'f' :: rest => some ([.part (.fraction none)], rest)
  | '.' :: d :: 'f' :: rest => (places? d).map fun n => ([.part (.fraction (some n))], rest)
  | ':' :: ':' :: ':' :: 'z' :: rest => some ([.part .zoneOffset], rest)
  | ':' :: ':' :: 'z' :: rest => some ([.part .zoneOffset], rest)
  | ':' :: 'z' :: rest => some ([.part .zoneOffset], rest)
  | c :: rest =>
    match mark? c, places? c, rest with
    | some items, _, rest => some (items, rest)
    | none, some n, 'f' :: rest => some ([.part (.places n)], rest)
    | _, _, _ => none
  | [] => none

/-- Applies a padding mark, which only a mark for a single number may follow. -/
def repad (p : Padding) : List Item × List Char → Option (List Item × List Char)
  | ([.number q _], rest) => some ([.number q p], rest)
  | _ => none

/-- Reads a mark after its percent sign, with an optional padding or alternative form. -/
def readFullMark : List Char → Option (List Item × List Char)
  | '-' :: rest => (readMark rest).bind (repad .none)
  | '0' :: rest => (readMark rest).bind (repad .zero)
  | '_' :: rest => (readMark rest).bind (repad .space)
  | '#' :: 'z' :: rest => some ([.part .looseZoneOffset], rest)
  | rest => readMark rest

/-- Items of a layout. Every item takes a character at least, which bounds the recursion. -/
def itemsFrom : Nat → List Char → List Item
  | 0, _ => []
  | _ + 1, [] => []
  | n + 1, c :: rest =>
    if c = '%' then
      match readFullMark rest with
      | some (items, rest) => items ++ itemsFrom n rest
      | none => [.invalid]
    else if Text.isBlank c then
      .blank (c :: rest.takeWhile Text.isBlank) :: itemsFrom n (rest.dropWhile Text.isBlank)
    else
      let plain := fun d => d != '%' && !Text.isBlank d
      .literal (c :: rest.takeWhile plain) :: itemsFrom n (rest.dropWhile plain)

def items (layout : String) : List Item := itemsFrom (layout.toList.length + 1) layout.toList

def isValid (layout : String) : Bool := layout != "" && !(items layout).contains .invalid

end Layout

end SoapGateway.Calendar
