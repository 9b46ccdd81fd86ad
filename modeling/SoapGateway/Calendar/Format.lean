import SoapGateway.Calendar.Date
import SoapGateway.Calendar.Instant
import SoapGateway.Calendar.Layout

/-!
# Writing dates

The text of a day at midnight in a layout. Midnight of a day belongs to no time zone, so a layout
that asks for one has no text.
-/
namespace SoapGateway.Calendar

def monthNames : List String :=
  ["January", "February", "March", "April", "May", "June", "July", "August", "September",
   "October", "November", "December"]

def weekdayNames : List String :=
  ["Monday", "Tuesday", "Wednesday", "Thursday", "Friday", "Saturday", "Sunday"]

namespace Layout

/-- A number of one octet in two places; the tens of a number beyond 99 go on after the digit nine
in the order of ASCII. -/
def twoPlaces (n : Nat) (p : Padding) : List Char :=
  let ones := Char.ofNat (48 + n % 10)
  match n / 10, p with
  | 0, .none => [ones]
  | 0, .space => [' ', ones]
  | tens, _ => [Char.ofNat (48 + tens), ones]

/-- A number in at least `width` places, with its sign if it is negative or if `signed`. -/
def manyPlaces (width : Nat) (n : Int) (p : Padding) (signed : Bool) : List Char :=
  let sign := if n < 0 then ['-'] else if signed then ['+'] else []
  let width := if signed then width + 1 else width
  let digits := Text.digits n.natAbs
  match p with
  | .none => sign ++ digits
  | .zero => sign ++ Text.padLeft '0' (width - sign.length) digits
  | .space => Text.padLeft ' ' width (sign ++ digits)

def yearPlaces (year : Int) (p : Padding) : List Char :=
  manyPlaces 4 year p (year < 0 ∨ 9999 < year)

def octet (n : Int) : Nat := (n % 256).toNat

def writeQuantity (d : Date) (p : Padding) : Quantity → List Char
  | .year => yearPlaces d.year p
  | .century => twoPlaces (octet (d.year / 100)) p
  | .yearOfCentury => twoPlaces (d.year % 100).toNat p
  | .isoYear => yearPlaces d.isoWeek.1 p
  | .isoYearOfCentury => twoPlaces (d.isoWeek.1 % 100).toNat p
  | .quarter => Text.digits d.quarter
  | .month => twoPlaces d.month p
  | .day => twoPlaces d.day p
  | .weekFromSunday => twoPlaces (d.weekFrom .sunday) p
  | .weekFromMonday => twoPlaces (d.weekFrom .monday) p
  | .isoWeek => twoPlaces d.isoWeek.2 p
  | .daysFromSunday => Text.digits (d.weekday.daysSince .sunday)
  | .dayFromMonday => Text.digits (d.weekday.index + 1)
  | .ordinal => manyPlaces 3 d.ordinal p false
  | .hour => twoPlaces 0 p
  | .hour12 => twoPlaces 12 p
  | .minute => twoPlaces 0 p
  | .second => twoPlaces 0 p
  | .nanosecond => manyPlaces 9 0 p false
  | .timestamp => manyPlaces 9 ((d.dayNumber - epochDay) * 86400) p false

def writePart (d : Date) : Part → Option (List Char)
  | .shortMonth => some (((monthNames[d.month - 1]?).getD "").toList.take 3)
  | .longMonth => some ((monthNames[d.month - 1]?).getD "").toList
  | .shortWeekday => some (((weekdayNames[d.weekday.index]?).getD "").toList.take 3)
  | .longWeekday => some ((weekdayNames[d.weekday.index]?).getD "").toList
  | .lowerHalf => some "am".toList
  | .upperHalf => some "AM".toList
  | .fraction none => some []
  | .fraction (some n) => some ('.' :: List.replicate n '0')
  | .places n => some (List.replicate n '0')
  | .zoneName => none
  | .zoneOffset => none
  | .looseZoneOffset => none
  | .timestampText => none

def writeItem (d : Date) : Item → Option (List Char)
  | .literal s => some s
  | .blank s => some s
  | .number q p => some (writeQuantity d p q)
  | .part p => writePart d p
  | .invalid => none

def writeItems (d : Date) : List Item → Option (List Char)
  | [] => some []
  | item :: rest =>
    match writeItem d item, writeItems d rest with
    | some s, some t => some (s ++ t)
    | _, _ => none

/-- Midnight of `d` in a layout, if the layout is sound and needs no time zone. -/
def format? (layout : String) (d : Date) : Option String :=
  (writeItems d (items layout)).map String.ofList

end Layout

end SoapGateway.Calendar
