import SoapGateway.Text.Decimal

/-!
# Calendar dates

Days of the proleptic Gregorian calendar. A date is a year, a month and a day of the month; its day
number counts the days since 1 January of year 1, which was a Monday. Years run from -262143 to
262142.
-/
namespace SoapGateway.Calendar

def isLeap (year : Int) : Bool := year % 4 = 0 ∧ (year % 100 ≠ 0 ∨ year % 400 = 0)

def monthLengths (year : Int) : List Nat :=
  [31, if isLeap year then 29 else 28, 31, 30, 31, 30, 31, 31, 30, 31, 30, 31]

def daysInMonth (year : Int) (month : Nat) : Nat := ((monthLengths year)[month - 1]?).getD 0

def daysInYear (year : Int) : Nat := if isLeap year then 366 else 365

def yearStart (year : Int) : Int :=
  let y := year - 1
  365 * y + y / 4 - y / 100 + y / 400

/-- The year in which a day lies. The first guess is off by one at most. -/
def yearOfDay (n : Int) : Int :=
  let guess := n * 400 / 146097 + 1
  if n < yearStart guess then guess - 1
  else if yearStart (guess + 1) ≤ n then guess + 1
  else guess

def minYear : Int := -262143

def maxYear : Int := 262142

structure Date where
  year : Int
  month : Nat
  day : Nat
  deriving DecidableEq, Repr

inductive Weekday where
  | monday | tuesday | wednesday | thursday | friday | saturday | sunday
  deriving DecidableEq, Repr

namespace Weekday

/-- Days since Monday. -/
def index : Weekday → Nat
  | monday => 0 | tuesday => 1 | wednesday => 2 | thursday => 3 | friday => 4 | saturday => 5
  | sunday => 6

/-- The day that lies `n` days after a Monday. -/
def ofIndex (n : Nat) : Weekday :=
  match n % 7 with
  | 0 => monday | 1 => tuesday | 2 => wednesday | 3 => thursday | 4 => friday | 5 => saturday
  | _ => sunday

/-- Days since the last `start`, zero on that day itself. -/
def daysSince (d start : Weekday) : Nat := (d.index + 7 - start.index) % 7

end Weekday

namespace Date

def ofYmd? (year : Int) (month day : Nat) : Option Date :=
  if minYear ≤ year ∧ year ≤ maxYear ∧ 1 ≤ month ∧ month ≤ 12 ∧ 1 ≤ day ∧
      day ≤ daysInMonth year month then
    some ⟨year, month, day⟩
  else none

def ordinal (d : Date) : Nat := ((monthLengths d.year).take (d.month - 1)).foldr (· + ·) 0 + d.day

/-- Days since 1 January of year 1. -/
def dayNumber (d : Date) : Int := yearStart d.year + d.ordinal - 1

/-- Month and day of the month that the `n`-th day, from zero, of consecutive months falls on. -/
def splitDays (month : Nat) : List Nat → Nat → Nat × Nat
  | [], n => (month, n + 1)
  | length :: rest, n =>
    if n < length then (month, n + 1) else splitDays (month + 1) rest (n - length)

def ofDayNumber (n : Int) : Date :=
  let year := yearOfDay n
  let (month, day) := splitDays 1 (monthLengths year) (n - yearStart year).toNat
  ⟨year, month, day⟩

def ofDayNumber? (n : Int) : Option Date :=
  let d := ofDayNumber n
  if minYear ≤ d.year ∧ d.year ≤ maxYear then some d else none

def ofOrdinal? (year : Int) (ordinal : Nat) : Option Date :=
  if 1 ≤ ordinal ∧ ordinal ≤ daysInYear year then ofDayNumber? (yearStart year + ordinal - 1)
  else none

def weekday (d : Date) : Weekday := Weekday.ofIndex (d.dayNumber % 7).toNat

/-- Number of the week in a year whose weeks begin on `start`; days before the first one have 0. -/
def weekFrom (d : Date) (start : Weekday) : Nat := (d.ordinal + 6 - d.weekday.daysSince start) / 7

/-- Year and number of the ISO week, which belong to the Thursday of the week. -/
def isoWeek (d : Date) : Int × Nat :=
  let thursday := ofDayNumber (d.dayNumber - d.weekday.index + 3)
  (thursday.year, (thursday.ordinal - 1) / 7 + 1)

/-- The day of an ISO week. Week 1 holds 4 January. -/
def ofIsoWeek? (year : Int) (week : Nat) (weekday : Weekday) : Option Date :=
  let fourth : Date := ⟨year, 1, 4⟩
  let n := fourth.dayNumber - fourth.weekday.index + 7 * ((week : Int) - 1) + weekday.index
  if 1 ≤ week ∧ (ofDayNumber n).isoWeek.1 = year then ofDayNumber? n else none

/-- The day of a week that is counted from the first `start` of the year; `none` if it lies outside
the year. -/
def ofWeek? (year : Int) (week : Nat) (weekday start : Weekday) : Option Date :=
  let first := (Weekday.ofIndex (yearStart year % 7).toNat)
  let n : Int :=
    1 + (start.daysSince first : Int) + ((week : Int) - 1) * 7 + weekday.daysSince start
  if n ≤ 0 then none else ofOrdinal? year n.toNat

def quarter (d : Date) : Nat := (d.month - 1) / 3 + 1

/-- The text of a year: four digits, and a sign outside the years 0 to 9999. -/
def yearText (year : Int) : String :=
  if 0 ≤ year ∧ year ≤ 9999 then Text.padded 4 year.toNat
  else (if year < 0 then "-" else "+") ++ Text.padded 4 year.natAbs

/-- The date as `YYYY-MM-DD`. -/
def text (d : Date) : String :=
  yearText d.year ++ "-" ++ Text.padded 2 d.month ++ "-" ++ Text.padded 2 d.day

def before (a b : Date) : Bool := a.dayNumber < b.dayNumber

end Date

end SoapGateway.Calendar
