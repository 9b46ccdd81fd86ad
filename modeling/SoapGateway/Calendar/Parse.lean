import SoapGateway.Calendar.Format
import SoapGateway.Number.Power
import SoapGateway.Text.Utf8

/-!
# Reading dates

Reading a text by the items of a layout collects what it says about the day, and refuses two items
that contradict each other. The day is then found from the first of these that is complete: year,
month and day; day of the year; week of the year and weekday; ISO week and weekday. All else that
was read has to agree with it. The time of day is read and ranged, but does not count.
-/
namespace SoapGateway.Calendar

inductive DateFault where
  | outOfRange | impossible | notEnough | invalid | tooShort | tooLong | badLayout
  deriving DecidableEq, Repr

def DateFault.message : DateFault → String
  | outOfRange => "input is out of range"
  | impossible => "no possible date and time matching input"
  | notEnough => "input is not enough for unique date and time"
  | invalid => "input contains invalid characters"
  | tooShort => "premature end of input"
  | tooLong => "trailing input"
  | badLayout => "bad or unsupported format string"

structure Reading where
  year : Option Int := none
  century : Option Int := none
  yearOfCentury : Option Int := none
  isoYear : Option Int := none
  isoYearOfCentury : Option Int := none
  quarter : Option Int := none
  month : Option Int := none
  day : Option Int := none
  weekFromSunday : Option Int := none
  weekFromMonday : Option Int := none
  isoWeek : Option Int := none
  weekday : Option Weekday := none
  ordinal : Option Int := none
  halfDay : Option Int := none
  hourOfHalf : Option Int := none
  minute : Option Int := none
  second : Option Int := none
  nanosecond : Option Int := none
  timestamp : Option Int := none
  offset : Option Int := none
  deriving Repr

/-- Keeps a value that agrees with what was read before. -/
def agree {α : Type} [DecidableEq α] (old : Option α) (new : α) : Except DateFault (Option α) :=
  match old with
  | none => .ok (some new)
  | some x => if x = new then .ok (some new) else .error .impossible

/-- A value within bounds that agrees with what was read before. -/
def within (low high : Int) (old : Option Int) (new : Int) : Except DateFault (Option Int) :=
  if low ≤ new ∧ new ≤ high then agree old new else .error .outOfRange

def int32Min : Int := -2147483648

def int32Max : Int := 2147483647

namespace Reading

def setHour (r : Reading) (v : Int) : Except DateFault Reading :=
  if 0 ≤ v ∧ v ≤ 23 then
    match agree r.halfDay (v / 12) with
    | .error e => .error e
    | .ok half =>
      (agree r.hourOfHalf (v % 12)).map fun h => { r with halfDay := half, hourOfHalf := h }
  else .error .outOfRange

def setWeekday (r : Reading) (d : Weekday) : Except DateFault Reading :=
  (agree r.weekday d).map fun w => { r with weekday := w }

def set (r : Reading) (q : Quantity) (v : Int) : Except DateFault Reading :=
  match q with
  | .year => (within int32Min int32Max r.year v).map fun x => { r with year := x }
  | .century => (within 0 int32Max r.century v).map fun x => { r with century := x }
  | .yearOfCentury => (within 0 99 r.yearOfCentury v).map fun x => { r with yearOfCentury := x }
  | .isoYear => (within int32Min int32Max r.isoYear v).map fun x => { r with isoYear := x }
  | .isoYearOfCentury =>
    (within 0 99 r.isoYearOfCentury v).map fun x => { r with isoYearOfCentury := x }
  | .quarter => (within 1 4 r.quarter v).map fun x => { r with quarter := x }
  | .month => (within 1 12 r.month v).map fun x => { r with month := x }
  | .day => (within 1 31 r.day v).map fun x => { r with day := x }
  | .weekFromSunday => (within 0 53 r.weekFromSunday v).map fun x => { r with weekFromSunday := x }
  | .weekFromMonday => (within 0 53 r.weekFromMonday v).map fun x => { r with weekFromMonday := x }
  | .isoWeek => (within 1 53 r.isoWeek v).map fun x => { r with isoWeek := x }
  | .daysFromSunday =>
    if 0 ≤ v ∧ v ≤ 6 then r.setWeekday (Weekday.ofIndex (v.toNat + 6)) else .error .outOfRange
  | .dayFromMonday =>
    if 1 ≤ v ∧ v ≤ 7 then r.setWeekday (Weekday.ofIndex (v.toNat - 1)) else .error .outOfRange
  | .ordinal => (within 1 366 r.ordinal v).map fun x => { r with ordinal := x }
  | .hour => r.setHour v
  | .hour12 => if 1 ≤ v ∧ v ≤ 12 then
      (agree r.hourOfHalf (v % 12)).map fun x => { r with hourOfHalf := x }
    else .error .outOfRange
  | .minute => (within 0 59 r.minute v).map fun x => { r with minute := x }
  | .second => (within 0 60 r.second v).map fun x => { r with second := x }
  | .nanosecond => (within 0 999999999 r.nanosecond v).map fun x => { r with nanosecond := x }
  | .timestamp => (agree r.timestamp v).map fun x => { r with timestamp := x }

end Reading

/-- Takes up to `max` digits, or as many as there are; at least `min` of them are needed. -/
def takeNumber (min : Nat) (max : Option Nat) (s : List Char) :
    Except DateFault (Nat × List Char) :=
  let run := (match max with | some m => s.take m | none => s).takeWhile Text.isDigit
  if Utf8.octets s < min then .error .tooShort
  else if run.length < min then .error .invalid
  else
    let n := Text.valueOf 10 run
    if n < Number.twoPow 63 then .ok (n, s.drop run.length) else .error .outOfRange

/-- Most digits that a number has unless it is signed, and whether a sign may precede it. -/
def Quantity.width : Quantity → Option Nat × Bool
  | .year => (some 4, true)
  | .isoYear => (some 4, true)
  | .quarter => (some 1, false)
  | .daysFromSunday => (some 1, false)
  | .dayFromMonday => (some 1, false)
  | .ordinal => (some 3, false)
  | .nanosecond => (some 9, false)
  | .timestamp => (none, false)
  | _ => (some 2, false)

/-- Takes the value of a number, blanks before it skipped. -/
def takeQuantity (q : Quantity) (s : List Char) : Except DateFault (Int × List Char) :=
  let s := s.dropWhile Text.isBlank
  let (width, signed) := q.width
  match signed, s with
  | true, '-' :: rest => (takeNumber 1 none rest).map fun (n, rest) => (-n, rest)
  | true, '+' :: rest => (takeNumber 1 none rest).map fun (n, rest) => (n, rest)
  | _, s => (takeNumber 1 width s).map fun (n, rest) => (n, rest)

/-- Takes the first three letters of a name, of either case, and answers its place in the list. -/
def takeShortName (names : List String) (s : List Char) : Except DateFault (Nat × List Char) :=
  if Utf8.octets s < 3 then .error .tooShort
  else
    let i := names.findIdx fun n => Text.sameAscii (n.toList.take 3) (s.take 3)
    if i < names.length then .ok (i, s.drop 3) else .error .invalid

/-- Takes a name in its short or, if it goes on like that, its long form. -/
def takeName (names : List String) (s : List Char) : Except DateFault (Nat × List Char) :=
  match takeShortName names s with
  | .error e => .error e
  | .ok (i, rest) =>
    let suffix := ((names[i]?).getD "").toList.drop 3
    if Text.sameAscii suffix (rest.take suffix.length) then .ok (i, rest.drop suffix.length)
    else .ok (i, rest)

/-- Takes two digits with the first one below `limit`. -/
def takePair (limit : Nat) (s : List Char) : Except DateFault (Nat × List Char) :=
  if Utf8.octets s < 2 then .error .tooShort
  else
    match s with
    | a :: b :: rest =>
      match Text.digitValue? a, Text.digitValue? b with
      | some x, some y => if x < limit then .ok (x * 10 + y, rest) else .error .outOfRange
      | _, _ => .error .invalid
    | _ => .error .invalid

/-- Takes an offset from UTC in seconds. With `loose`, minutes may be missing. -/
def takeOffset (zulu loose : Bool) (s : List Char) : Except DateFault (Int × List Char) :=
  let signed (negative : Bool) (rest : List Char) : Except DateFault (Int × List Char) :=
    match takePair 10 rest with
    | .error e => .error e
    | .ok (hours, rest) =>
      let rest := rest.dropWhile fun c => c == ':' || Text.isBlank c
      let finish (minutes : Nat) (rest : List Char) : Except DateFault (Int × List Char) :=
        let seconds : Int := hours * 3600 + minutes * 60
        .ok (if negative then -seconds else seconds, rest)
      if Utf8.octets rest < 2 then
        if loose ∧ rest = [] then finish 0 rest else .error .tooShort
      else
        match takePair 6 rest with
        | .error e => .error e
        | .ok (minutes, rest) => finish minutes rest
  match s with
  | [] => .error .tooShort
  | c :: rest =>
    if zulu ∧ (c = 'Z' ∨ c = 'z') then .ok (0, rest)
    else if c = '+' then signed false rest
    else if c = '-' ∨ c = Char.ofNat 0x2212 then signed true rest
    else .error .invalid

/-- Takes places of the second after a point: up to nine digits count, more are dropped. -/
def takePlaces (s : List Char) : Except DateFault (Int × List Char) :=
  match takeNumber 1 (some 9) s with
  | .error e => .error e
  | .ok (n, rest) =>
    .ok (n * Nat.pow 10 (9 - (s.length - rest.length)), rest.dropWhile Text.isDigit)

/-- Records the places of a second after a point, if a point comes next. -/
def readFraction (r : Reading) (s : List Char) : Except DateFault (Reading × List Char) :=
  match s with
  | '.' :: rest =>
    match takePlaces rest with
    | .error e => .error e
    | .ok (n, rest) => (r.set .nanosecond n).map fun r => (r, rest)
  | s => .ok (r, s)

def readLiteral (expected : List Char) (s : List Char) : Except DateFault (List Char) :=
  if Utf8.octets s < Utf8.octets expected then .error .tooShort
  else if s.take expected.length = expected then .ok (s.drop expected.length)
  else .error .invalid

def readQuantity (q : Quantity) (r : Reading) (s : List Char) :
    Except DateFault (Reading × List Char) :=
  match takeQuantity q s with
  | .error e => .error e
  | .ok (v, rest) => (r.set q v).map fun r => (r, rest)

/-- Reads the numbers of a timestamp with the given texts between them. -/
def readNumbers : List (Quantity × List Char) → Reading → List Char →
    Except DateFault (Reading × List Char)
  | [], r, s => .ok (r, s)
  | (q, after) :: more, r, s =>
    match readQuantity q r s with
    | .error e => .error e
    | .ok (r, s) =>
      match readLiteral after s with
      | .error e => .error e
      | .ok s => readNumbers more r s

/-- Reads a timestamp: date, time, places of the second, and offset or a word for UTC. -/
def readTimestamp (r : Reading) (s : List Char) : Except DateFault (Reading × List Char) :=
  match readNumbers [(.year, ['-']), (.month, ['-']), (.day, [])] r s with
  | .error e => .error e
  | .ok (_, []) => .error .tooShort
  | .ok (r, c :: s) =>
    if c = 't' ∨ c = 'T' ∨ c = ' ' then
      match readNumbers [(.hour, [':']), (.minute, [':']), (.second, [])] r s with
      | .error e => .error e
      | .ok (r, s) =>
        match readFraction r s with
        | .error e => .error e
        | .ok (r, s) =>
          let s := s.dropWhile Text.isBlank
          let offset :=
            if Text.sameAscii (s.take 3) "utc".toList then .ok (0, s.drop 3)
            else takeOffset true false s
          match offset with
          | .error e => .error e
          | .ok (o, s) => (agree r.offset o).map fun o => ({ r with offset := o }, s)
    else .error .invalid

def readPart (p : Part) (r : Reading) (s : List Char) : Except DateFault (Reading × List Char) :=
  let month (taken : Except DateFault (Nat × List Char)) : Except DateFault (Reading × List Char) :=
    match taken with
    | .error e => .error e
    | .ok (i, s) => (r.set .month (i + 1)).map fun r => (r, s)
  let weekday (taken : Except DateFault (Nat × List Char)) :
      Except DateFault (Reading × List Char) :=
    match taken with
    | .error e => .error e
    | .ok (i, s) => (r.setWeekday (Weekday.ofIndex i)).map fun r => (r, s)
  let half (s : List Char) : Except DateFault (Reading × List Char) :=
    if Utf8.octets s < 2 then .error .tooShort
    else
      let value : Option Int :=
        if Text.sameAscii (s.take 2) "am".toList then some 0
        else if Text.sameAscii (s.take 2) "pm".toList then some 1
        else none
      match value with
      | some v => (agree r.halfDay v).map fun h => ({ r with halfDay := h }, s.drop 2)
      | none => .error .invalid
  let offset (taken : Except DateFault (Int × List Char)) :
      Except DateFault (Reading × List Char) :=
    match taken with
    | .error e => .error e
    | .ok (o, s) => (agree r.offset o).map fun o => ({ r with offset := o }, s)
  match p with
  | .shortMonth => month (takeShortName monthNames s)
  | .longMonth => month (takeName monthNames s)
  | .shortWeekday => weekday (takeShortName weekdayNames s)
  | .longWeekday => weekday (takeName weekdayNames s)
  | .lowerHalf => half s
  | .upperHalf => half s
  | .fraction _ => readFraction r s
  | .places n =>
    if Utf8.octets s < n then .error .tooShort
    else
      match takeNumber n (some n) s with
      | .error e => .error e
      | .ok (v, s) => (r.set .nanosecond (v * Nat.pow 10 (9 - n))).map fun r => (r, s)
  | .zoneName => .ok (r, s.dropWhile fun c => !Text.isBlank c)
  | .zoneOffset => offset (takeOffset false false (s.dropWhile Text.isBlank))
  | .looseZoneOffset => offset (takeOffset true true (s.dropWhile Text.isBlank))
  | .timestampText => readTimestamp r s

/-- Reads a text by items; what is left of it must be empty. Blanks stand for any number of blanks.
-/
def readItems : List Item → Reading → List Char → Except DateFault Reading
  | [], r, s => if s.isEmpty then .ok r else .error .tooLong
  | item :: rest, r, s =>
    match item with
    | .literal t =>
      match readLiteral t s with
      | .error e => .error e
      | .ok s => readItems rest r s
    | .blank _ => readItems rest r (s.dropWhile Text.isBlank)
    | .number q _ =>
      match readQuantity q r s with
      | .error e => .error e
      | .ok (r, s) => readItems rest r s
    | .part p =>
      match readPart p r s with
      | .error e => .error e
      | .ok (r, s) => readItems rest r s
    | .invalid => .error .badLayout

/-- The year that a full year, a century and a year of a century speak of. -/
def resolveYear (full century short : Option Int) : Except DateFault (Option Int) :=
  match full, century, short with
  | y, none, none => .ok y
  | some y, q, r =>
    if y < 0 then .error .impossible
    else if q.getD (y / 100) = y / 100 ∧ r.getD (y % 100) = y % 100 then .ok (some y)
    else .error .impossible
  | none, some q, some r =>
    if q * 100 + r ≤ int32Max then .ok (some (q * 100 + r)) else .error .outOfRange
  | none, none, some r => .ok (some (if r < 70 then r + 2000 else r + 1900))
  | none, some _, none => .error .notEnough

namespace Reading

def agrees {α : Type} [DecidableEq α] (read : Option α) (actual : α) : Bool :=
  match read with
  | none => true
  | some x => x = actual

/-- Whether a year of a date fits what was read as century and year of a century. -/
def agreesShortYear (century short : Option Int) (year : Int) : Bool :=
  if 0 ≤ year then agrees century (year / 100) && agrees short (year % 100)
  else century.isNone && short.isNone

def fitsYmd (r : Reading) (d : Date) : Bool :=
  agrees r.year d.year && agreesShortYear r.century r.yearOfCentury d.year &&
    agrees r.month d.month && agrees r.day d.day

def fitsIsoWeek (r : Reading) (d : Date) : Bool :=
  let (year, week) := d.isoWeek
  agrees r.isoYear year && agreesShortYear none r.isoYearOfCentury year && agrees r.isoWeek week &&
    agrees r.weekday d.weekday

def fitsOrdinal (r : Reading) (d : Date) : Bool :=
  agrees r.ordinal d.ordinal && agrees r.weekFromSunday (d.weekFrom .sunday) &&
    agrees r.weekFromMonday (d.weekFrom .monday)

/-- The first complete description of a day, and whether the others agree with it. -/
def candidate (r : Reading) (year isoYear : Option Int) : Except DateFault (Date × Bool) :=
  let byYmd : Option (Except DateFault (Date × Bool)) :=
    match year, r.month, r.day with
    | some y, some m, some d =>
      some (match Date.ofYmd? y m.toNat d.toNat with
        | none => .error .outOfRange
        | some d => .ok (d, r.fitsIsoWeek d && r.fitsOrdinal d))
    | _, _, _ => none
  let byOrdinal : Option (Except DateFault (Date × Bool)) :=
    match year, r.ordinal with
    | some y, some n =>
      some (match Date.ofOrdinal? y n.toNat with
        | none => .error .outOfRange
        | some d => .ok (d, r.fitsYmd d && r.fitsIsoWeek d && r.fitsOrdinal d))
    | _, _ => none
  let byWeek (week : Option Int) (start : Weekday) : Option (Except DateFault (Date × Bool)) :=
    match year, week, r.weekday with
    | some y, some w, some wd =>
      some (if (Date.ofOrdinal? y 1).isNone then .error .outOfRange
        else match Date.ofWeek? y w.toNat wd start with
        | none => .error .impossible
        | some d => .ok (d, r.fitsYmd d && r.fitsIsoWeek d && r.fitsOrdinal d))
    | _, _, _ => none
  let byIsoWeek : Option (Except DateFault (Date × Bool)) :=
    match isoYear, r.isoWeek, r.weekday with
    | some y, some w, some wd =>
      some (match Date.ofIsoWeek? y w.toNat wd with
        | none => .error .outOfRange
        | some d => .ok (d, r.fitsYmd d && r.fitsOrdinal d))
    | _, _, _ => none
  let all := [byYmd, byOrdinal, byWeek r.weekFromSunday .sunday, byWeek r.weekFromMonday .monday,
    byIsoWeek]
  ((all.filterMap id).head?).getD (.error .notEnough)

def date (r : Reading) : Except DateFault Date :=
  match resolveYear r.year r.century r.yearOfCentury with
  | .error e => .error e
  | .ok year =>
    match resolveYear r.isoYear none r.isoYearOfCentury with
    | .error e => .error e
    | .ok isoYear =>
      match r.candidate year isoYear with
      | .error e => .error e
      | .ok (d, fits) =>
        if fits ∧ agrees r.quarter (d.quarter : Int) then .ok d else .error .impossible

end Reading

namespace Layout

def parse (layout : String) (s : String) : Except DateFault Date :=
  match readItems (items layout) {} s.toList with
  | .error e => .error e
  | .ok r => r.date

end Layout

end SoapGateway.Calendar
