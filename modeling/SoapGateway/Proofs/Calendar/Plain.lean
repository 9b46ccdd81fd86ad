import SoapGateway.Proofs.Calendar.Order
import SoapGateway.Proofs.Text.Blank
import SoapGateway.Proofs.Text.Decimal
import SoapGateway.Layouts

/-!
# Dates in the default layouts

A day of the years 0000 to 9999, written as `YYYY-MM-DD`, is read as that day in the default layout
of requests, whatever blanks are around it, and it is sent on with the time of midnight.
-/
namespace SoapGateway.Calendar

/-- A day of the years that are written with four digits. -/
structure Date.IsPlain (d : Date) : Prop extends d.Exists where
  firstYear : 0 ≤ d.year
  lastYear : d.year ≤ 9999

namespace Date.IsPlain

variable {d : Date}

theorem day_le (plain : d.IsPlain) : d.day ≤ 31 := by
  have longest : daysInMonth d.year d.month ≤ 31 := by
    have all : ∀ days ∈ monthLengths d.year, days ≤ 31 := by
      unfold monthLengths
      split <;> decide
    unfold daysInMonth
    cases found : (monthLengths d.year)[d.month - 1]? with
    | none => exact Nat.zero_le 31
    | some days => exact all days (List.mem_of_getElem? found)
  exact Nat.le_trans plain.lastDay longest

theorem text_toList (plain : d.IsPlain) :
    d.text.toList = (Text.padded 4 d.year.toNat).toList ++
      '-' :: ((Text.padded 2 d.month).toList ++ '-' :: (Text.padded 2 d.day).toList) := by
  rw [Date.text, yearText, if_pos ⟨plain.firstYear, plain.lastYear⟩]
  simp

end Date.IsPlain

theorem not_isBlank_of_isDigit {c : Char} (digit : Text.isDigit c = true) :
    Text.isBlank c = false := by
  have range := Text.isDigit_iff.mp digit
  have low : 48 ≤ c.toNat := range.1
  have high : c.toNat ≤ 57 := range.2
  simp only [Text.isBlank, Bool.or_eq_false_iff, Bool.and_eq_false_iff, beq_eq_false_iff_ne,
    decide_eq_false_iff_not]
  omega

/-- A run of digits as long as a number may be is taken as its value. -/
theorem takeNumber_run {width : Nat} {run : List Char} (positive : 0 < width)
    (digits : ∀ c ∈ run, Text.isDigit c = true) (long : run.length = width)
    (small : Text.valueOf 10 run < Number.twoPow 63) (rest : List Char) :
    takeNumber 1 (some width) (run ++ rest) = .ok (Text.valueOf 10 run, rest) := by
  have taken : ((run ++ rest).take width).takeWhile Text.isDigit = run := by
    rw [← long, List.take_left]
    have whole := Text.takeWhile_run (v := []) digits nofun
    rwa [List.append_nil] at whole
  have filled : ¬ Utf8.octets (run ++ rest) < 1 := by
    cases run with
    | nil => exact absurd long (Nat.ne_of_lt positive)
    | cons c run =>
      have one := c.utf8Size_pos
      change ¬ c.utf8Size + _ < 1
      omega
  simp only [takeNumber, taken]
  rw [if_neg filled, if_neg (by omega), if_pos small, List.drop_left]

theorem takeQuantity_run {q : Quantity} {width : Nat} {run : List Char}
    (places : q.width.1 = some width) (positive : 0 < width)
    (digits : ∀ c ∈ run, Text.isDigit c = true) (long : run.length = width)
    (small : Text.valueOf 10 run < Number.twoPow 63) (rest : List Char) :
    takeQuantity q (run ++ rest) = .ok (Text.valueOf 10 run, rest) := by
  have taken := takeNumber_run positive digits long small rest
  cases run with
  | nil => exact absurd long (Nat.ne_of_lt positive)
  | cons c run =>
    have digit := digits c List.mem_cons_self
    have minus : c ≠ '-' := by rintro rfl; cases digit
    have plus : c ≠ '+' := by rintro rfl; cases digit
    have start : (c :: run ++ rest).dropWhile Text.isBlank = c :: run ++ rest :=
      List.dropWhile_cons_of_neg (by simp [not_isBlank_of_isDigit digit])
    unfold takeQuantity
    rw [start]
    dsimp only
    split
    · next eq => exact absurd (List.cons.inj eq).1 minus
    · next eq => exact absurd (List.cons.inj eq).1 plus
    · rw [places, taken]
      rfl

/-- A number that fits its places is read back from them. -/
theorem readQuantity_padded {q : Quantity} {n : Nat} {r r' : Reading} (width : Nat)
    (places : q.width.1 = some width) (positive : 0 < width) (fits : n < Nat.pow 10 width)
    (small : n < Number.twoPow 63) (kept : r.set q n = .ok r') (rest : List Char) :
    readQuantity q r ((Text.padded width n).toList ++ rest) = .ok (r', rest) := by
  have taken := takeQuantity_run places positive (Text.isDigit_padded width n)
    (Text.length_padded positive fits) (by rwa [Text.valueOf_padded]) rest
  rw [Text.valueOf_padded] at taken
  rw [readQuantity, taken]
  dsimp only
  rw [kept]
  rfl

theorem readLiteral_dash (rest : List Char) : readLiteral ['-'] ('-' :: rest) = .ok rest := by
  have filled : ¬ Utf8.octets ('-' :: rest) < Utf8.octets ['-'] := by
    change ¬ 1 + Utf8.octets rest < 1
    omega
  rw [readLiteral, if_neg filled]
  rfl

theorem twoPlaces_padded {n : Nat} (fits : n < 100) :
    Layout.twoPlaces n .zero = (Text.padded 2 n).toList := by
  have places : Layout.twoPlaces n .zero =
      [Char.ofNat (48 + n / 10), Char.ofNat (48 + n % 10)] := by
    unfold Layout.twoPlaces
    split
    · contradiction
    · contradiction
    · rfl
  have tens : n / 10 % 10 = n / 10 := by omega
  rw [places, Text.toList_padded]
  by_cases small : n < 10
  · have none : n / 10 = 0 := by omega
    rw [Text.digits, if_pos small, none]
    rfl
  · have less : n / 10 < 10 := by omega
    rw [Text.digits, if_neg small, Text.digits, if_pos less, Text.digitChar, Text.digitChar, tens]
    rfl

/-- The numbers of a date. -/
def Date.reading (d : Date) : Reading :=
  { year := some d.year, month := some d.month, day := some d.day }

namespace Date.IsPlain

variable {d : Date}

theorem readItems_text (plain : d.IsPlain) :
    readItems (Layout.items "%Y-%m-%d") {} d.text.toList = .ok d.reading := by
  have items : Layout.items "%Y-%m-%d" = [.number .year .zero, .literal ['-'],
      .number .month .zero, .literal ['-'], .number .day .zero] := by decide +kernel
  have yearFits : d.year.toNat < 10000 := by
    have last := plain.lastYear
    omega
  have monthFits : d.month < 100 := Nat.lt_of_le_of_lt plain.lastMonth (by decide)
  have dayFits : d.day < 100 := Nat.lt_of_le_of_lt plain.day_le (by decide)
  have keepsYear : Reading.set {} .year d.year.toNat = .ok { year := some d.year } := by
    have first := plain.firstYear
    have last := plain.lastYear
    have bounds : int32Min ≤ d.year ∧ d.year ≤ int32Max := by
      unfold int32Min int32Max
      omega
    rw [Int.toNat_of_nonneg first, Reading.set, within, if_pos bounds]
    rfl
  have keepsMonth : Reading.set { year := some d.year } .month d.month =
      .ok { year := some d.year, month := some d.month } := by
    have first := plain.firstMonth
    have last := plain.lastMonth
    rw [Reading.set, within, if_pos (by omega)]
    rfl
  have keepsDay : Reading.set { year := some d.year, month := some d.month } .day d.day =
      .ok d.reading := by
    have first := plain.firstDay
    have last := plain.day_le
    rw [Reading.set, within, if_pos (by omega)]
    rfl
  have year := readQuantity_padded 4 rfl (by decide) yearFits
    (Nat.lt_trans yearFits (by decide)) keepsYear
  have month := readQuantity_padded 2 rfl (by decide) monthFits
    (Nat.lt_trans monthFits (by decide)) keepsMonth
  have day := readQuantity_padded 2 rfl (by decide) dayFits
    (Nat.lt_trans dayFits (by decide)) keepsDay []
  rw [List.append_nil] at day
  rw [items, plain.text_toList]
  simp only [readItems, year, readLiteral_dash, month, day]
  rfl

/-- The day is found from its year, month and day of the month alone. -/
theorem date_reading (plain : d.IsPlain) : d.reading.date = .ok d := by
  have first := plain.firstYear
  have last := plain.lastYear
  have found : Date.ofYmd? d.year (d.month : Int).toNat (d.day : Int).toNat = some d := by
    rw [Int.toNat_natCast, Int.toNat_natCast, Date.ofYmd?, if_pos]
    refine ⟨?_, ?_, plain.firstMonth, plain.lastMonth, plain.firstDay, plain.lastDay⟩
    · unfold minYear
      omega
    · unfold maxYear
      omega
  have chosen : d.reading.candidate (some d.year) none =
      .ok (d, d.reading.fitsIsoWeek d && d.reading.fitsOrdinal d) := by
    simp only [Reading.candidate, Date.reading, found]
    rfl
  have fits : (d.reading.fitsIsoWeek d && d.reading.fitsOrdinal d) = true := by
    simp [Reading.fitsIsoWeek, Reading.fitsOrdinal, Reading.agreesShortYear, Reading.agrees,
      Date.reading]
  have year : resolveYear d.reading.year d.reading.century d.reading.yearOfCentury =
      .ok (some d.year) := rfl
  have isoYear : resolveYear d.reading.isoYear none d.reading.isoYearOfCentury = .ok none := rfl
  have quarter : Reading.agrees d.reading.quarter (d.quarter : Int) = true := rfl
  simp only [Reading.date, year, isoYear, chosen, fits, quarter, and_self, if_true]

theorem length_text (plain : d.IsPlain) : d.text.toList.length = 10 := by
  have last := plain.lastYear
  have year : (Text.padded 4 d.year.toNat).toList.length = 4 :=
    Text.length_padded (by decide) (show d.year.toNat < 10000 by omega)
  have month : (Text.padded 2 d.month).toList.length = 2 :=
    Text.length_padded (by decide) (Nat.lt_of_le_of_lt plain.lastMonth (by decide))
  have day : (Text.padded 2 d.day).toList.length = 2 :=
    Text.length_padded (by decide) (Nat.lt_of_le_of_lt plain.day_le (by decide))
  rw [plain.text_toList, List.length_append, List.length_cons, List.length_append, List.length_cons,
    year, month, day]

theorem text_solid (plain : d.IsPlain) : ∀ c ∈ d.text.toList, Text.isBlank c = false := by
  have solid {width n : Nat} {c : Char} (member : c ∈ (Text.padded width n).toList) :
      Text.isBlank c = false := not_isBlank_of_isDigit (Text.isDigit_padded width n c member)
  intro c member
  rw [plain.text_toList] at member
  simp only [List.mem_append, List.mem_cons] at member
  rcases member with year | rfl | month | rfl | day
  · exact solid year
  · rfl
  · exact solid month
  · rfl
  · exact solid day

/-- A text is read as the day that it writes. -/
theorem parse_text (plain : d.IsPlain) : Layout.parse "%Y-%m-%d" d.text = .ok d := by
  rw [Layout.parse, plain.readItems_text]
  exact plain.date_reading

/-- A day is sent on as its text and midnight. -/
theorem format?_text (plain : d.IsPlain) :
    Layout.format? "%Y-%m-%dT%H:%M:%S" d = some (d.text ++ "T00:00:00") := by
  have items : Layout.items "%Y-%m-%dT%H:%M:%S" = [.number .year .zero, .literal ['-'],
      .number .month .zero, .literal ['-'], .number .day .zero, .literal ['T'],
      .number .hour .zero, .literal [':'], .number .minute .zero, .literal [':'],
      .number .second .zero] := by decide +kernel
  have year : Layout.yearPlaces d.year .zero = (Text.padded 4 d.year.toNat).toList := by
    have first := plain.firstYear
    have last := plain.lastYear
    have signed : decide (d.year < 0 ∨ 9999 < d.year) = false := decide_eq_false (by omega)
    have same : d.year.natAbs = d.year.toNat := by omega
    rw [Layout.yearPlaces, Layout.manyPlaces, signed, if_neg (by omega), same, Text.padded,
      String.toList_ofList]
    rfl
  have month := twoPlaces_padded (Nat.lt_of_le_of_lt plain.lastMonth (by decide))
  have day := twoPlaces_padded (Nat.lt_of_le_of_lt plain.day_le (by decide))
  have text : d.text ++ "T00:00:00" =
      String.ofList (d.text.toList ++ ['T', '0', '0', ':', '0', '0', ':', '0', '0']) := by
    rw [String.ofList_append, String.ofList_toList]
  rw [Layout.format?, items, text, plain.text_toList]
  have zero : Layout.twoPlaces 0 .zero = ['0', '0'] := rfl
  simp only [Layout.writeItems, Layout.writeItem, Layout.writeQuantity, year, month, day, zero,
    Option.map_some, List.append_assoc, List.cons_append, List.nil_append]

end Date.IsPlain

end SoapGateway.Calendar

namespace SoapGateway

/-- A text with white space around it, or none. -/
def Text.Surrounds (value s : String) : Prop :=
  ∃ before after, (∀ c ∈ before, isBlank c = true) ∧ (∀ c ∈ after, isBlank c = true) ∧
    value.toList = before ++ (s.toList ++ after)

namespace Layouts

variable {a b d : Calendar.Date} {value start stop : String}

/-- With the default layouts a day is read whatever blanks are around it. -/
theorem readDate_text (plain : d.IsPlain) (written : Text.Surrounds value d.text)
    (field : String) : ({} : Layouts).readDate field value = .ok d := by
  obtain ⟨before, after, blankBefore, blankAfter, split⟩ := written
  have trimmed : Text.trim value = d.text := by
    rw [Text.trim, split, Text.trimBy_left blankBefore, Text.trimBy_right blankAfter,
      Text.trimBy_kept plain.text_solid, String.ofList_toList]
  rw [readDate, trimmed, plain.parse_text]

theorem writeDate_text (plain : d.IsPlain) :
    ({} : Layouts).writeDate d = .ok (d.text ++ "T00:00:00") := by
  rw [writeDate, plain.format?_text]

end Layouts

end SoapGateway
