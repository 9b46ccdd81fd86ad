import SoapGateway.Calendar.Timestamp
import SoapGateway.Proofs.Calendar.DayNumber
import SoapGateway.Proofs.Calendar.Plain

/-!
# UTC times to the millisecond

The text of an instant of the years 0000 to 9999 has fixed form and is read back as that instant,
rounded down to a whole millisecond. Texts of one form are ordered as their numbers, place by place,
so such texts are in the order of time.
-/
namespace SoapGateway.Calendar

variable {form : List Place} {s t : List Char} {ns ms : List Nat}

theorem numbers?_mark (c : Char) (form : List Place) (s : List Char) :
    numbers? (.mark c :: form) (c :: s) = numbers? form s := by
  rw [numbers?, List.head?_cons, if_pos rfl, List.tail_cons]

theorem numbers?_padded {width n : Nat} (positive : 0 < width) (fits : n < Nat.pow 10 width)
    (form : List Place) (s : List Char) :
    numbers? (.number width :: form) ((Text.padded width n).toList ++ s) =
      (numbers? form s).map (n :: ·) := by
  have long := Text.length_padded positive fits
  have digits : (Text.padded width n).toList.all Text.isDigit = true :=
    List.all_eq_true.mpr (Text.isDigit_padded width n)
  rw [numbers?, List.take_left' long, List.drop_left' long, if_pos ⟨long, digits⟩,
    Text.valueOf_padded]

/-- What a text of a form has at its first place. -/
theorem numbers?_mark_eq {c : Char} (read : numbers? (.mark c :: form) s = some ns) :
    ∃ rest, s = c :: rest ∧ numbers? form rest = some ns := by
  rw [numbers?] at read
  split at read
  · next first =>
    obtain ⟨rest, whole⟩ := List.head?_eq_some_iff.mp first
    rw [whole, List.tail_cons] at read
    exact ⟨rest, whole, read⟩
  · cases read

theorem numbers?_number_eq {width : Nat} (read : numbers? (.number width :: form) s = some ns) :
    ∃ run rest numbers, s = run ++ rest ∧ run.length = width ∧
      (∀ c ∈ run, Text.isDigit c = true) ∧ numbers? form rest = some numbers ∧
      ns = Text.valueOf 10 run :: numbers := by
  rw [numbers?] at read
  split at read
  · next places =>
    obtain ⟨numbers, others, rfl⟩ := Option.map_eq_some_iff.mp read
    exact ⟨s.take width, s.drop width, numbers, (List.take_append_drop width s).symm, places.1,
      List.all_eq_true.mp places.2, others, rfl⟩
  · cases read

theorem append_lt_append_iff {u v : List Char} (long : u.length = v.length) :
    u ++ s < v ++ t ↔ u < v ∨ u = v ∧ s < t := by
  induction u generalizing v with
  | nil =>
    rw [List.length_nil] at long
    rw [List.length_eq_zero_iff.mp long.symm]
    simp
  | cons c u ih =>
    cases v with
    | nil => cases long
    | cons d v =>
      rw [List.cons_append, List.cons_append, List.cons_lt_cons_iff, ih (Nat.succ.inj long),
        List.cons_lt_cons_iff, List.cons.injEq, and_or_left, or_assoc, and_assoc]

/-- A text of a form has nothing but digits and the marks of the form. -/
theorem isDigit_or_mark (read : numbers? form s = some ns) :
    ∀ c ∈ s, Text.isDigit c = true ∨ .mark c ∈ form := by
  induction form generalizing s ns with
  | nil =>
    rw [numbers?] at read
    split at read
    · next empty => simp [empty]
    · cases read
  | cons place form ih =>
    intro c member
    cases place with
    | mark d =>
      obtain ⟨rest, rfl, others⟩ := numbers?_mark_eq read
      rcases List.mem_cons.mp member with rfl | later
      · exact .inr List.mem_cons_self
      · exact (ih others c later).imp_right (List.mem_cons_of_mem _)
    | number width =>
      obtain ⟨run, rest, numbers, rfl, _, digits, others, _⟩ := numbers?_number_eq read
      rcases List.mem_append.mp member with first | later
      · exact .inl (digits c first)
      · exact (ih others c later).imp_right (List.mem_cons_of_mem _)

/-- Texts of one form are ordered as their numbers, of which the first that differs decides. -/
theorem lt_iff_numbers_lt (readS : numbers? form s = some ns) (readT : numbers? form t = some ms) :
    s < t ↔ ns < ms := by
  induction form generalizing s t ns ms with
  | nil =>
    rw [numbers?] at readS readT
    split at readS
    · next emptyS =>
      split at readT
      · next emptyT =>
        cases readS
        cases readT
        rw [emptyS, emptyT]
        simp
      · cases readT
    · cases readS
  | cons place form ih =>
    cases place with
    | mark c =>
      obtain ⟨s', rfl, restS⟩ := numbers?_mark_eq readS
      obtain ⟨t', rfl, restT⟩ := numbers?_mark_eq readT
      rw [List.cons_lt_cons_iff, ← ih restS restT]
      exact ⟨fun less => less.elim (fun less => absurd less (Nat.lt_irrefl c.toNat)) And.right,
        fun less => .inr ⟨rfl, less⟩⟩
    | number width =>
      obtain ⟨u, s', ns', rfl, longU, digitsU, restS, rfl⟩ := numbers?_number_eq readS
      obtain ⟨v, t', ms', rfl, longV, digitsV, restT, rfl⟩ := numbers?_number_eq readT
      have long : u.length = v.length := by rw [longU, longV]
      have less := Text.lt_iff_valueOf_lt long digitsU digitsV
      have same : u = v ↔ Text.valueOf 10 u = Text.valueOf 10 v := by
        refine ⟨fun same => by rw [same], fun same => ?_⟩
        have more := Text.lt_iff_valueOf_lt long.symm digitsV digitsU
        rw [same] at less more
        exact List.le_antisymm (mt more.mp (Nat.lt_irrefl _)) (mt less.mp (Nat.lt_irrefl _))
      rw [append_lt_append_iff long, less, same, ih restS restT, List.cons_lt_cons_iff]

-- Here and below an instant is bound as the integer that it is: `omega` looks through no name.
/-- An instant of the years that are written with four digits. -/
structure Instant.IsPlain (t : Int) : Prop where
  /-- From 0000-01-01T00:00:00Z on. -/
  first : -62167219200000000 ≤ t
  /-- Before 10000-01-01T00:00:00Z. -/
  last : t < 253402300800000000

namespace Instant

/-- The numbers of the UTC text of an instant. -/
def numbers (t : Int) : List Nat :=
  let seconds := timeOfDay t / 1000000
  [(date t).year.toNat, (date t).month, (date t).day, seconds / 3600, seconds / 60 % 60,
    seconds % 60, timeOfDay t / 1000 % 1000]

theorem timeOfDay_lt (t : Int) : timeOfDay t < 86400000000 := by
  unfold timeOfDay microsPerDay
  omega

/-- The day and the time of the day make the instant. -/
theorem dayNumber_date (t : Int) :
    t = ((date t).dayNumber - epochDay) * microsPerDay + timeOfDay t := by
  rw [date, (Date.ofDayNumber_spec _).2, timeOfDay]
  unfold microsPerDay
  omega

theorem isPlain_iff {t : Int} : IsPlain t ↔ 0 ≤ (date t).year ∧ (date t).year ≤ 9999 := by
  have year : (date t).year = yearOfDay (epochDay + t / microsPerDay) := rfl
  have begun := @le_yearOfDay 0 (epochDay + t / microsPerDay)
  have ended := @le_yearOfDay 10000 (epochDay + t / microsPerDay)
  rw [← year] at begun ended
  unfold epochDay microsPerDay at begun ended
  dsimp only [yearStart] at begun ended
  constructor
  · rintro ⟨first, last⟩
    omega
  · rintro ⟨first, last⟩
    exact ⟨by omega, by omega⟩

theorem IsPlain.date {t : Int} (plain : IsPlain t) : (date t).IsPlain where
  toExists := (Date.ofDayNumber_spec _).1
  firstYear := (isPlain_iff.mp plain).1
  lastYear := (isPlain_iff.mp plain).2

/-- The text has the fixed form, with the numbers of the instant at its places. -/
theorem numbers?_milliText {t : Int} (plain : IsPlain t) :
    numbers? utcForm (milliText t).toList = some (numbers t) := by
  have day := plain.date
  have inDay := timeOfDay_lt t
  have whole : (milliText t).toList = (Text.padded 4 (date t).year.toNat).toList ++
      '-' :: ((Text.padded 2 (date t).month).toList ++
      '-' :: ((Text.padded 2 (date t).day).toList ++
      'T' :: ((Text.padded 2 (timeOfDay t / 1000000 / 3600)).toList ++
      ':' :: ((Text.padded 2 (timeOfDay t / 1000000 / 60 % 60)).toList ++
      ':' :: ((Text.padded 2 (timeOfDay t / 1000000 % 60)).toList ++
      '.' :: ((Text.padded 3 (timeOfDay t / 1000 % 1000)).toList ++ ['Z'])))))) := by
    simp [milliText, secondText, clockText, day.text_toList]
  have year : (date t).year.toNat < 10000 := by
    have last := day.lastYear
    omega
  have month : (date t).month < 100 := Nat.lt_of_le_of_lt day.lastMonth (by decide)
  have dayOf : (date t).day < 100 := Nat.lt_of_le_of_lt day.day_le (by decide)
  rw [whole, utcForm, numbers?_padded (by decide) year, numbers?_mark,
    numbers?_padded (by decide) month, numbers?_mark, numbers?_padded (by decide) dayOf,
    numbers?_mark, numbers?_padded (by decide) (show _ < 100 by omega), numbers?_mark,
    numbers?_padded (by decide) (show _ < 100 by omega), numbers?_mark,
    numbers?_padded (by decide) (show _ < 100 by omega), numbers?_mark,
    numbers?_padded (by decide) (show _ < 1000 by omega), numbers?_mark]
  rfl

/-- Hours, minutes, seconds and thousandths make the time of the day. -/
theorem clock_millis (micros : Nat) :
    ((micros / 1000000 / 3600 * 60 + micros / 1000000 / 60 % 60) * 60 + micros / 1000000 % 60) *
      1000 + micros / 1000 % 1000 = micros / 1000 := by
  omega

theorem div_millis (t : Int) :
    t / 1000 = ((date t).dayNumber - epochDay) * 86400000 + (timeOfDay t / 1000 : Nat) := by
  have made := dayNumber_date t
  unfold microsPerDay at made
  omega

/-- The numbers of a UTC time name a millisecond, counted from the beginning of 1970. -/
inductive Names : List Nat → Int → Prop
  | mk {year month day hour minute second milli : Nat} {days m : Int}
      (date : Date.CountedAs ⟨year, month, day⟩ days) (inDay : hour < 24) (inHour : minute < 60)
      (inMinute : second < 60) (inSecond : milli < 1000)
      (whole : m = (((days * 24 + hour) * 60 + minute) * 60 + second) * 1000 + milli) :
    Names [year, month, day, hour, minute, second, milli] m

theorem Names.unique {ns : List Nat} {m m' : Int} (named : Names ns m) (named' : Names ns m') :
    m = m' := by
  cases named with
  | mk date _ _ _ _ whole =>
    cases named' with
    | mk date' _ _ _ _ whole' =>
      have number := date.spec.2
      rw [date'.spec.2] at number
      omega

/-- The numbers of an instant name its millisecond. -/
theorem names_numbers {t : Int} (plain : IsPlain t) : Names (numbers t) (t / 1000) := by
  have day := plain.date
  have inDay := timeOfDay_lt t
  have number : (date t).dayNumber = epochDay + ((date t).dayNumber - epochDay) := by omega
  have counted : Date.CountedAs ⟨(date t).year.toNat, (date t).month, (date t).day⟩
      ((date t).dayNumber - epochDay) := by
    rw [Int.toNat_of_nonneg day.firstYear]
    exact Date.countedAs_iff.mpr ⟨day.toExists, number⟩
  refine .mk counted (by omega) (by omega) (by omega) (Nat.mod_lt _ (by decide)) ?_
  have clock := clock_millis (timeOfDay t)
  rw [div_millis]
  generalize timeOfDay t / 1000000 / 3600 = hour at clock ⊢
  generalize timeOfDay t / 1000000 / 60 % 60 = minute at clock ⊢
  generalize timeOfDay t / 1000000 % 60 = second at clock ⊢
  generalize timeOfDay t / 1000 % 1000 = milli at clock ⊢
  omega

/-- A text that is read as a UTC time: it has the form, and its numbers name the millisecond. -/
def ReadAs (s : String) (m : Int) : Prop := ∃ ns, numbers? utcForm s.toList = some ns ∧ Names ns m

/-- The text of an instant is read as its millisecond and as no other one. -/
theorem readAs_milliText {t m : Int} (plain : IsPlain t) :
    ReadAs (milliText t) m ↔ m = t / 1000 := by
  constructor
  · rintro ⟨ns, read, named⟩
    obtain rfl := Option.some.inj ((numbers?_milliText plain).symm.trans read)
    exact named.unique (names_numbers plain)
  · rintro rfl
    exact ⟨_, numbers?_milliText plain, names_numbers plain⟩

/-- Numbers of instants are in the order of time, as far as they tell them apart. -/
theorem numbers_lt {t u : Int} (plainT : IsPlain t) (plainU : IsPlain u)
    (earlier : t / 1000 < u / 1000) : numbers t < numbers u := by
  have dayT := plainT.date
  have dayU := plainU.date
  have firstT := dayT.firstYear
  have firstU := dayU.firstYear
  rw [div_millis, div_millis] at earlier
  have inDayT := timeOfDay_lt t
  have inDayU := timeOfDay_lt u
  unfold numbers
  simp only [List.cons_lt_cons_iff]
  rcases Date.precedes_trichotomy (date t) (date u) with before | same | after
  · have dates := before
    unfold Date.Precedes at dates
    omega
  · rw [same] at earlier ⊢
    omega
  · have back := Date.dayNumber_lt_of_precedes dayU.toExists dayT.toExists after
    omega

/-- A text tells no more than the whole millisecond. -/
theorem milliText_congr {t u : Int} (same : t / 1000 = u / 1000) : milliText t = milliText u := by
  have days : t / 86400000000 = u / 86400000000 := by omega
  have millis : timeOfDay t / 1000 = timeOfDay u / 1000 := by
    unfold timeOfDay microsPerDay
    omega
  have seconds : timeOfDay t / 1000000 = timeOfDay u / 1000000 := by omega
  have dates : date t = date u := congrArg (fun n : Int => Date.ofDayNumber (epochDay + n)) days
  rw [milliText, milliText, secondText, secondText, dates, seconds, millis]

/-- The texts of instants are in the order of time, to the millisecond. -/
theorem milliText_lt_iff {t u : Int} (plainT : IsPlain t) (plainU : IsPlain u) :
    milliText t < milliText u ↔ t / 1000 < u / 1000 := by
  have ordered {t u : Int} (plainT : IsPlain t) (plainU : IsPlain u)
      (earlier : t / 1000 < u / 1000) : milliText t < milliText u := by
    rw [String.lt_iff, lt_iff_numbers_lt (numbers?_milliText plainT) (numbers?_milliText plainU)]
    exact numbers_lt plainT plainU earlier
  refine ⟨fun less => ?_, ordered plainT plainU⟩
  rcases Int.lt_trichotomy (t / 1000) (u / 1000) with earlier | same | later
  · exact earlier
  · rw [milliText_congr same] at less
    exact absurd less (String.lt_irrefl _)
  · exact absurd less (String.lt_asymm (ordered plainU plainT later))

theorem milliText_eq_iff {t u : Int} (plainT : IsPlain t) (plainU : IsPlain u) :
    milliText t = milliText u ↔ t / 1000 = u / 1000 := by
  refine ⟨fun same => ?_, milliText_congr⟩
  have read := (readAs_milliText plainT).mpr rfl
  rw [same] at read
  exact (readAs_milliText plainU).mp read

end Instant

end SoapGateway.Calendar
