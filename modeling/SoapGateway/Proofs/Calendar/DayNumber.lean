import SoapGateway.Calendar.Timestamp
import SoapGateway.Proofs.Calendar.Order

/-!
# Days and their numbers

Every number is the number of one day that exists, and the day after it has the next number. So day
numbers count the days as they follow each other, and it does not matter from which day on.
-/
namespace SoapGateway.Calendar

/-- A day lies in the year that is found for its number. -/
theorem yearOfDay_spec (n : Int) :
    yearStart (yearOfDay n) ≤ n ∧ n < yearStart (yearOfDay n + 1) := by
  unfold yearOfDay
  dsimp only
  split
  · next early =>
    dsimp only [yearStart] at early ⊢
    omega
  · split
    · next late =>
      dsimp only [yearStart] at late ⊢
      omega
    · next notEarly notLate => exact ⟨Int.not_lt.mp notEarly, Int.not_le.mp notLate⟩

/-- A year has begun by a day if it starts on it or before. -/
theorem le_yearOfDay {year n : Int} : year ≤ yearOfDay n ↔ yearStart year ≤ n := by
  obtain ⟨starts, ends⟩ := yearOfDay_spec n
  rw [yearStart_succ] at ends
  constructor
  · intro begun
    rcases Int.lt_or_eq_of_le begun with earlier | rfl
    · have ended := yearStart_le earlier
      omega
    · exact starts
  · intro begun
    rcases Int.lt_or_le (yearOfDay n) year with later | notLater
    · have ended := yearStart_le later
      omega
    · exact notLater

namespace Date

/-- A day of consecutive months falls into one of them, after the days of the months before it. -/
theorem splitDays_spec {lengths : List Nat} {n : Nat} (within : n < lengths.foldr (· + ·) 0)
    (month : Nat) :
    ∃ k length, lengths[k]? = some length ∧ (splitDays month lengths n).1 = month + k ∧
      1 ≤ (splitDays month lengths n).2 ∧ (splitDays month lengths n).2 ≤ length ∧
      (lengths.take k).foldr (· + ·) 0 + (splitDays month lengths n).2 = n + 1 := by
  induction lengths generalizing month n with
  | nil => exact absurd within (Nat.not_lt_zero n)
  | cons length lengths ih =>
    rw [splitDays]
    split
    · next first => exact ⟨0, length, rfl, rfl, Nat.succ_pos n, first, Nat.zero_add _⟩
    · next later =>
      rw [List.foldr_cons] at within
      obtain ⟨k, last, found, at', first, fits, days⟩ :=
        ih (n := n - length) (by omega) (month + 1)
      refine ⟨k + 1, last, found, ?_, first, fits, ?_⟩
      · rw [at']
        omega
      · rw [List.take_succ_cons, List.foldr_cons]
        omega

/-- Every number is that of a day of the calendar. -/
theorem ofDayNumber_spec (n : Int) : (ofDayNumber n).Exists ∧ (ofDayNumber n).dayNumber = n := by
  obtain ⟨starts, ends⟩ := yearOfDay_spec n
  rw [yearStart_succ] at ends
  have year : (ofDayNumber n).year = yearOfDay n := rfl
  have whole : (monthLengths (yearOfDay n)).foldr (· + ·) 0 = daysInYear (yearOfDay n) :=
    daysBefore_end (yearOfDay n)
  have within : (n - yearStart (yearOfDay n)).toNat <
      (monthLengths (yearOfDay n)).foldr (· + ·) 0 := by
    rw [whole]
    omega
  obtain ⟨k, length, found, month, first, fits, days⟩ := splitDays_spec within 1
  have twelve : k < 12 := (List.getElem?_eq_some_iff.mp found).1
  have monthOf : (ofDayNumber n).month = 1 + k := month
  have before : (ofDayNumber n).month - 1 = k := by omega
  refine ⟨⟨?_, ?_, first, ?_⟩, ?_⟩
  · omega
  · omega
  · rw [daysInMonth, before, year, found]
    exact fits
  · have ordinal : (ofDayNumber n).ordinal = (n - yearStart (yearOfDay n)).toNat + 1 := by
      rw [Date.ordinal, before, year]
      exact days
    rw [dayNumber, ordinal, year]
    omega

/-- Days that exist have different numbers. -/
theorem eq_of_dayNumber {a b : Date} (thereA : a.Exists) (thereB : b.Exists)
    (same : a.dayNumber = b.dayNumber) : a = b := by
  rcases precedes_trichotomy a b with before | equal | after
  · exact absurd same (Int.ne_of_lt (dayNumber_lt_of_precedes thereA thereB before))
  · exact equal
  · exact absurd same.symm (Int.ne_of_lt (dayNumber_lt_of_precedes thereB thereA after))

theorem one_le_daysInMonth (year : Int) {month : Nat} (first : 1 ≤ month) (last : month ≤ 12) :
    1 ≤ daysInMonth year month := by
  have all : ∀ days ∈ monthLengths year, 1 ≤ days := by
    unfold monthLengths
    split <;> decide
  have there : month - 1 < (monthLengths year).length := Nat.sub_one_lt_of_le first last
  rw [daysInMonth, List.getElem?_eq_getElem there]
  exact all _ (List.getElem_mem there)

/-- The day after one that exists exists, and has the next number. -/
theorem next_spec {d : Date} (there : d.Exists) :
    d.next.Exists ∧ d.next.dayNumber = d.dayNumber + 1 := by
  obtain ⟨year, month, day⟩ := d
  obtain ⟨firstMonth, lastMonth, firstDay, lastDay⟩ := there
  dsimp only at firstMonth lastMonth firstDay lastDay
  have step := @daysBefore_succ year month firstMonth
  rw [next]
  dsimp only
  split
  · next within =>
    refine ⟨⟨firstMonth, lastMonth, Nat.le_succ_of_le firstDay, within⟩, ?_⟩
    change yearStart year + (daysBefore year month + (day + 1) : Nat) - 1 =
      yearStart year + (daysBefore year month + day : Nat) - 1 + 1
    omega
  · split
    · next last later =>
      refine ⟨⟨Nat.succ_pos month, later, Nat.le_refl 1,
        one_le_daysInMonth year (Nat.succ_pos month) later⟩, ?_⟩
      change yearStart year + (daysBefore year (month + 1) + 1 : Nat) - 1 =
        yearStart year + (daysBefore year month + day : Nat) - 1 + 1
      omega
    · next last ended =>
      obtain rfl : month = 12 := by omega
      have december : 1 ≤ 12 := by decide
      refine ⟨⟨Nat.le_refl 1, december, Nat.le_refl 1,
        one_le_daysInMonth (year + 1) (Nat.le_refl 1) december⟩, ?_⟩
      have whole : daysBefore year (12 + 1) = daysInYear year := daysBefore_end year
      change yearStart (year + 1) + (0 + 1 : Nat) - 1 =
        yearStart year + (daysBefore year 12 + day : Nat) - 1 + 1
      rw [yearStart_succ]
      omega

/-- A day, counted from 1 January 1970 as the days follow each other, backwards before it. -/
inductive CountedAs : Date → Int → Prop
  | epoch : CountedAs ⟨1970, 1, 1⟩ 0
  | after {d : Date} {n : Int} : CountedAs d n → CountedAs d.next (n + 1)
  | before {d : Date} {n : Int} : d.Exists → CountedAs d.next n → CountedAs d (n - 1)

theorem CountedAs.spec {d : Date} {n : Int} (counted : CountedAs d n) :
    d.Exists ∧ d.dayNumber = epochDay + n := by
  induction counted with
  | epoch => exact ⟨⟨by decide, by decide, by decide, by decide⟩, by decide⟩
  | after _ ih =>
    obtain ⟨there, number⟩ := next_spec ih.1
    exact ⟨there, by omega⟩
  | before there _ ih =>
    obtain ⟨_, number⟩ := next_spec there
    exact ⟨there, by omega⟩

/-- Numbers of days count from 1 January 1970 on in both directions. -/
theorem countedAs_iff {d : Date} {n : Int} :
    CountedAs d n ↔ d.Exists ∧ d.dayNumber = epochDay + n := by
  refine ⟨CountedAs.spec, ?_⟩
  have first : CountedAs ⟨1970, 1, 1⟩ 0 := .epoch
  induction n using Int.induction_on generalizing d with
  | zero =>
    rintro ⟨there, number⟩
    have same : d = ⟨1970, 1, 1⟩ := eq_of_dayNumber there first.spec.1 (by
      rw [number, first.spec.2])
    rw [same]
    exact first
  | succ n ih =>
    rintro ⟨there, number⟩
    obtain ⟨thereE, numberE⟩ := ofDayNumber_spec (epochDay + n)
    obtain ⟨thereNext, numberNext⟩ := next_spec thereE
    have same : d = (ofDayNumber (epochDay + n)).next := eq_of_dayNumber there thereNext (by omega)
    rw [same]
    exact .after (ih ⟨thereE, numberE⟩)
  | pred n ih =>
    rintro ⟨there, number⟩
    obtain ⟨thereNext, numberNext⟩ := next_spec there
    exact .before there (ih ⟨thereNext, by omega⟩)

end Date

end SoapGateway.Calendar
