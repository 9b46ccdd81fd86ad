import Mathlib.Data.Int.Init
import Mathlib.Data.Nat.Init
import SoapGateway.Calendar.Date

/-!
# The order of days

Days are compared by their numbers, which count leap days and centuries. On days that exist this is
the order of the year, then the month, then the day of the month.
-/
namespace SoapGateway.Calendar

/-- A year starts when the one before it is over. -/
theorem yearStart_succ (year : Int) : yearStart (year + 1) = yearStart year + daysInYear year := by
  unfold daysInYear isLeap
  dsimp only [yearStart]
  split
  · next leap =>
    simp only [decide_eq_true_eq] at leap
    omega
  · next common =>
    simp only [decide_eq_true_eq] at common
    omega

theorem yearStart_le {year year' : Int} (earlier : year < year') :
    yearStart year + daysInYear year ≤ yearStart year' := by
  induction year', earlier using Int.leInduction with
  | base => exact Int.le_of_eq (yearStart_succ year).symm
  | succ year' _ ih =>
    rw [yearStart_succ]
    omega

/-- Days of a year before the first of a month. -/
def daysBefore (year : Int) (month : Nat) : Nat :=
  ((monthLengths year).take (month - 1)).foldr (· + ·) 0

theorem sum_take_succ (lengths : List Nat) (k : Nat) :
    (lengths.take (k + 1)).foldr (· + ·) 0 =
      (lengths.take k).foldr (· + ·) 0 + (lengths[k]?).getD 0 := by
  induction lengths generalizing k with
  | nil => simp
  | cons length lengths ih =>
    cases k with
    | zero => simp
    | succ k =>
      have rest := ih k
      simp only [List.take_succ_cons, List.foldr_cons, List.getElem?_cons_succ, rest]
      omega

theorem daysBefore_succ {year : Int} {month : Nat} (first : 1 ≤ month) :
    daysBefore year (month + 1) = daysBefore year month + daysInMonth year month := by
  obtain ⟨k, rfl⟩ : ∃ k, month = k + 1 := ⟨month - 1, by omega⟩
  exact sum_take_succ (monthLengths year) k

theorem daysBefore_le (year : Int) {month month' : Nat} (first : 1 ≤ month)
    (earlier : month < month') :
    daysBefore year month + daysInMonth year month ≤ daysBefore year month' := by
  induction month', earlier using Nat.le_induction with
  | base => exact Nat.le_of_eq (daysBefore_succ first).symm
  | succ month' later ih =>
    rw [daysBefore_succ (by omega)]
    omega

/-- The months of a year make the year. -/
theorem daysBefore_end (year : Int) : daysBefore year 13 = daysInYear year := by
  unfold daysBefore daysInYear monthLengths
  split <;> rfl

namespace Date

/-- Whether there is such a day in the calendar. -/
structure Exists (d : Date) : Prop where
  firstMonth : 1 ≤ d.month
  lastMonth : d.month ≤ 12
  firstDay : 1 ≤ d.day
  lastDay : d.day ≤ daysInMonth d.year d.month

/-- Whether a date comes before another: by the year, then by the month, then by the day. -/
def Precedes (a b : Date) : Prop :=
  a.year < b.year ∨ a.year = b.year ∧
    (a.month < b.month ∨ a.month = b.month ∧ a.day < b.day)

theorem Exists.ordinal_le {d : Date} (there : d.Exists) : d.ordinal ≤ daysInYear d.year := by
  have before := daysBefore_le d.year there.firstMonth
    (show d.month < 13 from Nat.lt_succ_of_le there.lastMonth)
  have ends := daysBefore_end d.year
  have last := there.lastDay
  change daysBefore d.year d.month + d.day ≤ _
  omega

theorem dayNumber_lt_of_precedes {a b : Date} (thereA : a.Exists) (thereB : b.Exists)
    (earlier : a.Precedes b) : a.dayNumber < b.dayNumber := by
  change yearStart a.year + (daysBefore a.year a.month + a.day : Nat) - 1 <
    yearStart b.year + (daysBefore b.year b.month + b.day : Nat) - 1
  rcases earlier with year | ⟨year, month | ⟨month, day⟩⟩
  · have starts := yearStart_le year
    have within : daysBefore a.year a.month + a.day ≤ daysInYear a.year := thereA.ordinal_le
    have first := thereB.firstDay
    omega
  · have starts := daysBefore_le a.year thereA.firstMonth month
    have last := thereA.lastDay
    have first := thereB.firstDay
    rw [← year]
    omega
  · rw [year, month]
    omega

theorem precedes_trichotomy (a b : Date) : a.Precedes b ∨ a = b ∨ b.Precedes a := by
  obtain ⟨year, month, day⟩ := a
  obtain ⟨year', month', day'⟩ := b
  simp only [Precedes, Date.mk.injEq]
  omega

/-- Days that exist are ordered as their dates are. -/
theorem before_iff {a b : Date} (thereA : a.Exists) (thereB : b.Exists) :
    a.before b = true ↔ a.Precedes b := by
  rw [before, decide_eq_true_iff]
  constructor
  · intro less
    rcases precedes_trichotomy a b with earlier | rfl | later
    · exact earlier
    · exact absurd less (Int.lt_irrefl _)
    · exact absurd less (Int.lt_asymm (dayNumber_lt_of_precedes thereB thereA later))
  · exact dayNumber_lt_of_precedes thereA thereB

end Date

end SoapGateway.Calendar
