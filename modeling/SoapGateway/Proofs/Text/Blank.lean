import SoapGateway.Text.Blank
import Mathlib.Data.List.DropRight
import Mathlib.Data.List.TakeWhile

/-!
# Runs and trimming

A run of characters with a property ends where a character without it follows. A trimmed text is
what is left between two runs of characters that are dropped, and characters that are dropped make
no difference to it.
-/
namespace SoapGateway.Text

/-- A run of characters with a property ends where a character without it follows. -/
theorem takeWhile_run {p : Char → Bool} {u v : List Char} (run : ∀ c ∈ u, p c = true)
    (stop : ∀ c ∈ v.head?, p c = false) : (u ++ v).takeWhile p = u := by
  rw [List.takeWhile_append_of_pos run]
  cases v with
  | nil => simp
  | cons c v => rw [List.takeWhile_cons_of_neg (by simp [stop c rfl]), List.append_nil]

theorem dropWhile_run {p : Char → Bool} {u v : List Char} (run : ∀ c ∈ u, p c = true)
    (stop : ∀ c ∈ v.head?, p c = false) : (u ++ v).dropWhile p = v := by
  rw [List.dropWhile_append_of_pos run]
  cases v with
  | nil => rfl
  | cons c v => rw [List.dropWhile_cons_of_neg (by simp [stop c rfl])]

theorem dropWhile_stops (p : Char → Bool) (s : List Char) :
    ∀ c ∈ (s.dropWhile p).head?, p c = false := by
  intro c first
  have stops := List.head?_dropWhile_not p s
  rw [Option.mem_def.mp first] at stops
  simpa using stops

/-- A text cut in three: characters with a property, a middle part that neither begins nor ends with
one of them, and such characters again. If nothing is in the middle, everything is before it. -/
structure Split (p : Char → Bool) (s start middle rest : List Char) : Prop where
  whole : s = start ++ (middle ++ rest)
  before : ∀ c ∈ start, p c = true
  after : ∀ c ∈ rest, p c = true
  first : ∀ c ∈ middle.head?, p c = false
  last : ∀ c ∈ middle.getLast?, p c = false
  empty : middle = [] → rest = []

/-- A text is its trimmed part between what was dropped. -/
theorem split_trimBy (p : Char → Bool) (s : List Char) :
    Split p s (s.takeWhile p) (trimBy p s) ((s.dropWhile p).rtakeWhile p) where
  whole := by
    change s = s.takeWhile p ++ ((s.dropWhile p).rdropWhile p ++ (s.dropWhile p).rtakeWhile p)
    rw [List.rdropWhile_append_rtakeWhile, List.takeWhile_append_dropWhile]
  before _ member := List.mem_takeWhile_imp member
  after _ member := List.mem_rtakeWhile_imp member
  first := by
    intro c first
    obtain ⟨dropped, rest⟩ : trimBy p s <+: s.dropWhile p := List.rdropWhile_prefix p _
    refine dropWhile_stops p s c ?_
    rw [← rest, List.head?_append, Option.mem_def.mp first]
    rfl
  last := by
    intro c last
    rw [trimBy, List.getLast?_reverse] at last
    exact dropWhile_stops p _ c last
  empty := by
    intro nothing
    have all := List.rdropWhile_eq_nil_iff.mp nothing
    cases kept : s.dropWhile p with
    | nil => rfl
    | cons c rest =>
      have stops := dropWhile_stops p s c (by rw [kept]; rfl)
      rw [all c (by rw [kept]; exact List.mem_cons_self)] at stops
      cases stops

theorem trimBy_infix (p : Char → Bool) (s : List Char) : trimBy p s <:+: s :=
  ⟨s.takeWhile p, (s.dropWhile p).rtakeWhile p, by
    rw [List.append_assoc]
    exact (split_trimBy p s).whole.symm⟩

/-- There is one way only to cut a text so. -/
theorem Split.unique {p : Char → Bool} {s start middle rest : List Char}
    (split : Split p s start middle rest) :
    start = s.takeWhile p ∧ middle = trimBy p s ∧ rest = (s.dropWhile p).rtakeWhile p := by
  have stop : ∀ c ∈ (middle ++ rest).head?, p c = false := by
    cases cut : middle with
    | nil => simp [split.empty cut]
    | cons c more => simpa [cut] using split.first
  have reversed : ∀ c ∈ rest.reverse, p c = true := fun c member =>
    split.after c (List.mem_reverse.mp member)
  have last : ∀ c ∈ middle.reverse.head?, p c = false := by
    rw [List.head?_reverse]
    exact split.last
  have left : s.takeWhile p = start := by rw [split.whole, takeWhile_run split.before stop]
  have dropped : s.dropWhile p = middle ++ rest := by
    rw [split.whole, dropWhile_run split.before stop]
  refine ⟨left.symm, ?_, ?_⟩
  · rw [trimBy, dropped, List.reverse_append, dropWhile_run reversed last, List.reverse_reverse]
  · rw [dropped, List.rtakeWhile, List.reverse_append, takeWhile_run reversed last,
      List.reverse_reverse]

theorem trimBy_left {p : Char → Bool} {before : List Char} (drop : ∀ c ∈ before, p c = true)
    (s : List Char) : trimBy p (before ++ s) = trimBy p s := by
  rw [trimBy, List.dropWhile_append_of_pos drop, trimBy]

theorem trimBy_right {p : Char → Bool} {after : List Char} (drop : ∀ c ∈ after, p c = true)
    (s : List Char) : trimBy p (s ++ after) = trimBy p s := by
  have reversed : ∀ c ∈ after.reverse, p c = true := fun c member =>
    drop c (List.mem_reverse.mp member)
  rw [trimBy, trimBy, List.dropWhile_append]
  split
  · next empty =>
    rw [List.isEmpty_iff.mp empty, List.dropWhile_eq_nil_iff.mpr drop]
  · rw [List.reverse_append, List.dropWhile_append_of_pos reversed]

/-- A text keeps a character that is not dropped. -/
theorem trimBy_ne_nil {p : Char → Bool} {s : List Char} {c : Char} (member : c ∈ s)
    (keep : p c = false) : trimBy p s ≠ [] := by
  intro empty
  have split := split_trimBy p s
  rw [split.whole, empty, List.nil_append, List.mem_append] at member
  have drop : p c = true := member.elim (split.before c) (split.after c)
  rw [keep] at drop
  cases drop

theorem trimBy_kept {p : Char → Bool} {s : List Char} (keep : ∀ c ∈ s, p c = false) :
    trimBy p s = s := by
  have split : Split p s [] s [] :=
    ⟨by simp, by simp, by simp, fun c first => keep c (List.mem_of_head? first),
      fun c last => keep c (List.mem_of_getLast? last), fun _ => rfl⟩
  exact split.unique.2.1.symm

/-- What is trimmed has nothing left to drop. -/
theorem trimBy_trimBy (p : Char → Bool) (s : List Char) : trimBy p (trimBy p s) = trimBy p s := by
  have split := split_trimBy p s
  have again : Split p (trimBy p s) [] (trimBy p s) [] :=
    ⟨by simp, by simp, by simp, split.first, split.last, fun _ => rfl⟩
  exact again.unique.2.1.symm

/-- A text can be cut in one way only between padding, and what is cleaned is the middle. -/
theorem clean_split (s : String) :
    ∃ start rest, ∀ start' middle rest', Split isPadding s.toList start' middle rest' ↔
      start' = start ∧ middle = (clean s).toList ∧ rest' = rest := by
  refine ⟨s.toList.takeWhile isPadding, (s.toList.dropWhile isPadding).rtakeWhile isPadding,
    fun start' middle rest' => ⟨fun split => ?_, ?_⟩⟩
  · rw [clean, String.toList_ofList]
    exact split.unique
  · rintro ⟨rfl, rfl, rfl⟩
    rw [clean, String.toList_ofList]
    exact split_trimBy isPadding s.toList

theorem clean_clean (s : String) : clean (clean s) = clean s := by
  rw [clean, clean, String.toList_ofList, trimBy_trimBy]

/-- Cleaned texts differ only by what lies inside the padding. -/
theorem clean_eq {u v : List Char} (same : trimBy isPadding u = trimBy isPadding v) :
    clean (String.ofList u) = clean (String.ofList v) := by
  rw [clean, clean, String.toList_ofList, String.toList_ofList, same]

end SoapGateway.Text
