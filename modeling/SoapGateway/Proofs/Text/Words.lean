import SoapGateway.Text.Blank
import SoapGateway.Proofs.Text.Blank

/-!
# Words of a text

The words of a text are its longest runs without white space. A text can be cut into words and the
white space around them in one way only.
-/
namespace SoapGateway.Text

/-- A text cut at white space: words with white space before, between and after them. Between two
words there is some. -/
inductive CutAs : List Char → List (List Char) → Prop
  | blank {s : List Char} : (∀ c ∈ s, isBlank c = true) → CutAs s []
  | word {before word rest : List Char} {words : List (List Char)} :
    (∀ c ∈ before, isBlank c = true) → word ≠ [] → (∀ c ∈ word, isBlank c = false) →
      (∀ c ∈ rest.head?, isBlank c = true) → CutAs rest words →
      CutAs (before ++ (word ++ rest)) (word :: words)

theorem wordsFrom_blank {before : List Char} (blank : ∀ c ∈ before, isBlank c = true)
    (s : List Char) : wordsFrom [] (before ++ s) = wordsFrom [] s := by
  induction before with
  | nil => rfl
  | cons c before ih =>
    rw [List.cons_append, wordsFrom, if_pos (blank c List.mem_cons_self), if_pos List.isEmpty_nil]
    exact ih fun d member => blank d (List.mem_cons_of_mem c member)

theorem wordsFrom_solid {word : List Char} (solid : ∀ c ∈ word, isBlank c = false)
    (current s : List Char) :
    wordsFrom current (word ++ s) = wordsFrom (word.reverse ++ current) s := by
  induction word generalizing current with
  | nil => rfl
  | cons c word ih =>
    rw [List.cons_append, wordsFrom, solid c List.mem_cons_self, if_neg Bool.false_ne_true,
      ih (fun d member => solid d (List.mem_cons_of_mem c member)), List.reverse_cons,
      List.append_assoc]
    rfl

/-- An open word ends where white space begins, or with the text. -/
theorem wordsFrom_end {current rest : List Char} (open_ : current ≠ [])
    (ends : ∀ c ∈ rest.head?, isBlank c = true) :
    wordsFrom current rest = current.reverse :: wordsFrom [] rest := by
  have filled : ¬ current.isEmpty = true := mt List.isEmpty_iff.mp open_
  cases rest with
  | nil =>
    rw [wordsFrom, if_neg filled]
    rfl
  | cons c rest =>
    rw [wordsFrom, wordsFrom, if_pos (ends c rfl), if_neg filled, if_pos (ends c rfl),
      if_pos List.isEmpty_nil]

theorem wordsFrom_of_cutAs {s : List Char} {words : List (List Char)} (cut : CutAs s words) :
    wordsFrom [] s = words := by
  induction cut with
  | blank blank =>
    have whole := wordsFrom_blank blank []
    rwa [List.append_nil] at whole
  | word blank nonempty solid ends _ ih =>
    rw [wordsFrom_blank blank, wordsFrom_solid solid, List.append_nil,
      wordsFrom_end (mt List.reverse_eq_nil_iff.mp nonempty) ends, List.reverse_reverse, ih]

theorem CutAs.after_blank {c : Char} {s : List Char} {words : List (List Char)}
    (blank : isBlank c = true) (cut : CutAs s words) : CutAs (c :: s) words := by
  cases cut with
  | blank all => exact .blank (List.forall_mem_cons.mpr ⟨blank, all⟩)
  | word before nonempty solid ends rest =>
    exact .word (List.forall_mem_cons.mpr ⟨blank, before⟩) nonempty solid ends rest

/-- The open word is a word when white space or the end of the text follows. -/
theorem CutAs.of_open {current rest : List Char} {words : List (List Char)}
    (filled : ¬ current.isEmpty = true) (solid : ∀ c ∈ current, isBlank c = false)
    (ends : ∀ c ∈ rest.head?, isBlank c = true) (cut : CutAs rest words) :
    CutAs (current.reverse ++ rest) (current.reverse :: words) := by
  have nothing : ∀ c ∈ ([] : List Char), isBlank c = true := nofun
  have nonempty := mt List.reverse_eq_nil_iff.mp (mt List.isEmpty_iff.mpr filled)
  exact .word nothing nonempty (fun c member => solid c (List.mem_reverse.mp member)) ends cut

theorem cutAs_wordsFrom {current : List Char} (solid : ∀ c ∈ current, isBlank c = false)
    (s : List Char) : CutAs (current.reverse ++ s) (wordsFrom current s) := by
  induction s generalizing current with
  | nil =>
    rw [wordsFrom]
    split
    · next empty =>
      rw [List.isEmpty_iff.mp empty]
      exact .blank nofun
    · next filled => exact .of_open filled solid nofun (.blank nofun)
  | cons c s ih =>
    rw [wordsFrom]
    split
    · next blank =>
      have rest : CutAs (c :: s) (wordsFrom [] s) := .after_blank blank (@ih [] nofun)
      split
      · next empty =>
        rw [List.isEmpty_iff.mp empty]
        exact rest
      · next filled => exact .of_open filled solid (by simpa using blank) rest
    · next letter =>
      have longer : ∀ d ∈ c :: current, isBlank d = false :=
        List.forall_mem_cons.mpr ⟨Bool.not_eq_true _ ▸ letter, solid⟩
      have cut := ih longer
      rwa [List.reverse_cons, List.append_assoc] at cut

theorem cutAs_iff {s : List Char} {words : List (List Char)} :
    CutAs s words ↔ words = wordsFrom [] s := by
  refine ⟨fun cut => (wordsFrom_of_cutAs cut).symm, ?_⟩
  rintro rfl
  exact @cutAs_wordsFrom [] nofun s

/-- A text is cut into its words and into nothing else. -/
theorem cutAs_words (s : String) (words : List String) :
    CutAs s.toList (words.map String.toList) ↔ words = Text.words s := by
  have back (words : List (List Char)) : (words.map String.ofList).map String.toList = words := by
    rw [List.map_map]
    exact (List.map_congr_left fun _ _ => String.toList_ofList).trans (List.map_id words)
  rw [cutAs_iff, Text.words]
  constructor
  · intro same
    rw [← same, List.map_map]
    exact ((List.map_congr_left fun _ _ => String.ofList_toList).trans (List.map_id words)).symm
  · rintro rfl
    exact back _

end SoapGateway.Text
