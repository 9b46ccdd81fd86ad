import SoapGateway.Text.Pieces

/-!
# Searching texts

A marker occurs in a text where it is an infix. A character that the marker does not have cuts the
search in two, and characters of others that are replaced by texts of such characters hide nothing
and make no new occurrence.
-/
namespace SoapGateway.Text

theorem eq_append_of_dropStart? {start s rest : List Char}
    (found : dropStart? start s = some rest) : s = start ++ rest := by
  fun_induction dropStart? start s with
  | case1 s => simpa using found
  | case2 => cases found
  | case3 m ms cs ih => rw [ih found, List.cons_append]
  | case4 => cases found

theorem dropStart?_append (start s : List Char) : dropStart? start (start ++ s) = some s := by
  induction start with
  | nil => rfl
  | cons c start ih => rw [List.cons_append, dropStart?, if_pos rfl, ih]

theorem dropStart?_isSome {start s : List Char} :
    (dropStart? start s).isSome = true ↔ start <+: s := by
  constructor
  · intro found
    obtain ⟨rest, found⟩ := Option.isSome_iff_exists.mp found
    exact ⟨rest, (eq_append_of_dropStart? found).symm⟩
  · rintro ⟨rest, rfl⟩
    rw [dropStart?_append]
    rfl

theorem occursIn_iff {needle s : List Char} : occursIn needle s = true ↔ needle <:+: s := by
  induction s with
  | nil => rw [occursIn, List.isEmpty_iff, List.infix_nil]
  | cons c s ih => rw [occursIn, Bool.or_eq_true, dropStart?_isSome, ih, List.infix_cons_iff]

variable {m u v : List Char} {x : Char}

theorem prefix_of_separated (foreign : x ∉ m) (found : m <+: u ++ x :: v) : m <+: u := by
  induction u generalizing m with
  | nil =>
    cases m with
    | nil => exact List.nil_prefix
    | cons c m =>
      obtain ⟨rfl, _⟩ := List.cons_prefix_cons.mp found
      exact absurd List.mem_cons_self foreign
  | cons d u ih =>
    cases m with
    | nil => exact List.nil_prefix
    | cons c m =>
      obtain ⟨rfl, more⟩ := List.cons_prefix_cons.mp found
      have absent : x ∉ m := fun member => foreign (List.mem_cons_of_mem _ member)
      exact List.cons_prefix_cons.mpr ⟨rfl, ih absent more⟩

/-- A character that a text does not have cannot be inside one of its occurrences. -/
theorem infix_of_separated (foreign : x ∉ m) (found : m <:+: u ++ x :: v) :
    m <:+: u ∨ m <:+: v := by
  induction u with
  | nil =>
    rcases List.infix_cons_iff.mp found with start | later
    · exact .inl (prefix_of_separated (u := []) foreign start).isInfix
    · exact .inr later
  | cons d u ih =>
    rcases List.infix_cons_iff.mp found with start | later
    · exact .inl (prefix_of_separated (u := d :: u) foreign start).isInfix
    · rcases ih later with inside | after
      · exact .inl (List.infix_cons_iff.mpr (.inr inside))
      · exact .inr after

/-- A replacement that keeps a character, or writes others that no text of letters has. -/
def KeepsOrHides (letter : Char → Bool) (f : Char → List Char) : Prop :=
  ∀ c, f c = [c] ∨ f c ≠ [] ∧ (f c).any letter = false

variable {letter : Char → Bool} {f : Char → List Char} {s : List Char}

theorem prefix_of_flatMap (keeps : KeepsOrHides letter f) (letters : ∀ x ∈ m, letter x = true)
    (found : m <+: s.flatMap f) : m <+: s := by
  induction s generalizing m with
  | nil => exact found
  | cons c s ih =>
    cases m with
    | nil => exact List.nil_prefix
    | cons d m =>
      rw [List.flatMap_cons] at found
      rcases keeps c with kept | ⟨written, hidden⟩
      · rw [kept, List.singleton_append] at found
        obtain ⟨rfl, more⟩ := List.cons_prefix_cons.mp found
        exact List.cons_prefix_cons.mpr
          ⟨rfl, ih (fun x member => letters x (List.mem_cons_of_mem _ member)) more⟩
      · obtain ⟨x, rest, first⟩ := List.exists_cons_of_ne_nil written
        rw [first, List.cons_append] at found
        obtain ⟨rfl, _⟩ := List.cons_prefix_cons.mp found
        have foreign := List.any_eq_false.mp hidden d (by rw [first]; exact List.mem_cons_self)
        exact absurd (letters d List.mem_cons_self) foreign

theorem infix_of_hidden (letters : ∀ x ∈ m, letter x = true) (hidden : u.any letter = false)
    (found : m <:+: u ++ v) : m <:+: v := by
  induction u with
  | nil => exact found
  | cons x u ih =>
    rw [List.any_cons, Bool.or_eq_false_iff] at hidden
    have foreign : x ∉ m := by
      intro member
      rw [letters x member] at hidden
      cases hidden.1
    rcases infix_of_separated (u := []) foreign found with nothing | later
    · rw [List.infix_nil.mp nothing]
      exact List.nil_infix
    · exact ih hidden.2 later

/-- A replacement that hides characters behind others makes no occurrence of a text of letters. -/
theorem infix_of_flatMap (keeps : KeepsOrHides letter f) (letters : ∀ x ∈ m, letter x = true)
    (found : m <:+: s.flatMap f) : m <:+: s := by
  induction s with
  | nil => exact found
  | cons c s ih =>
    rw [List.flatMap_cons] at found
    rcases keeps c with kept | ⟨_, hidden⟩
    · rw [kept, List.singleton_append] at found
      rcases List.infix_cons_iff.mp found with start | later
      · have whole : m <+: (c :: s).flatMap f := by
          rw [List.flatMap_cons, kept]
          exact start
        exact (prefix_of_flatMap keeps letters whole).isInfix
      · exact List.infix_cons_iff.mpr (.inr (ih later))
    · exact List.infix_cons_iff.mpr (.inr (ih (infix_of_hidden letters hidden found)))

end SoapGateway.Text
