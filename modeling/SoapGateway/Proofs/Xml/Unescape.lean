import SoapGateway.Proofs.Text.Blank
import SoapGateway.Proofs.Xml.Events
import SoapGateway.Xml.Escape

/-!
# Texts with references

What it means that a text with references reads as another text, apart from the positions that the
reader counts. White space at the ends of such a text is not part of a reference, so it can be
stripped before or after reading.
-/
namespace SoapGateway.Xml

open Text (trimBy isPadding takeWhile_run dropWhile_run)

/-- A text and what it reads as: every reference stands for a character, and every other character
for itself. -/
inductive Reads : List Char → List Char → Prop
  | nil : Reads [] []
  | plain {c : Char} {s v : List Char} (plain : c ≠ '&') (rest : Reads s v) :
    Reads (c :: s) (c :: v)
  | reference {name s v : List Char} {c : Char} (inside : ∀ d ∈ name, d ≠ '&' ∧ d ≠ ';')
    (read : ∀ offset, reference offset name = .ok c) (rest : Reads s v) :
    Reads ('&' :: (name ++ ';' :: s)) (c :: v)

/-- Only faults know where a reference stands. -/
theorem reference_ok {offset : Nat} {name : List Char} {c : Char}
    (success : reference offset name = .ok c) (other : Nat) : reference other name = .ok c := by
  unfold reference at success ⊢
  split at success
  · exact success
  · next plain =>
    split at success
    · next entity => simpa [entity] using success
    · cases success

theorem reads_of_unescapeFrom {offset n : Nat} {acc s v : List Char} (bound : s.length ≤ n)
    (success : unescapeFrom offset acc n s = .ok v) : ∃ u, v = acc.reverse ++ u ∧ Reads s u := by
  induction n generalizing offset acc s with
  | zero =>
    rw [Nat.le_zero, List.length_eq_zero_iff] at bound
    subst bound
    cases success
    exact ⟨[], (List.append_nil _).symm, .nil⟩
  | succ n ih =>
    cases s with
    | nil =>
      cases success
      exact ⟨[], (List.append_nil _).symm, .nil⟩
    | cons c rest =>
      rw [List.length_cons] at bound
      rw [unescapeFrom] at success
      split at success
      · next plain =>
        obtain ⟨u, rfl, reads⟩ := ih (Nat.le_of_succ_le_succ bound) success
        exact ⟨c :: u, by simp, .plain plain reads⟩
      · next special =>
        rw [not_not] at special
        subst special
        dsimp only at success
        split at success
        · next after cut =>
          split at success
          · cases success
          · next d read =>
            have whole := List.takeWhile_append_dropWhile (l := rest)
              (p := fun d => d != '&' && d != ';')
            rw [cut] at whole
            have shorter : after.length ≤ n := by
              have := congrArg List.length whole
              rw [List.length_append, List.length_cons] at this
              omega
            obtain ⟨u, rfl, reads⟩ := ih shorter success
            refine ⟨d :: u, by simp, ?_⟩
            rw [← whole]
            refine .reference (fun e member => ?_) (fun _ => reference_ok read _) reads
            simpa using List.mem_takeWhile_imp member
        · cases success

theorem Reads.unescapeFrom {s u : List Char} (reads : Reads s u) (offset : Nat) (acc : List Char)
    {n : Nat} (bound : s.length ≤ n) :
    unescapeFrom offset acc n s = .ok (acc.reverse ++ u) := by
  induction reads generalizing offset acc n with
  | nil => cases n <;> simp [Xml.unescapeFrom]
  | @plain c s u plain rest ih =>
    rw [List.length_cons] at bound
    obtain ⟨n, rfl⟩ := Nat.exists_eq_add_of_le' (Nat.one_le_of_lt bound)
    rw [Xml.unescapeFrom, if_pos plain, ih _ _ (Nat.le_of_succ_le_succ bound)]
    simp
  | @reference name s u c inside read rest ih =>
    rw [List.length_cons, List.length_append, List.length_cons] at bound
    obtain ⟨n, rfl⟩ := Nat.exists_eq_add_of_le' (Nat.one_le_of_lt bound)
    have run : ∀ d ∈ name, (d != '&' && d != ';') = true := by
      intro d member
      simpa using inside d member
    have stop : ∀ d ∈ (';' :: s).head?, (d != '&' && d != ';') = false := by
      rintro d ⟨⟩
      decide
    rw [Xml.unescapeFrom, if_neg (by simp)]
    dsimp only
    rw [dropWhile_run run stop, takeWhile_run run stop, read]
    have rest := ih (offset + Utf8.octets name + 2) (c :: acc) (n := n) (by omega)
    rw [List.reverse_cons, List.append_assoc] at rest
    exact rest

theorem unescape_iff {s v : List Char} : unescape s = .ok v ↔ Reads s v := by
  constructor
  · intro success
    obtain ⟨u, rfl, reads⟩ := reads_of_unescapeFrom (Nat.le_refl _) success
    exact reads
  · intro reads
    exact reads.unescapeFrom 0 [] (Nat.le_refl _)

/-- Characters in front of a text stay in front of what it reads as. -/
theorem Reads.of_left {a s v : List Char} (plain : ∀ c ∈ a, c ≠ '&') (reads : Reads (a ++ s) v) :
    ∃ u, v = a ++ u ∧ Reads s u := by
  induction a generalizing v with
  | nil => exact ⟨v, rfl, reads⟩
  | cons c a ih =>
    generalize whole : c :: a ++ s = t at reads
    cases reads with
    | nil => cases whole
    | plain _ rest =>
      cases whole
      obtain ⟨u, rfl, after⟩ := ih (fun d member => plain d (List.mem_cons_of_mem _ member)) rest
      exact ⟨u, rfl, after⟩
    | reference _ _ _ =>
      rw [List.cons_append, List.cons.injEq] at whole
      exact absurd whole.1 (plain c List.mem_cons_self)

/-- Characters behind a text that could not end a reference stay behind what it reads as. -/
theorem Reads.of_right {b t v : List Char} (plain : ∀ c ∈ b, c ≠ '&' ∧ c ≠ ';')
    (reads : Reads t v) {s : List Char} (split : t = s ++ b) : ∃ u, v = u ++ b ∧ Reads s u := by
  induction reads generalizing s with
  | nil =>
    obtain ⟨rfl, rfl⟩ := List.append_eq_nil_iff.mp split.symm
    exact ⟨[], rfl, .nil⟩
  | @plain c t v special rest ih =>
    cases s with
    | nil =>
      rw [List.nil_append] at split
      subst split
      have whole : v = t := by
        obtain ⟨u, rfl, reads⟩ := Reads.of_left (s := []) (fun c member =>
          (plain c (List.mem_cons_of_mem _ member)).1) (by rwa [List.append_nil])
        cases reads
        exact List.append_nil _
      exact ⟨[], by rw [whole]; rfl, .nil⟩
    | cons d s =>
      rw [List.cons_append, List.cons.injEq] at split
      obtain ⟨rfl, split⟩ := split
      obtain ⟨u, rfl, reads⟩ := ih split
      exact ⟨c :: u, rfl, .plain special reads⟩
  | @reference name t v c inside read rest ih =>
    cases s with
    | nil =>
      rw [List.nil_append] at split
      exact absurd rfl (plain '&' (split ▸ List.mem_cons_self)).1
    | cons d s =>
      rw [List.cons_append, List.cons.injEq] at split
      obtain ⟨rfl, split⟩ := split
      rcases List.append_eq_append_iff.mp split with ⟨w, rfl, tail⟩ | ⟨w, rfl, tail⟩
      · cases w with
        | nil =>
          rw [List.nil_append] at tail
          exact absurd rfl (plain ';' (tail ▸ List.mem_cons_self)).2
        | cons e w =>
          rw [List.cons_append, List.cons.injEq] at tail
          obtain ⟨rfl, tail⟩ := tail
          obtain ⟨u, rfl, reads⟩ := ih tail
          exact ⟨c :: u, rfl, .reference inside read reads⟩
      · exact absurd rfl (plain ';' (by rw [tail]; simp)).2

theorem Reads.append {s t u v : List Char} (first : Reads s u) (second : Reads t v) :
    Reads (s ++ t) (u ++ v) := by
  induction first with
  | nil => exact second
  | plain plain _ ih => exact .plain plain ih
  | @reference name s u c inside read _ ih =>
    rw [List.cons_append, List.append_assoc, List.cons_append]
    exact .reference inside read ih

/-- White space reads as itself. -/
theorem reads_space {s : List Char} (blank : ∀ c ∈ s, isSpace c = true) : Reads s s := by
  induction s with
  | nil => exact .nil
  | cons c s ih =>
    have plain : c ≠ '&' := by
      rintro rfl
      exact absurd (blank '&' List.mem_cons_self) (by decide)
    exact .plain plain (ih fun d member => blank d (List.mem_cons_of_mem _ member))

/-- Stripping white space before references are replaced makes no difference to a cleaned text. -/
theorem unescape_trim {s v : List Char} (success : unescape s = .ok v) :
    ∃ u, unescape (trimBy isSpace s) = .ok u ∧ trimBy isPadding u = trimBy isPadding v := by
  have plain : ∀ c, isSpace c = true → c ≠ '&' ∧ c ≠ ';' ∧ isPadding c = true := by
    intro c space
    rcases isSpace_cases space with rfl | rfl | rfl | rfl <;> decide
  have split := Text.split_trimBy isSpace s
  rw [split.whole] at success
  obtain ⟨w, rfl, behind⟩ := (unescape_iff.mp success).of_left fun c member =>
    (plain c (split.before c member)).1
  obtain ⟨u, rfl, inside⟩ := behind.of_right (fun c member =>
    ⟨(plain c (split.after c member)).1, (plain c (split.after c member)).2.1⟩) rfl
  refine ⟨u, unescape_iff.mpr inside, ?_⟩
  rw [Text.trimBy_left fun c member => (plain c (split.before c member)).2.2,
    Text.trimBy_right fun c member => (plain c (split.after c member)).2.2]

end SoapGateway.Xml
