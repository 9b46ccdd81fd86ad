import SoapGateway.Proofs.Text.Pieces

/-!
# Scanning for a marker

A scan goes through a text from left to right. It takes the first marker that it comes to and goes
on behind it, so that what it finds never overlaps, until no marker is left. For a marker that is
not empty each text has one scan, and the pieces of the text are what that scan passes over.
-/
namespace SoapGateway.Text

/-- The marker between two parts of a text is its first: none begins further to the left, not even
one that shares characters with it. -/
def IsFirstMarker (marker before after : List Char) : Prop :=
  ∀ front back, front ++ (marker ++ back) = before ++ (marker ++ after) →
    before.length ≤ front.length

/-- A scan of a text: what it passes over before each marker that it finds, and what is left when
it finds no more. -/
inductive Scan (marker : List Char) : List Char → List (List Char) → List Char → Prop
  | ended {s : List Char} : ¬ marker <:+: s → Scan marker s [] s
  | found {before after rest : List Char} {passed : List (List Char)} :
    IsFirstMarker marker before after → Scan marker after passed rest →
      Scan marker (before ++ (marker ++ after)) (before :: passed) rest

section Found

variable {marker before after s : List Char} {c : Char}

theorem isFirstMarker_nil : IsFirstMarker marker [] after := fun _ _ _ => Nat.zero_le _

theorem isFirstMarker_cons :
    IsFirstMarker marker (c :: before) after ↔
      ¬ marker <+: c :: (before ++ (marker ++ after)) ∧ IsFirstMarker marker before after := by
  constructor
  · intro first
    constructor
    · rintro ⟨back, same⟩
      exact absurd (first [] back same) (Nat.not_succ_le_zero _)
    · intro front back same
      exact Nat.le_of_succ_le_succ (first (c :: front) back (congrArg (List.cons c) same))
  · rintro ⟨absent, first⟩ front back same
    cases front with
    | nil => exact absurd ⟨back, same⟩ absent
    | cons d front => exact Nat.succ_le_succ (first front back (List.cons.inj same).2)

/-- A marker that occurs occurs for a first time. -/
theorem exists_isFirstMarker (occurs : marker <:+: s) :
    ∃ before after, s = before ++ (marker ++ after) ∧ IsFirstMarker marker before after := by
  induction s with
  | nil =>
    obtain rfl := List.infix_nil.mp occurs
    exact ⟨[], [], rfl, isFirstMarker_nil⟩
  | cons c s ih =>
    by_cases starts : marker <+: c :: s
    · obtain ⟨after, same⟩ := starts
      exact ⟨[], after, same.symm, isFirstMarker_nil⟩
    · have later := (List.infix_cons_iff.mp occurs).resolve_left starts
      obtain ⟨before, after, rfl, first⟩ := ih later
      exact ⟨c :: before, after, rfl, isFirstMarker_cons.mpr ⟨starts, first⟩⟩

end Found

section Pieces

variable {marker before after s rest : List Char} {passed : List (List Char)} {n : Nat}

theorem dropStart?_eq_none {start : List Char} (absent : ¬ start <+: s) :
    dropStart? start s = none :=
  Option.not_isSome_iff_eq_none.mp (mt dropStart?_isSome.mp absent)

theorem piecesFrom_cons {current : List Char} {c : Char} (absent : ¬ marker <+: c :: s) :
    piecesFrom marker current (n + 1) (c :: s) = piecesFrom marker (c :: current) n s := by
  rw [piecesFrom, dropStart?_eq_none absent]

theorem piecesFrom_free (free : ¬ marker <:+: s) (current : List Char) (enough : s.length < n) :
    piecesFrom marker current n s = [current.reverse ++ s] := by
  induction s generalizing current n with
  | nil => cases n <;> rw [piecesFrom, List.append_nil]
  | cons c s ih =>
    cases n with
    | zero => cases enough
    | succ n =>
      have absent : ¬ marker <+: c :: s := fun starts => free starts.isInfix
      have later : ¬ marker <:+: s := fun occurs => free (List.infix_cons_iff.mpr (.inr occurs))
      rw [piecesFrom_cons absent, ih later (c :: current) (Nat.lt_of_succ_lt_succ enough),
        List.reverse_cons, List.append_assoc]
      rfl

/-- The open piece is closed at the first marker, and the next one is begun behind it. What is left
of the bound on the recursion is enough for the rest. -/
theorem piecesFrom_first (nonempty : marker ≠ []) (first : IsFirstMarker marker before after)
    (current : List Char) (enough : (before ++ (marker ++ after)).length < n) :
    ∃ k, after.length < k ∧ piecesFrom marker current n (before ++ (marker ++ after)) =
      (current.reverse ++ before) :: piecesFrom marker [] k after := by
  induction before generalizing current n with
  | nil =>
    obtain ⟨m, ms, rfl⟩ := List.exists_cons_of_ne_nil nonempty
    cases n with
    | zero => cases enough
    | succ n =>
      refine ⟨n, ?_, ?_⟩
      · simp only [List.nil_append, List.length_append, List.length_cons] at enough
        omega
      · rw [List.nil_append, List.cons_append, piecesFrom, ← List.cons_append, dropStart?_append,
          List.append_nil]
  | cons c before ih =>
    obtain ⟨absent, first⟩ := isFirstMarker_cons.mp first
    cases n with
    | zero => cases enough
    | succ n =>
      obtain ⟨k, left, same⟩ := ih first (c :: current) (Nat.lt_of_succ_lt_succ enough)
      refine ⟨k, left, ?_⟩
      rw [List.cons_append, piecesFrom_cons absent, same, List.reverse_cons, List.append_assoc]
      rfl

theorem Scan.piecesFrom_eq (scan : Scan marker s passed rest) (nonempty : marker ≠ [])
    (enough : s.length < n) : piecesFrom marker [] n s = passed ++ [rest] := by
  induction scan generalizing n with
  | ended free => exact piecesFrom_free free [] enough
  | found first _ ih =>
    obtain ⟨k, left, same⟩ := piecesFrom_first nonempty first [] enough
    rw [same, ih left]
    rfl

theorem exists_scan (nonempty : marker ≠ []) (s : List Char) :
    ∃ passed rest, Scan marker s passed rest := by
  by_cases occurs : marker <:+: s
  · obtain ⟨before, after, split, first⟩ := exists_isFirstMarker occurs
    -- The scan goes on behind the marker, which shortens the text because it has a character.
    have solid : 0 < marker.length := List.length_pos_iff.mpr nonempty
    have shorter : after.length < s.length := by
      rw [split, List.length_append, List.length_append]
      omega
    obtain ⟨passed, rest, scan⟩ := exists_scan nonempty after
    exact ⟨before :: passed, rest, split ▸ .found first scan⟩
  · exact ⟨[], s, .ended occurs⟩
termination_by s.length

theorem Scan.pieces_eq (scan : Scan marker s passed rest) (nonempty : marker ≠ []) :
    pieces marker s = passed ++ [rest] :=
  scan.piecesFrom_eq nonempty (Nat.lt_succ_self _)

/-- The pieces of a text are those that its scan passes over and the one that is left. -/
theorem scan_iff (nonempty : marker ≠ []) :
    Scan marker s passed rest ↔ pieces marker s = passed ++ [rest] := by
  refine ⟨fun scan => scan.pieces_eq nonempty, fun same => ?_⟩
  obtain ⟨others, last, scan⟩ := exists_scan nonempty s
  rw [scan.pieces_eq nonempty, List.append_singleton_inj] at same
  obtain ⟨rfl, rfl⟩ := same
  exact scan

/-- A text has one scan. -/
theorem Scan.unique (scan : Scan marker s passed rest) (nonempty : marker ≠ [])
    (others : List (List Char)) (last : List Char) :
    Scan marker s others last ↔ others = passed ∧ last = rest := by
  rw [scan_iff nonempty, scan.pieces_eq nonempty, List.append_singleton_inj, eq_comm,
    eq_comm (a := rest)]

end Pieces

end SoapGateway.Text
