import SoapGateway.Proofs.Xml.Unescape

/-!
# Escaping and reading back

Whatever text is escaped, as content or as an attribute value, is read back as it was, and what is
written has none of the characters that end it.
-/
namespace SoapGateway.Xml

theorem Reads.entity {name s v : List Char} {c : Char} (entity : entity? name = some c)
    (plain : ∀ d ∈ name, d ≠ '&' ∧ d ≠ ';') (head : name.head? ≠ some '#') (rest : Reads s v) :
    Reads ('&' :: (name ++ ';' :: s)) (c :: v) := by
  refine .reference plain (fun offset => ?_) rest
  unfold Xml.reference
  split
  · exact absurd rfl head
  · rw [entity]

theorem reads_escapeTextChar (c : Char) {s v : List Char} (rest : Reads s v) :
    Reads (escapeTextChar c ++ s) (c :: v) := by
  unfold escapeTextChar
  split
  · next eq =>
    subst eq
    exact Reads.entity (show entity? "lt".toList = some '<' by decide) (by simp) (by decide) rest
  · split
    · next eq =>
      subst eq
      exact Reads.entity (show entity? "gt".toList = some '>' by decide) (by simp) (by decide) rest
    · split
      · next eq =>
        subst eq
        exact Reads.entity (show entity? "amp".toList = some '&' by decide) (by simp)
          (by decide) rest
      · next plain => exact .plain plain rest

theorem reads_escapeAttributeChar (c : Char) {s v : List Char} (rest : Reads s v) :
    Reads (escapeAttributeChar c ++ s) (c :: v) := by
  unfold escapeAttributeChar
  split
  · next eq =>
    subst eq
    exact Reads.entity (show entity? "quot".toList = some '"' by decide) (by simp) (by decide) rest
  · exact reads_escapeTextChar c rest

/-- What is written character by character is read back. -/
theorem unescape_flatMap {g : Char → List Char}
    (one : ∀ (c : Char) {s v : List Char}, Reads s v → Reads (g c ++ s) (c :: v)) (s : List Char) :
    unescape (s.flatMap g) = .ok s := by
  rw [unescape_iff]
  induction s with
  | nil => exact .nil
  | cons c s ih =>
    rw [List.flatMap_cons]
    exact one c ih

theorem unescape_escapeText (s : List Char) : unescape (escapeText s) = .ok s :=
  unescape_flatMap reads_escapeTextChar s

theorem unescape_escapeAttribute (s : List Char) : unescape (escapeAttribute s) = .ok s :=
  unescape_flatMap reads_escapeAttributeChar s

theorem lt_not_mem_escapeText (s : List Char) : '<' ∉ escapeText s := by
  intro member
  obtain ⟨c, _, written⟩ := List.mem_flatMap.mp member
  unfold escapeTextChar at written
  split at written
  · exact absurd written (by decide)
  · split at written
    · exact absurd written (by decide)
    · split at written
      · exact absurd written (by decide)
      · next less _ _ => exact less (List.mem_singleton.mp written).symm

theorem quote_not_mem_escapeAttribute (s : List Char) : '"' ∉ escapeAttribute s := by
  intro member
  obtain ⟨c, _, written⟩ := List.mem_flatMap.mp member
  unfold escapeAttributeChar at written
  split at written
  · exact absurd written (by decide)
  · next quote =>
    unfold escapeTextChar at written
    split at written
    · exact absurd written (by decide)
    · split at written
      · exact absurd written (by decide)
      · split at written
        · exact absurd written (by decide)
        · exact quote (List.mem_singleton.mp written).symm

end SoapGateway.Xml
