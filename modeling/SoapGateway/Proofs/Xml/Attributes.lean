import SoapGateway.Proofs.Text.Blank
import SoapGateway.Proofs.Xml.Events
import SoapGateway.Xml.Attribute

/-!
# Attributes of written tags

Reading a well-formed tag gives back its attributes in order, with their values as they are written.
-/
namespace SoapGateway.Xml

open Text (takeWhile_run dropWhile_run)

/-- A quoted value is read up to its closing quote, white space before it aside. -/
theorem attributeValue_source {a : WrittenAttribute} (wf : a.WellFormed) (position : Nat)
    (rest : List Char) :
    ∃ next, attributeValue position (a.after ++ a.quote :: (a.value ++ a.quote :: rest)) =
      .ok (a.value, next, rest) := by
  have spaces : ∀ c ∈ a.after, isSpace c = true := List.all_eq_true.mp wf.after
  have begun : isSpace a.quote = false := by
    rcases wf.quote with eq | eq <;> rw [eq] <;> decide
  have inside : ∀ c ∈ a.value, (c != a.quote) = true := by
    intro c member
    rw [bne_iff_ne]
    exact fun eq => wf.value (eq ▸ member)
  have closed : ∀ c ∈ (a.quote :: rest).head?, (c != a.quote) = false := by
    intro c first
    cases first
    exact bne_self_eq_false _
  refine ⟨position + Utf8.octets a.after + Utf8.octets a.value + 2, ?_⟩
  rw [attributeValue, takeWhile_run spaces (by rintro c ⟨⟩; exact begun),
    dropWhile_run spaces (by rintro c ⟨⟩; exact begun)]
  dsimp only
  rw [if_pos wf.quote, takeWhile_run inside closed, dropWhile_run inside closed]

/-- One attribute is read, and reading goes on after its closing quote. -/
theorem attributesFrom_cons {a : WrittenAttribute} (wf : a.WellFormed)
    {seen : List (List Char × Nat)} (fresh : seen.lookup a.name = none) (position n : Nat)
    (rest : List Char) :
    ∃ here next, attributesFrom seen position (n + 1) (a.source ++ rest) =
      .ok ⟨a.name, a.value⟩ :: attributesFrom ((a.name, here) :: seen) next n rest := by
  obtain ⟨c, letters, named, start, chars⟩ := isName_cases wf.name
  have spaces : ∀ d ∈ a.space, isSpace d = true := List.all_eq_true.mp wf.space
  have gap : ∀ d ∈ a.before, isSpace d = true := List.all_eq_true.mp wf.before
  have begun : isSpace c = false := isSpace_of_isNameChar (isNameChar_of_isNameStart start)
  have inside : ∀ d ∈ letters, (d != '=' && !isSpace d) = true := by
    intro d member
    have name : isNameChar d = true := chars d (named ▸ List.mem_cons_of_mem _ member)
    rw [Bool.and_eq_true, bne_iff_ne, isSpace_of_isNameChar name]
    exact ⟨ne_of_isNameChar name (by decide), rfl⟩
  have left : ∀ w : List Char, ∀ d ∈ (a.before ++ '=' :: w).head?,
      (d != '=' && !isSpace d) = false := by
    intro w d first
    cases before : a.before with
    | nil => rw [before] at first; cases first; decide
    | cons e more =>
      rw [before] at first
      cases first
      rw [gap d (before ▸ List.mem_cons_self)]
      simp
  have split : a.source ++ rest = a.space ++ c :: (letters ++ (a.before ++ '=' ::
      (a.after ++ a.quote :: (a.value ++ a.quote :: rest)))) := by
    simp [WrittenAttribute.source, named]
  obtain ⟨next, read⟩ := attributeValue_source wf (position + Utf8.octets a.space +
    Utf8.octets a.name + Utf8.octets a.before + 1) rest
  refine ⟨position + Utf8.octets a.space, next, ?_⟩
  rw [split, attributesFrom, takeWhile_run spaces (by rintro d ⟨⟩; exact begun),
    dropWhile_run spaces (by rintro d ⟨⟩; exact begun)]
  dsimp only
  rw [takeWhile_run inside (left _), dropWhile_run inside (left _), dropWhile_run gap (by
    rintro d ⟨⟩; decide), takeWhile_run gap (by rintro d ⟨⟩; decide), ← named, fresh]
  simp only [read]

/-- The attributes of a tag are read in order up to the white space at its end. -/
theorem attributesFrom_source {attrs : List WrittenAttribute} (wf : ∀ a ∈ attrs, a.WellFormed)
    (once : (attrs.map (·.name)).Nodup) {space : List Char} (blank : space.all isSpace = true)
    {seen : List (List Char × Nat)} (fresh : ∀ a ∈ attrs, seen.lookup a.name = none)
    {n : Nat} (bound : attrs.length < n) (position : Nat) :
    attributesFrom seen position n (attrs.flatMap (·.source) ++ space) =
      attrs.map fun a => .ok ⟨a.name, a.value⟩ := by
  induction attrs generalizing seen n position with
  | nil =>
    obtain ⟨k, rfl⟩ := Nat.exists_eq_add_one_of_ne_zero (Nat.ne_of_gt bound)
    have all : ∀ c ∈ space, isSpace c = true := List.all_eq_true.mp blank
    have nothing : space.dropWhile isSpace = [] := List.dropWhile_eq_nil_iff.mpr all
    rw [List.flatMap_nil, List.nil_append, attributesFrom, nothing]
    rfl
  | cons a attrs ih =>
    obtain ⟨k, rfl⟩ := Nat.exists_eq_add_one_of_ne_zero (Nat.ne_of_gt (Nat.zero_lt_of_lt bound))
    rw [List.map_cons, List.nodup_cons] at once
    obtain ⟨here, next, step⟩ := attributesFrom_cons (wf a List.mem_cons_self)
      (fresh a List.mem_cons_self) position k (attrs.flatMap (·.source) ++ space)
    rw [List.flatMap_cons, List.append_assoc, step, List.map_cons]
    congr 1
    apply ih (fun b member => wf b (List.mem_cons_of_mem _ member)) once.2
    · intro b member
      have other : (b.name == a.name) = false := by
        rw [beq_eq_false_iff_ne]
        intro same
        exact once.1 (same ▸ List.mem_map_of_mem member)
      rw [List.lookup_cons, other]
      exact fresh b (List.mem_cons_of_mem _ member)
    · exact Nat.lt_of_succ_lt_succ bound

theorem WrittenAttribute.length_source_pos (a : WrittenAttribute) : 0 < a.source.length := by
  rw [source, List.length_append]
  exact Nat.succ_pos _

/-- The attributes of a well-formed tag are those that it was written with. -/
theorem Tag.attributes_source {t : Tag} (wf : t.WellFormed) :
    Xml.attributes t.source = t.attributes.map fun a => .ok ⟨a.name, a.value⟩ := by
  have short : ∀ l : List WrittenAttribute, l.length ≤ (l.flatMap (·.source)).length := by
    intro l
    induction l with
    | nil => simp
    | cons a l ih =>
      have := a.length_source_pos
      rw [List.flatMap_cons, List.length_append, List.length_cons]
      omega
  have bound : t.attributes.length < t.source.length + 1 := by
    have := short t.attributes
    rw [Tag.source, List.length_append, List.length_append]
    omega
  have rest : t.source.drop t.name.length = t.attributes.flatMap (·.source) ++ t.space := by
    rw [Tag.source, List.append_assoc, List.drop_left]
  rw [Xml.attributes, Forest.tagName_source wf, rest]
  exact attributesFrom_source wf.attributes wf.once wf.space (fun _ _ => rfl) bound _

end SoapGateway.Xml
