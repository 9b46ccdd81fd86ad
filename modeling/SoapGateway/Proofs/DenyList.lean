import SoapGateway.DenyList

/-!
# The deny-list as a set

A list refuses the names that were added to it and no others.
-/
namespace SoapGateway.DenyList

theorem mem_insertName {x name : String} {names : List String} :
    x ∈ insertName name names ↔ x = name ∨ x ∈ names := by
  induction names with
  | nil => simp [insertName]
  | cons n names ih =>
    rw [insertName]
    split
    · simp
    · split
      · next same =>
        subst same
        simp
      · rw [List.mem_cons, ih, List.mem_cons, or_left_comm]

theorem contains_add (d : DenyList) (name x : String) :
    (d.add name).2.contains x = true ↔ x = name ∨ d.contains x = true := by
  rw [contains, contains, List.contains_iff_mem, List.contains_iff_mem]
  exact mem_insertName

/-- A name that is added says nothing about others. -/
theorem contains_add_other {d : DenyList} {name x : String} (other : x ≠ name) :
    (d.add name).2.contains x = d.contains x := by
  rw [Bool.eq_iff_iff, contains_add]
  exact ⟨fun known => known.resolve_left other, .inr⟩

/-- Adding names one after the other adds them all. -/
theorem contains_addAll (d : DenyList) (names : List String) (x : String) :
    (names.foldl (fun d name => (d.add name).2) d).contains x = true ↔
      x ∈ names ∨ d.contains x = true := by
  induction names generalizing d with
  | nil => simp
  | cons name names ih =>
    rw [List.foldl_cons, ih, contains_add, List.mem_cons, or_left_comm, or_assoc]

/-- A list that was read from a text refuses the names between its blanks. -/
theorem contains_ofText (text x : String) :
    (ofText text).contains x = true ↔ x ∈ Text.words text := by
  have none : (({} : DenyList).contains x = true) = False := by simp [contains]
  rw [ofText, contains_addAll, none, or_false]

end SoapGateway.DenyList
