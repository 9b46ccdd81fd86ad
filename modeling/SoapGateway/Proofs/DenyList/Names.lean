import Mathlib.Data.List.Dedup
import SoapGateway.Proofs.DenyList

/-!
# The names of a deny-list

However names are added, each stands in the list once and the list is in increasing order. So the
list depends only on which names were added, not on how often and in which order.
-/
namespace SoapGateway.DenyList

/-- Adds names one after the other. -/
def addAll (d : DenyList) (names : List String) : DenyList :=
  names.foldl (fun d name => (d.add name).2) d

/-- The names are in increasing order, so none comes twice. -/
def IsOrdered (d : DenyList) : Prop := d.names.Pairwise (· < ·)

theorem ordered_insertName {names : List String} (ordered : names.Pairwise (· < ·))
    (name : String) : (insertName name names).Pairwise (· < ·) := by
  induction names with
  | nil => exact List.pairwise_singleton _ name
  | cons n names ih =>
    obtain ⟨first, rest⟩ := List.pairwise_cons.mp ordered
    rw [insertName]
    split
    · next before =>
      refine List.pairwise_cons.mpr ⟨fun m member => ?_, ordered⟩
      rcases List.mem_cons.mp member with rfl | later
      · exact before
      · exact String.lt_trans before (first m later)
    · next notBefore =>
      split
      · exact ordered
      · next other =>
        have after : n < name := String.not_le.mp fun before =>
          other (String.le_antisymm before (String.not_lt.mp notBefore))
        refine List.pairwise_cons.mpr ⟨fun m member => ?_, ih rest⟩
        rcases mem_insertName.mp member with rfl | later
        · exact after
        · exact first m later

theorem IsOrdered.addAll {d : DenyList} (ordered : d.IsOrdered) (names : List String) :
    (d.addAll names).IsOrdered := by
  induction names generalizing d with
  | nil => exact ordered
  | cons name names ih => exact ih (d := (d.add name).2) (ordered_insertName ordered name)

theorem isOrdered_ofText (text : String) : (ofText text).IsOrdered :=
  IsOrdered.addAll (d := {}) List.Pairwise.nil (Text.words text)

theorem IsOrdered.nodup {d : DenyList} (ordered : d.IsOrdered) : d.names.Nodup := by
  refine List.Pairwise.imp ?_ ordered
  rintro a b less rfl
  exact String.lt_irrefl a less

theorem mem_addAll {d : DenyList} {names : List String} {x : String} :
    x ∈ (d.addAll names).names ↔ x ∈ names ∨ x ∈ d.names := by
  have contained := contains_addAll d names x
  rwa [contains, contains, List.contains_iff_mem, List.contains_iff_mem] at contained

/-- A name is reported as new if it is not there. -/
theorem add_isNew {d : DenyList} {name : String} : (d.add name).1 = true ↔ name ∉ d.names := by
  rw [add, contains, Bool.not_eq_true', List.contains_eq_mem, decide_eq_false_iff_not]

/-- What is read from a text and added later, each name once. -/
theorem perm_dedup {text : String} {added : List String} :
    ((ofText text).addAll added).names.Perm (Text.words text ++ added).dedup := by
  have ordered := (isOrdered_ofText text).addAll added
  refine (List.perm_ext_iff_of_nodup ordered.nodup (List.nodup_dedup _)).mpr fun name => ?_
  rw [List.mem_dedup, List.mem_append, mem_addAll, or_comm]
  refine or_congr_left ?_
  have read := contains_ofText text name
  rwa [contains, List.contains_iff_mem] at read

end SoapGateway.DenyList
