import SoapGateway.Proofs.Text.Decimal
import SoapGateway.Toml.Sheet

/-!
# Documents can be written

Every character has a spelling between double quotes, so every text and every name can be written,
and all lines whose values can.
-/
namespace SoapGateway.Toml

open Text (hexChar hexValue? hexValue?_hexChar valueOf)

/-- A number that is small enough is written with any number of hexadecimal digits. -/
theorem exists_hex {width n : Nat} (fits : n < Nat.pow 16 width) :
    ∃ hex : List Char, hex.length = width ∧ (∀ d ∈ hex, (hexValue? d).isSome = true) ∧
      valueOf 16 hex = n := by
  induction width generalizing n with
  | zero =>
    obtain rfl : n = 0 := Nat.lt_one_iff.mp fits
    exact ⟨[], rfl, by simp, rfl⟩
  | succ width ih =>
    have shorter : n / 16 < Nat.pow 16 width := by
      have scaled : Nat.pow 16 (width + 1) = Nat.pow 16 width * 16 := rfl
      omega
    have last := hexValue?_hexChar (Nat.mod_lt n (by decide : 16 > 0))
    obtain ⟨hex, length, digits, value⟩ := ih shorter
    refine ⟨hex ++ [hexChar (n % 16)], by simp [length], ?_, ?_⟩
    · intro d member
      rcases List.mem_append.mp member with front | back
      · exact digits d front
      · rw [List.mem_singleton.mp back, last, Option.isSome_some]
    · have split : valueOf 16 (hex ++ [hexChar (n % 16)]) = valueOf 16 hex * 16 + n % 16 := by
        simp [valueOf, last]
      rw [split, value]
      omega

/-- Every character has a spelling. -/
theorem exists_spells (c : Char) : ∃ t, Spells c t := by
  have fits : c.toNat < Nat.pow 16 8 := by
    have size := c.val.toNat_lt
    exact size
  obtain ⟨hex, length, digits, value⟩ := exists_hex fits
  have known : ('U', hex.length) ∈ pointEscapes := by
    rw [length]
    decide
  exact ⟨_, .point known digits value⟩

theorem exists_writes (s : List Char) : ∃ t, Writes s t := by
  induction s with
  | nil => exact ⟨[], .nil⟩
  | cons c s ih =>
    obtain ⟨t, spells⟩ := exists_spells c
    obtain ⟨u, writes⟩ := ih
    exact ⟨t ++ u, .cons spells writes⟩

/-- A name of letters is written as it is. -/
theorem isName_toList {name : String} (some : name.toList ≠ [])
    (letters : name.toList.all isBare = true) : IsName name name.toList := by
  have bare := IsName.bare some (List.all_eq_true.mp letters)
  rw [String.ofList_toList] at bare
  exact bare

theorem exists_isName (name : String) : ∃ t, IsName name t := by
  obtain ⟨t, writes⟩ := exists_writes name.toList
  have quoted := IsName.quoted writes
  rw [String.ofList_toList] at quoted
  exact ⟨_, quoted⟩

theorem exists_isValue_text (s : String) : ∃ t, IsValue (.text s) t := by
  obtain ⟨t, writes⟩ := exists_writes s.toList
  have text := IsValue.text writes
  rw [String.ofList_toList] at text
  exact ⟨_, text⟩

/-- Lines can be written if their values can. -/
theorem exists_written {ls : List Line}
    (spelled : ∀ k v, Line.entry k v ∈ ls → ∃ t, IsValue v t) : ∃ s, Written ls s := by
  have none : IsGap [] := by simp [IsGap]
  have ends (rest : List Char) : Ends ([] ++ [] ++ ['\n']) rest :=
    .intro none (.inl rfl) (.inl rfl)
  induction ls with
  | nil => exact ⟨[], .nil⟩
  | cons l ls ih =>
    obtain ⟨rest, more⟩ := ih fun k v member => spelled k v (List.mem_cons_of_mem _ member)
    cases l with
    | entry key v =>
      obtain ⟨name, isName⟩ := exists_isName key
      obtain ⟨value, isValue⟩ := spelled key v List.mem_cons_self
      exact ⟨_, .entry none isName none none isValue (ends rest) more⟩
    | header part =>
      obtain ⟨name, isName⟩ := exists_isName part
      exact ⟨_, .header none none isName none (ends rest) more⟩

end SoapGateway.Toml
