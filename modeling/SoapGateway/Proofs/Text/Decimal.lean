import SoapGateway.Text.Decimal

/-!
# Decimal digits

A number is the value of its digits, also with zeros in front of them.
-/
namespace SoapGateway.Text

theorem hexValue?_digitChar (d : Nat) : hexValue? (digitChar d) = some (d % 10) := by
  have table : ∀ k < 10, hexValue? (Char.ofNat (48 + k)) = some k := by decide
  exact table (d % 10) (Nat.mod_lt d (by decide))

theorem hexValue?_hexChar {d : Nat} (small : d < 16) : hexValue? (hexChar d) = some d := by
  have table : ∀ d < 16, hexValue? (hexChar d) = some d := by decide
  exact table d small

theorem isDigit_digitChar (d : Nat) : isDigit (digitChar d) = true := by
  have table : ∀ k < 10, isDigit (Char.ofNat (48 + k)) = true := by decide
  exact table (d % 10) (Nat.mod_lt d (by decide))

theorem valueOf_snoc (s : List Char) (d : Nat) :
    valueOf 10 (s ++ [digitChar d]) = valueOf 10 s * 10 + d % 10 := by
  simp [valueOf, hexValue?_digitChar]

theorem valueOf_digits (n : Nat) : valueOf 10 (digits n) = n := by
  induction n using digits.induct with
  | case1 n small =>
    rw [digits, if_pos small]
    have one := valueOf_snoc [] n
    simp only [List.nil_append] at one
    rw [one, valueOf, List.foldl_nil]
    omega
  | case2 n large ih =>
    rw [digits, if_neg large, valueOf_snoc, ih]
    omega

theorem isDigit_digits (n : Nat) : ∀ c ∈ digits n, isDigit c = true := by
  induction n using digits.induct with
  | case1 n small =>
    rw [digits, if_pos small]
    simpa using isDigit_digitChar n
  | case2 n large ih =>
    rw [digits, if_neg large]
    intro c member
    rcases List.mem_append.mp member with front | last
    · exact ih c front
    · rw [List.mem_singleton.mp last]
      exact isDigit_digitChar n

theorem digits_head {n : Nat} (positive : 0 < n) : ∃ c t, digits n = c :: t ∧ c ≠ '0' := by
  induction n using digits.induct with
  | case1 n small =>
    have table : ∀ k < 10, 0 < k → digitChar k ≠ '0' := by decide
    exact ⟨_, [], by rw [digits, if_pos small], table n small positive⟩
  | case2 n large ih =>
    obtain ⟨c, t, front, leading⟩ := ih (by omega)
    exact ⟨c, t ++ [digitChar n], by rw [digits, if_neg large, front, List.cons_append], leading⟩

/-- A zero leads no other digit. -/
theorem digits_shape (n : Nat) : ∃ c t, digits n = c :: t ∧ (c = '0' → t = []) := by
  rcases Nat.eq_zero_or_pos n with rfl | positive
  · exact ⟨'0', [], by rw [digits]; rfl, fun _ => rfl⟩
  · obtain ⟨c, t, shape, leading⟩ := digits_head positive
    exact ⟨c, t, shape, fun zero => absurd zero leading⟩

theorem digits_front (n : Nat) : ∃ c t, digits n = c :: t ∧ isDigit c = true := by
  obtain ⟨c, t, shape, _⟩ := digits_shape n
  exact ⟨c, t, shape, isDigit_digits n c (shape ▸ List.mem_cons_self)⟩

/-- A whole number is its digits, with a minus sign in front of them below zero. -/
theorem toList_ofInt (n : Int) : (ofInt n).toList =
    if n < 0 then '-' :: digits n.natAbs else digits n.natAbs := by
  unfold ofInt ofNat
  split
  · rw [String.toList_append, String.toList_ofList, String.toList_ofList]
    rfl
  · rw [String.toList_ofList]

theorem length_digits_le {n width : Nat} (positive : 0 < width) (fits : n < Nat.pow 10 width) :
    (digits n).length ≤ width := by
  induction n using digits.induct generalizing width with
  | case1 n small =>
    rw [digits, if_pos small]
    exact positive
  | case2 n large ih =>
    obtain ⟨places, rfl⟩ : ∃ places, width = places + 1 := ⟨width - 1, by omega⟩
    have more : 0 < places := by
      rcases Nat.eq_zero_or_pos places with rfl | more
      · exact absurd fits large
      · exact more
    have shorter : n / 10 < Nat.pow 10 places := by
      have scaled : Nat.pow 10 (places + 1) = Nat.pow 10 places * 10 := rfl
      omega
    have front := ih more shorter
    rw [digits, if_neg large, List.length_append, List.length_singleton]
    omega

theorem toList_padded (width n : Nat) :
    (padded width n).toList = List.replicate (width - (digits n).length) '0' ++ digits n := by
  rw [padded, String.toList_ofList, padLeft]

theorem valueOf_padded (width n : Nat) : valueOf 10 (padded width n).toList = n := by
  have zeros (k : Nat) : (List.replicate k '0').foldl
      (fun n c => n * 10 + (hexValue? c).getD 0) 0 = 0 := by
    induction k with
    | zero => rfl
    | succ k ih =>
      rw [List.replicate_succ, List.foldl_cons]
      exact ih
  rw [toList_padded, valueOf, List.foldl_append, zeros]
  exact valueOf_digits n

theorem isDigit_padded (width n : Nat) : ∀ c ∈ (padded width n).toList, isDigit c = true := by
  intro c member
  rw [toList_padded, List.mem_append] at member
  rcases member with zero | digit
  · rw [(List.mem_replicate.mp zero).2]
    decide
  · exact isDigit_digits n c digit

/-- A number that fits takes all the places. -/
theorem length_padded {width n : Nat} (positive : 0 < width) (fits : n < Nat.pow 10 width) :
    (padded width n).toList.length = width := by
  have short := length_digits_le positive fits
  rw [toList_padded, List.length_append, List.length_replicate]
  omega

theorem ne_of_isDigit {c d : Char} (digit : isDigit c = true) (foreign : isDigit d = false) :
    c ≠ d := by
  rintro rfl
  rw [foreign] at digit
  cases digit

theorem isDigit_iff {c : Char} : isDigit c = true ↔ '0' ≤ c ∧ c ≤ '9' := by
  unfold isDigit digitValue?
  split
  · next range => exact ⟨fun _ => range, fun _ => rfl⟩
  · next outside => exact ⟨nofun, fun range => absurd range outside⟩

/-- A digit stands in the order of the characters at its value. -/
theorem value_of_isDigit {c : Char} (digit : isDigit c = true) :
    (hexValue? c).getD 0 < 10 ∧ c.toNat = 48 + (hexValue? c).getD 0 := by
  have range := isDigit_iff.mp digit
  have low : 48 ≤ c.toNat := range.1
  have high : c.toNat ≤ 57 := range.2
  rw [hexValue?, if_pos range, Option.getD_some]
  omega

theorem valueOf_cons (c : Char) (s : List Char) :
    valueOf 10 (c :: s) = (hexValue? c).getD 0 * Nat.pow 10 s.length + valueOf 10 s := by
  have shift (n : Nat) : s.foldl (fun n c => n * 10 + (hexValue? c).getD 0) n =
      n * Nat.pow 10 s.length + valueOf 10 s := by
    induction s generalizing n with
    | nil => exact (Nat.mul_one n).symm
    | cons d s ih =>
      have scaled : Nat.pow 10 (d :: s).length = 10 * Nat.pow 10 s.length := Nat.mul_comm _ _
      rw [valueOf, List.foldl_cons, List.foldl_cons, ih, ih, scaled, Nat.zero_mul, Nat.zero_add,
        Nat.add_mul, Nat.mul_assoc, Nat.add_assoc]
  rw [valueOf, List.foldl_cons, Nat.zero_mul, Nat.zero_add]
  exact shift _

theorem valueOf_lt_pow {s : List Char} (digits : ∀ c ∈ s, isDigit c = true) :
    valueOf 10 s < Nat.pow 10 s.length := by
  induction s with
  | nil => exact Nat.one_pos
  | cons c s ih =>
    have rest := ih fun d member => digits d (List.mem_cons_of_mem c member)
    have small := (value_of_isDigit (digits c List.mem_cons_self)).1
    have scaled : Nat.pow 10 (c :: s).length = 10 * Nat.pow 10 s.length := Nat.mul_comm _ _
    have below := Nat.mul_le_mul_right (Nat.pow 10 s.length) small
    rw [Nat.succ_mul] at below
    rw [valueOf_cons, scaled]
    omega

/-- Runs of as many digits are ordered as the numbers that they write. -/
theorem lt_iff_valueOf_lt {s t : List Char} (long : s.length = t.length)
    (digitsS : ∀ c ∈ s, isDigit c = true) (digitsT : ∀ c ∈ t, isDigit c = true) :
    s < t ↔ valueOf 10 s < valueOf 10 t := by
  induction s generalizing t with
  | nil =>
    rw [List.length_nil] at long
    rw [List.length_eq_zero_iff.mp long.symm]
    simp
  | cons c s ih =>
    cases t with
    | nil => cases long
    | cons d t =>
      have long : s.length = t.length := Nat.succ.inj long
      have restS : ∀ x ∈ s, isDigit x = true := fun x member =>
        digitsS x (List.mem_cons_of_mem c member)
      have restT : ∀ x ∈ t, isDigit x = true := fun x member =>
        digitsT x (List.mem_cons_of_mem d member)
      have belowS := valueOf_lt_pow restS
      have belowT := valueOf_lt_pow restT
      have valueC := (value_of_isDigit (digitsS c List.mem_cons_self)).2
      have valueD := (value_of_isDigit (digitsT d List.mem_cons_self)).2
      rw [List.cons_lt_cons_iff, ih long restS restT, valueOf_cons, valueOf_cons, ← long]
      rw [← long] at belowT
      have less : c < d ↔ (hexValue? c).getD 0 < (hexValue? d).getD 0 := by
        change c.toNat < d.toNat ↔ _
        omega
      have same : c = d ↔ (hexValue? c).getD 0 = (hexValue? d).getD 0 := by
        rw [← Char.toNat_inj]
        omega
      rw [less, same]
      generalize (hexValue? c).getD 0 = a
      generalize (hexValue? d).getD 0 = b
      rcases Nat.lt_trichotomy a b with lower | rfl | higher
      · have step := Nat.mul_le_mul_right (Nat.pow 10 s.length) lower
        rw [Nat.succ_mul] at step
        omega
      · omega
      · have step := Nat.mul_le_mul_right (Nat.pow 10 s.length) higher
        rw [Nat.succ_mul] at step
        omega

end SoapGateway.Text
