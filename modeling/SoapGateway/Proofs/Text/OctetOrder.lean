import SoapGateway.Proofs.Text.Utf8

/-!
# The order of octets

Texts are in the same order whether their characters are compared or the octets that write them. The
first octet of a character tells how many follow and has the highest part of its number, and the
octets that follow have the rest from the higher to the lower part.
-/
namespace SoapGateway.Utf8

/-- The octets that follow the first one, for a number of which the lowest parts are in them. -/
def followers : Nat → Nat → List UInt8
  | 0, _ => []
  | k + 1, n => followers k (n / 64) ++ [UInt8.ofNat (n % 64 + 128)]

/-- What the first octet has to tell of a number if so many octets follow. -/
def leading : Nat → Nat → Nat
  | 0, n => n
  | k + 1, n => leading k (n / 64)

/-- A greater number is seen in the first octet or, if that is the same, in those that follow. -/
theorem leading_lt_or_followers_lt {n m : Nat} (less : n < m) (k : Nat) (u v : List UInt8) :
    leading k n < leading k m ∨
      leading k n = leading k m ∧ followers k n ++ u < followers k m ++ v := by
  induction k generalizing n m u v with
  | zero => exact .inl less
  | succ k ih =>
    rw [leading, leading, followers, followers, List.append_assoc, List.append_assoc]
    rcases Nat.lt_or_ge (n / 64) (m / 64) with higher | notHigher
    · exact ih higher _ _
    · have same : n / 64 = m / 64 := Nat.le_antisymm (Nat.div_le_div_right (Nat.le_of_lt less))
        notHigher
      rw [same]
      refine .inr ⟨rfl, List.append_left_lt ?_⟩
      have value (n : Nat) := toNat_octet (show n % 64 + 128 < 256 by omega)
      rw [List.singleton_append, List.singleton_append, List.cons_lt_cons_iff,
        UInt8.lt_iff_toNat_lt, value, value]
      omega

/-- How a character is written: a first octet in a range of its own for each number of octets that
follow, and these. -/
theorem encodeChar_shape (c : Char) : ∃ k first, String.utf8EncodeChar c =
      UInt8.ofNat first :: followers k c.toNat ∧ first < 0x100 ∧
    (k = 0 ∧ first = leading k c.toNat ∧ first < 0x80 ∧ c.toNat < 0x80 ∨
      k = 1 ∧ first = 0xC0 + leading k c.toNat ∧ first < 0xE0 ∧
        0x80 ≤ c.toNat ∧ c.toNat < 0x800 ∨
      k = 2 ∧ first = 0xE0 + leading k c.toNat ∧ first < 0xF0 ∧
        0x800 ≤ c.toNat ∧ c.toNat < 0x10000 ∨
      k = 3 ∧ first = 0xF0 + leading k c.toNat ∧ 0x10000 ≤ c.toNat) := by
  have valid : c.toNat < 0xD800 ∨ (0xDFFF < c.toNat ∧ c.toNat < 0x110000) := c.valid
  simp only [String.utf8EncodeChar, show c.val.toNat = c.toNat from rfl]
  generalize c.toNat = n at valid ⊢
  split
  · exact ⟨0, n, rfl, by omega, .inl ⟨rfl, rfl, by omega, by omega⟩⟩
  split
  · have first : n / 64 % 32 + 0xC0 = 0xC0 + n / 64 := by omega
    rw [first]
    exact ⟨1, _, rfl, by omega, .inr (.inl ⟨rfl, rfl, by omega, by omega, by omega⟩)⟩
  split
  · have first : n / 4096 % 16 + 0xE0 = 0xE0 + n / 64 / 64 := by omega
    rw [first]
    exact ⟨2, _, rfl, by omega, .inr (.inr (.inl ⟨rfl, rfl, by omega, by omega, by omega⟩))⟩
  · have first : n / 262144 % 8 + 0xF0 = 0xF0 + n / 64 / 64 / 64 := by omega
    have second : n / 4096 % 64 = n / 64 / 64 % 64 := by omega
    rw [first, second]
    exact ⟨3, _, rfl, by omega, .inr (.inr (.inr ⟨rfl, rfl, by omega⟩))⟩

/-- A character of higher number is written by octets that come later, whatever follows. -/
theorem encodeChar_lt {c d : Char} (less : c < d) (u v : List UInt8) :
    String.utf8EncodeChar c ++ u < String.utf8EncodeChar d ++ v := by
  have less : c.toNat < d.toNat := less
  obtain ⟨k, first, shape, small, range⟩ := encodeChar_shape c
  obtain ⟨k', first', shape', small', range'⟩ := encodeChar_shape d
  rw [shape, shape', List.cons_append, List.cons_append, List.cons_lt_cons_iff,
    UInt8.lt_iff_toNat_lt, ← UInt8.toNat_inj, toNat_octet small, toNat_octet small']
  by_cases same : k = k'
  · subst same
    rcases leading_lt_or_followers_lt less k u v with higher | ⟨equal, later⟩
    · exact .inl (by omega)
    · exact .inr ⟨by omega, later⟩
  · exact .inl (by omega)

/-- Octets are in the order of the texts that they write. -/
theorem encode_lt_encode {s t : List Char} (less : s < t) : encode s < encode t := by
  induction s generalizing t with
  | nil =>
    cases t with
    | nil => exact absurd less (List.lt_irrefl [])
    | cons d t =>
      obtain ⟨k, first, shape, _⟩ := encodeChar_shape d
      rw [encode_cons, shape]
      exact List.nil_lt_cons _ _
  | cons c s ih =>
    cases t with
    | nil => cases less
    | cons d t =>
      rw [encode_cons, encode_cons]
      rcases List.cons_lt_cons_iff.mp less with lower | ⟨rfl, later⟩
      · exact encodeChar_lt lower _ _
      · exact List.append_left_lt (ih later)

end SoapGateway.Utf8
