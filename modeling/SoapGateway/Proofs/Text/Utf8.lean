import Mathlib.Data.List.Basic
import SoapGateway.Text.Utf8

/-!
# UTF-8: strict and tolerant reading

Both readers rest on `next`. A character is read back from its octets whatever follows them
(`next_encodeChar`), and an octet sequence that is read as a character is that character's encoding
(`eq_encodeChar_of_next`); hence strict reading accepts exactly the encodings (`decode_encode`,
`eq_encode_of_decode`). Tolerant reading goes piece by piece: it distributes over an append wherever
the second part does not go on with a character begun in the first (`lossy_append`).
-/
namespace SoapGateway.Utf8

theorem lead?_two {b : Nat} (low : 0xC2 ≤ b) (high : b ≤ 0xDF) :
    lead? b = some (1, 0x80, 0xBF) := by
  unfold lead?
  rw [if_neg (by omega), if_pos ⟨low, high⟩]

theorem lead?_three {b : Nat} (low : 0xE0 ≤ b) (high : b ≤ 0xEF) :
    lead? b = some (2, if b = 0xE0 then 0xA0 else 0x80, if b = 0xED then 0x9F else 0xBF) := by
  unfold lead?
  rw [if_neg (by omega), if_neg (by omega)]
  grind

theorem lead?_four {b : Nat} (low : 0xF0 ≤ b) (high : b ≤ 0xF4) :
    lead? b = some (3, if b = 0xF0 then 0x90 else 0x80, if b = 0xF4 then 0x8F else 0xBF) := by
  unfold lead?
  rw [if_neg (by omega), if_neg (by omega), if_neg (by omega), if_neg (by omega),
    if_neg (by omega)]
  grind

/-- The five kinds of octets that may begin something. -/
theorem lead?_cases (b : Nat) :
    (b < 0x80 ∧ lead? b = some (0, 0, 0)) ∨
    (0xC2 ≤ b ∧ b ≤ 0xDF ∧ lead? b = some (1, 0x80, 0xBF)) ∨
    (0xE0 ≤ b ∧ b ≤ 0xEF ∧
      lead? b = some (2, if b = 0xE0 then 0xA0 else 0x80, if b = 0xED then 0x9F else 0xBF)) ∨
    (0xF0 ≤ b ∧ b ≤ 0xF4 ∧
      lead? b = some (3, if b = 0xF0 then 0x90 else 0x80, if b = 0xF4 then 0x8F else 0xBF)) ∨
    (0x80 ≤ b ∧ lead? b = none) := by
  by_cases h1 : b < 0x80
  · exact .inl ⟨h1, by unfold lead?; rw [if_pos h1]⟩
  by_cases h2 : 0xC2 ≤ b ∧ b ≤ 0xDF
  · exact .inr (.inl ⟨h2.1, h2.2, lead?_two h2.1 h2.2⟩)
  by_cases h3 : 0xE0 ≤ b ∧ b ≤ 0xEF
  · exact .inr (.inr (.inl ⟨h3.1, h3.2, lead?_three h3.1 h3.2⟩))
  by_cases h4 : 0xF0 ≤ b ∧ b ≤ 0xF4
  · exact .inr (.inr (.inr (.inl ⟨h4.1, h4.2, lead?_four h4.1 h4.2⟩)))
  refine .inr (.inr (.inr (.inr ⟨by omega, ?_⟩)))
  unfold lead?
  rw [if_neg (by omega), if_neg (by omega), if_neg (by omega), if_neg (by omega),
    if_neg (by omega), if_neg (by omega), if_neg (by omega), if_neg (by omega)]

theorem next_ascii {b : UInt8} {rest : List UInt8} (h : b.toNat < 0x80) :
    next (b :: rest) = .char (Char.ofNat b.toNat) rest := by
  have l : lead? b.toNat = some (0, 0, 0) := by
    unfold lead?
    rw [if_pos h]
  simp only [next, l]

theorem toNat_octet {n : Nat} (h : n < 256) : (UInt8.ofNat n).toNat = n := by
  rw [UInt8.toNat_ofNat', Nat.mod_eq_of_lt h]

theorem isTail_iff {b : Nat} : isTail b = true ↔ 0x80 ≤ b ∧ b ≤ 0xBF := by
  simp [isTail]

/-- Writing a character and reading it back, with anything behind it. -/
theorem next_encodeChar (c : Char) (rest : List UInt8) :
    next (String.utf8EncodeChar c ++ rest) = .char c rest := by
  have valid : c.toNat < 0xD800 ∨ (0xDFFF < c.toNat ∧ c.toNat < 0x110000) := c.valid
  have back : ∀ n, n = c.toNat → Char.ofNat n = c := fun n h => by rw [h, Char.ofNat_toNat]
  simp only [String.utf8EncodeChar, show c.val.toNat = c.toNat from rfl]
  split
  · rw [List.cons_append, List.nil_append, next_ascii (by rw [toNat_octet (by omega)]; omega),
      toNat_octet (by omega), back _ rfl]
  split
  · have l : lead? (c.toNat / 64 % 0x20 + 0xc0) = some (1, 0x80, 0xBF) :=
      lead?_two (by omega) (by omega)
    simp only [List.cons_append, List.nil_append, next, toNat_octet (show
      c.toNat / 64 % 0x20 + 0xc0 < 256 by omega), l, toNat_octet (show
      c.toNat % 0x40 + 0x80 < 256 by omega), tails, if_true]
    rw [if_pos (by omega), back _ (by omega)]
  split
  · have l := lead?_three (b := c.toNat / 4096 % 0x10 + 0xe0) (by omega) (by omega)
    simp only [List.cons_append, List.nil_append, next, toNat_octet (show
      c.toNat / 4096 % 0x10 + 0xe0 < 256 by omega), l, toNat_octet (show
      c.toNat / 64 % 0x40 + 0x80 < 256 by omega), toNat_octet (show
      c.toNat % 0x40 + 0x80 < 256 by omega), tails]
    rw [if_pos (by split <;> split <;> omega), if_pos (isTail_iff.mpr (by omega))]
    simp only [Nat.one_ne_zero, if_false, if_true]
    rw [back _ (by omega)]
  · have l := lead?_four (b := c.toNat / 262144 % 0x8 + 0xf0) (by omega) (by omega)
    simp only [List.cons_append, List.nil_append, next, toNat_octet (show
      c.toNat / 262144 % 0x8 + 0xf0 < 256 by omega), l, toNat_octet (show
      c.toNat / 4096 % 0x40 + 0x80 < 256 by omega), toNat_octet (show
      c.toNat / 64 % 0x40 + 0x80 < 256 by omega), toNat_octet (show
      c.toNat % 0x40 + 0x80 < 256 by omega), tails]
    rw [if_pos (by split <;> split <;> omega), if_pos (isTail_iff.mpr (by omega)),
      if_pos (isTail_iff.mpr (by omega))]
    simp
    rw [back _ (by omega)]

theorem toNat_ofNat {n : Nat} (valid : n.isValidChar) : (Char.ofNat n).toNat = n := by
  rw [Char.ofNat, dif_pos valid]
  rfl

theorem encodeChar_ofNat {n : Nat} (valid : n.isValidChar) :
    String.utf8EncodeChar (Char.ofNat n) =
      if n ≤ 0x7f then [UInt8.ofNat n]
      else if n ≤ 0x7ff then [UInt8.ofNat (n / 64 % 0x20 + 0xc0), UInt8.ofNat (n % 0x40 + 0x80)]
      else if n ≤ 0xffff then [UInt8.ofNat (n / 4096 % 0x10 + 0xe0),
        UInt8.ofNat (n / 64 % 0x40 + 0x80), UInt8.ofNat (n % 0x40 + 0x80)]
      else [UInt8.ofNat (n / 262144 % 0x08 + 0xf0), UInt8.ofNat (n / 4096 % 0x40 + 0x80),
        UInt8.ofNat (n / 64 % 0x40 + 0x80), UInt8.ofNat (n % 0x40 + 0x80)] := by
  have value : (Char.ofNat n).val.toNat = n := toNat_ofNat valid
  simp only [String.utf8EncodeChar, value]

theorem octet_eq {n : Nat} {b : UInt8} (h : n = b.toNat) : UInt8.ofNat n = b := by
  rw [h, UInt8.ofNat_toNat]

/-- The tails that a character has taken, and the value that they add up to. -/
theorem tails_eq_char {owed value seen : Nat} {input rest : List UInt8} {c : Char}
    (h : tails value seen owed input = .char c rest) :
    ∃ taken, input = taken ++ rest ∧ taken.length = owed ∧
      (∀ b ∈ taken, 0x80 ≤ b.toNat ∧ b.toNat ≤ 0xBF) ∧
      c = Char.ofNat (taken.foldl (fun n b => n * 64 + (b.toNat - 0x80)) value) := by
  induction owed generalizing value seen input with
  | zero =>
    simp only [tails, Step.char.injEq] at h
    obtain ⟨rfl, rfl⟩ := h
    exact ⟨[], rfl, rfl, by simp, rfl⟩
  | succ owed ih =>
    cases input with
    | nil => simp [tails] at h
    | cons b input =>
      simp only [tails] at h
      split at h
      · next tail =>
        obtain ⟨taken, rfl, length, all, rfl⟩ := ih h
        refine ⟨b :: taken, rfl, by simp [length], ?_, by rw [List.foldl_cons]⟩
        intro x member
        rcases List.mem_cons.mp member with rfl | member
        · exact isTail_iff.mp tail
        · exact all x member
      · cases h

theorem next_eq_char_multi {b : UInt8} {input rest : List UInt8} {c : Char} {owed low high : Nat}
    (l : lead? b.toNat = some (owed + 1, low, high)) (h : next (b :: input) = .char c rest) :
    ∃ b₂ taken, input = b₂ :: (taken ++ rest) ∧ taken.length = owed ∧
      low ≤ b₂.toNat ∧ b₂.toNat ≤ high ∧ (∀ b ∈ taken, 0x80 ≤ b.toNat ∧ b.toNat ≤ 0xBF) ∧
      c = Char.ofNat (taken.foldl (fun n b => n * 64 + (b.toNat - 0x80))
        ((b.toNat - (if owed = 0 then 0xC0 else if owed = 1 then 0xE0 else 0xF0)) * 64 +
          (b₂.toNat - 0x80))) := by
  cases input with
  | nil => simp [next, l] at h
  | cons b₂ s =>
    simp only [next, l] at h
    split at h
    · next range =>
      obtain ⟨taken, rfl, length, all, value⟩ := tails_eq_char h
      exact ⟨b₂, taken, rfl, length, range.1, range.2, all, value⟩
    · cases h

/-- A character that is read was written as the octets that its reading took. -/
theorem eq_encodeChar_of_next {input rest : List UInt8} {c : Char}
    (h : next input = .char c rest) : input = String.utf8EncodeChar c ++ rest := by
  cases input with
  | nil => simp [next] at h
  | cons b s =>
    rcases lead?_cases b.toNat with ⟨lo, l⟩ | ⟨lo, hi, l⟩ | ⟨lo, hi, l⟩ | ⟨lo, hi, l⟩ | ⟨lo, l⟩
    · simp only [next, l, Step.char.injEq] at h
      obtain ⟨rfl, rfl⟩ := h
      rw [encodeChar_ofNat (by left; omega), if_pos (by omega), UInt8.ofNat_toNat]
      rfl
    · obtain ⟨b₂, taken, rfl, length, low, high, all, rfl⟩ := next_eq_char_multi l h
      obtain rfl := List.eq_nil_of_length_eq_zero length
      simp only [List.foldl_nil, if_true]
      rw [encodeChar_ofNat (by left; omega), if_neg (by omega), if_pos (by omega),
        octet_eq (b := b) (by omega), octet_eq (b := b₂) (by omega)]
      rfl
    · obtain ⟨b₂, taken, rfl, length, low, high, all, rfl⟩ := next_eq_char_multi l h
      obtain ⟨b₃, rfl⟩ := List.length_eq_one_iff.mp length
      have t₃ := all b₃ (by simp)
      simp only [List.foldl_nil, List.foldl_cons, Nat.one_ne_zero, if_true, if_false]
      generalize size : ((b.toNat - 0xE0) * 64 + (b₂.toNat - 0x80)) * 64 + (b₃.toNat - 0x80) = n
      have two : 0x7ff < n := by split at low <;> omega
      have three : n < 0xD800 ∨ (0xDFFF < n ∧ n ≤ 0xffff) := by split at high <;> omega
      have tail₂ : 0x80 ≤ b₂.toNat ∧ b₂.toNat ≤ 0xBF := by
        constructor
        · split at low <;> omega
        · split at high <;> omega
      rw [encodeChar_ofNat (by rcases three with h | h; left; omega; right; omega),
        if_neg (by omega), if_neg (by omega), if_pos (by omega),
        octet_eq (b := b) (by omega), octet_eq (b := b₂) (by omega), octet_eq (b := b₃) (by omega)]
      rfl
    · obtain ⟨b₂, taken, rfl, length, low, high, all, rfl⟩ := next_eq_char_multi l h
      obtain ⟨b₃, b₄, rfl⟩ := List.length_eq_two.mp length
      have t₃ := all b₃ (by simp)
      have t₄ := all b₄ (by simp)
      simp only [List.foldl_nil, List.foldl_cons, Nat.reduceEqDiff, if_false]
      generalize size : (((b.toNat - 0xF0) * 64 + (b₂.toNat - 0x80)) * 64 + (b₃.toNat - 0x80)) * 64
        + (b₄.toNat - 0x80) = n
      have big : 0xffff < n := by split at low <;> omega
      have small : n < 0x110000 := by split at high <;> omega
      have tail₂ : 0x80 ≤ b₂.toNat ∧ b₂.toNat ≤ 0xBF := by
        constructor
        · split at low <;> omega
        · split at high <;> omega
      rw [encodeChar_ofNat (by right; omega), if_neg (by omega), if_neg (by omega),
        if_neg (by omega), octet_eq (b := b) (by omega), octet_eq (b := b₂) (by omega),
        octet_eq (b := b₃) (by omega), octet_eq (b := b₄) (by omega)]
      rfl
    · simp [next, l] at h

/-! Strict reading. -/

theorem decodeFrom_encode (s : List Char) (index fuel : Nat) (acc : List Char)
    (enough : s.length ≤ fuel) :
    decodeFrom index acc fuel (encode s) = .ok (acc.reverse ++ s) := by
  induction s generalizing index fuel acc with
  | nil =>
    cases fuel with
    | zero => simp [decodeFrom]
    | succ fuel => simp [decodeFrom, encode, next]
  | cons c s ih =>
    cases fuel with
    | zero => simp at enough
    | succ fuel =>
      have one : encode (c :: s) = String.utf8EncodeChar c ++ encode s := by simp [encode]
      simp only [decodeFrom, one, next_encodeChar]
      rw [ih _ _ _ (by simpa using enough)]
      simp

theorem length_le_encode (s : List Char) : s.length ≤ (encode s).length := by
  induction s with
  | nil => simp
  | cons c s ih =>
    have one : 1 ≤ (String.utf8EncodeChar c).length := by
      rw [String.length_utf8EncodeChar]
      exact Char.utf8Size_pos c
    simp only [encode, List.flatMap_cons, List.length_append, List.length_cons] at ih ⊢
    omega

/-- Every text is read back from its octets. -/
theorem decode_encode (s : List Char) : decode (encode s) = .ok s :=
  decodeFrom_encode s 0 _ [] (length_le_encode s)

theorem length_lt_of_next_char {input rest : List UInt8} {c : Char}
    (h : next input = .char c rest) : rest.length < input.length := by
  have size : 0 < (String.utf8EncodeChar c).length := by
    rw [String.length_utf8EncodeChar]
    exact Char.utf8Size_pos c
  rw [eq_encodeChar_of_next h, List.length_append]
  omega

theorem eq_nil_of_next {input : List UInt8} (h : next input = .done) : input = [] := by
  cases input with
  | nil => rfl
  | cons b input =>
    have never : ∀ owed value seen s, tails value seen owed s ≠ .done := by
      intro owed
      induction owed with
      | zero => simp [tails]
      | succ owed ih =>
        intro value seen s
        cases s with
        | nil => simp [tails]
        | cons b s =>
          simp only [tails]
          split
          · exact ih _ _ _
          · simp
    simp only [next] at h
    split at h
    · cases h
    · cases h
    · split at h
      · cases h
      · split at h
        · exact absurd h (never _ _ _ _)
        · cases h

theorem decodeFrom_ok {index fuel : Nat} {acc s : List Char} {input : List UInt8}
    (enough : input.length ≤ fuel) (h : decodeFrom index acc fuel input = .ok s) :
    ∃ t, s = acc.reverse ++ t ∧ input = encode t := by
  induction fuel generalizing index acc input with
  | zero =>
    obtain rfl := List.eq_nil_of_length_eq_zero (Nat.le_zero.mp enough)
    simp only [decodeFrom, Except.ok.injEq] at h
    exact ⟨[], by simp [h], rfl⟩
  | succ fuel ih =>
    simp only [decodeFrom] at h
    split at h
    · next done =>
      simp only [Except.ok.injEq] at h
      refine ⟨[], by simp [h], ?_⟩
      rw [eq_nil_of_next done]
      rfl
    · next c rest read =>
      have shorter := length_lt_of_next_char read
      obtain ⟨t, rfl, rfl⟩ := ih (by omega) h
      exact ⟨c :: t, by simp, by rw [eq_encodeChar_of_next read]; simp [encode]⟩
    · cases h

/-- Octets that are read as a text are the octets of that text. -/
theorem eq_encode_of_decode {input : List UInt8} {s : List Char} (h : decode input = .ok s) :
    input = encode s := by
  obtain ⟨t, rfl, rfl⟩ := decodeFrom_ok (Nat.le_refl _) h
  rfl

/-! Tolerant reading. -/

/-- What a step takes from the front: a character, or a piece that is none, and what follows. -/
def Step.taken : Step → Option (Option Char × List UInt8)
  | .done => none
  | .char c rest => some (some c, rest)
  | .malformed _ _ rest => some (none, rest)

/-- Octets that do not go on with a character begun before them. -/
def Fresh (s : List UInt8) : Prop := ∀ b ∈ s.head?, isTail b.toNat = false

theorem taken_tails_append {owed value seen : Nat} {u s : List UInt8} (fresh : Fresh s) :
    (tails value seen owed (u ++ s)).taken =
      (tails value seen owed u).taken.map fun p => (p.1, p.2 ++ s) := by
  induction owed generalizing value seen u with
  | zero => rfl
  | succ owed ih =>
    cases u with
    | nil =>
      cases s with
      | nil => rfl
      | cons b s =>
        have none : isTail b.toNat = false := fresh b rfl
        simp [tails, none, Step.taken]
    | cons b u =>
      simp only [List.cons_append, tails]
      split
      · exact ih
      · rfl

/-- Octets that begin afresh do not change how what stands before them is read. -/
theorem taken_next_append {u s : List UInt8} (begun : u ≠ []) (fresh : Fresh s) :
    (next (u ++ s)).taken = (next u).taken.map fun p => (p.1, p.2 ++ s) := by
  cases u with
  | nil => exact absurd rfl begun
  | cons b u =>
    simp only [List.cons_append, next]
    split
    · rfl
    · rfl
    · next owed low high l =>
      cases u with
      | nil =>
        cases s with
        | nil => rfl
        | cons b₂ s =>
          have outside : ¬ (low ≤ b₂.toNat ∧ b₂.toNat ≤ high) := by
            intro inside
            have tail : isTail b₂.toNat = true := by
              rw [isTail_iff]
              rcases lead?_cases b.toNat with h | h | h | h | h <;> grind
            rw [fresh b₂ rfl] at tail
            cases tail
          simp [outside, Step.taken]
      | cons b₂ u =>
        simp only [List.cons_append]
        split
        · exact taken_tails_append fresh
        · rfl

theorem tails_suffix {owed value seen : Nat} {input rest : List UInt8} {c : Option Char}
    (h : (tails value seen owed input).taken = some (c, rest)) : rest <:+ input := by
  induction owed generalizing value seen input with
  | zero =>
    simp only [tails, Step.taken, Option.some.injEq, Prod.mk.injEq] at h
    exact h.2 ▸ List.suffix_rfl
  | succ owed ih =>
    cases input with
    | nil =>
      simp only [tails, Step.taken, Option.some.injEq, Prod.mk.injEq] at h
      exact h.2 ▸ List.suffix_rfl
    | cons b input =>
      simp only [tails] at h
      split at h
      · exact (ih h).trans (List.suffix_cons b input)
      · simp only [Step.taken, Option.some.injEq, Prod.mk.injEq] at h
        exact h.2 ▸ List.suffix_rfl

/-- Every step takes an octet at least. -/
theorem taken_suffix {b : UInt8} {input rest : List UInt8} {c : Option Char}
    (h : (next (b :: input)).taken = some (c, rest)) : rest <:+ input := by
  simp only [next] at h
  split at h
  · simp only [Step.taken, Option.some.injEq, Prod.mk.injEq] at h
    exact h.2 ▸ List.suffix_rfl
  · simp only [Step.taken, Option.some.injEq, Prod.mk.injEq] at h
    exact h.2 ▸ List.suffix_rfl
  · split at h
    · simp only [Step.taken, Option.some.injEq, Prod.mk.injEq] at h
      exact h.2 ▸ List.suffix_rfl
    · split at h
      · exact (tails_suffix h).trans (List.suffix_cons _ _)
      · simp only [Step.taken, Option.some.injEq, Prod.mk.injEq] at h
        exact h.2 ▸ List.suffix_rfl

theorem taken_cons (b : UInt8) (input : List UInt8) :
    ∃ c rest, (next (b :: input)).taken = some (c, rest) := by
  cases step : next (b :: input) with
  | done => cases eq_nil_of_next step
  | char c rest => exact ⟨some c, rest, rfl⟩
  | malformed k e rest => exact ⟨none, rest, rfl⟩

theorem decodeLossyFrom_acc (fuel : Nat) (acc : List Char) (input : List UInt8) :
    decodeLossyFrom acc fuel input = acc.reverse ++ decodeLossyFrom [] fuel input := by
  induction fuel generalizing acc input with
  | zero => simp [decodeLossyFrom]
  | succ fuel ih =>
    simp only [decodeLossyFrom]
    split
    · simp
    · rw [ih (_ :: acc), ih [_]]
      simp
    · rw [ih (_ :: acc), ih [_]]
      simp

theorem decodeLossyFrom_fuel {n m : Nat} {input : List UInt8} (hn : input.length ≤ n)
    (hm : input.length ≤ m) : decodeLossyFrom [] n input = decodeLossyFrom [] m input := by
  induction n generalizing m input with
  | zero =>
    obtain rfl := List.eq_nil_of_length_eq_zero (Nat.le_zero.mp hn)
    cases m <;> simp [decodeLossyFrom, next]
  | succ n ih =>
    cases m with
    | zero =>
      obtain rfl := List.eq_nil_of_length_eq_zero (Nat.le_zero.mp hm)
      simp [decodeLossyFrom, next]
    | succ m =>
      cases input with
      | nil => simp [decodeLossyFrom, next]
      | cons b input =>
        simp only [List.length_cons, Nat.add_le_add_iff_right] at hn hm
        simp only [decodeLossyFrom]
        split
        · rfl
        · next c rest step =>
          have shorter : rest.length ≤ input.length :=
            (taken_suffix (c := some c) (by rw [step]; rfl)).length_le
          rw [decodeLossyFrom_acc, decodeLossyFrom_acc m,
            ih (Nat.le_trans shorter hn) (Nat.le_trans shorter hm)]
        · next k e rest step =>
          have shorter : rest.length ≤ input.length :=
            (taken_suffix (c := none) (by rw [step]; rfl)).length_le
          rw [decodeLossyFrom_acc, decodeLossyFrom_acc m,
            ih (Nat.le_trans shorter hn) (Nat.le_trans shorter hm)]

/-- The text that octets write, malformed pieces replaced. -/
def lossy (input : List UInt8) : List Char := decodeLossyFrom [] input.length input

theorem lossy_nil : lossy [] = [] := rfl

theorem lossy_of_taken {input rest : List UInt8} {c : Option Char}
    (h : (next input).taken = some (c, rest)) :
    lossy input = c.getD (Char.ofNat 0xFFFD) :: lossy rest := by
  cases input with
  | nil => simp [next, Step.taken] at h
  | cons b input =>
    have shorter := (taken_suffix h).length_le
    simp only [lossy, List.length_cons, decodeLossyFrom]
    cases step : next (b :: input) with
    | done => cases eq_nil_of_next step
    | char d s =>
      simp only [step, Step.taken, Option.some.injEq, Prod.mk.injEq] at h
      obtain ⟨rfl, rfl⟩ := h
      dsimp only
      rw [decodeLossyFrom_acc _ [_], decodeLossyFrom_fuel shorter (Nat.le_refl _)]
      rfl
    | malformed k e s =>
      simp only [step, Step.taken, Option.some.injEq, Prod.mk.injEq] at h
      obtain ⟨rfl, rfl⟩ := h
      dsimp only
      rw [decodeLossyFrom_acc _ [_], decodeLossyFrom_fuel shorter (Nat.le_refl _)]
      rfl

theorem lossy_encodeChar_append (c : Char) (rest : List UInt8) :
    lossy (String.utf8EncodeChar c ++ rest) = c :: lossy rest :=
  lossy_of_taken (c := some c) (by rw [next_encodeChar]; rfl)

theorem lossy_encode (s : List Char) : lossy (encode s) = s := by
  induction s with
  | nil => rfl
  | cons c s ih =>
    have one : encode (c :: s) = String.utf8EncodeChar c ++ encode s := by simp [encode]
    rw [one, lossy_encodeChar_append, ih]

theorem lossy_ascii {b : UInt8} {rest : List UInt8} (h : b.toNat < 0x80) :
    lossy (b :: rest) = Char.ofNat b.toNat :: lossy rest :=
  lossy_of_taken (c := some _) (by rw [next_ascii h]; rfl)

/-- Tolerant reading goes piece by piece. -/
theorem lossy_append {u s : List UInt8} (fresh : Fresh s) :
    lossy (u ++ s) = lossy u ++ lossy s := by
  induction size : u.length using Nat.strongRecOn generalizing u with
  | ind n ih =>
    cases u with
    | nil => rfl
    | cons b u =>
      obtain ⟨c, rest, taken⟩ := taken_cons b u
      have more := taken_next_append (u := b :: u) (by simp) fresh
      have shorter := (taken_suffix taken).length_le
      simp only [taken, Option.map_some] at more
      rw [lossy_of_taken taken, lossy_of_taken more,
        ih rest.length (by rw [← size, List.length_cons]; omega) rfl]
      rfl

theorem encode_cons (c : Char) (s : List Char) :
    encode (c :: s) = String.utf8EncodeChar c ++ encode s := by
  simp [encode]

theorem encode_append (s t : List Char) : encode (s ++ t) = encode s ++ encode t := by
  simp [encode]

theorem encodeChar_ascii {c : Char} (h : c.toNat < 0x80) :
    String.utf8EncodeChar c = [UInt8.ofNat c.toNat] := by
  simp only [String.utf8EncodeChar, show c.val.toNat = c.toNat from rfl]
  rw [if_pos (by omega)]

theorem encode_ascii {s : List Char} (ascii : ∀ c ∈ s, c.toNat < 0x80) :
    encode s = s.map fun c => UInt8.ofNat c.toNat := by
  induction s with
  | nil => rfl
  | cons c s ih =>
    have rest := ih fun c member => ascii c (List.mem_cons_of_mem _ member)
    rw [encode] at rest ⊢
    rw [List.flatMap_cons, rest, encodeChar_ascii (ascii c List.mem_cons_self), List.map_cons,
      List.singleton_append]

/-- An octet beyond ASCII begins a character beyond ASCII, or a piece that is replaced by one. -/
theorem lossy_cons_high {b : UInt8} {u : List UInt8} (high : 0x80 ≤ b.toNat) :
    ∃ c rest, lossy (b :: u) = c :: lossy rest ∧ 0x80 ≤ c.toNat ∧ rest <:+ u := by
  obtain ⟨c, rest, taken⟩ := taken_cons b u
  refine ⟨_, rest, lossy_of_taken taken, ?_, taken_suffix taken⟩
  cases kind : next (b :: u) with
  | done => cases eq_nil_of_next kind
  | char d s =>
    simp only [kind, Step.taken, Option.some.injEq, Prod.mk.injEq] at taken
    obtain ⟨rfl, rfl⟩ := taken
    simp only [Option.getD_some]
    by_contra low
    have octets := eq_encodeChar_of_next kind
    rw [encodeChar_ascii (by omega)] at octets
    simp only [List.cons_append, List.cons.injEq] at octets
    rw [octets.1, toNat_octet (by omega)] at high
    omega
  | malformed k e s =>
    simp only [kind, Step.taken, Option.some.injEq, Prod.mk.injEq] at taken
    obtain ⟨rfl, rfl⟩ := taken
    decide

theorem lossy_high {u : List UInt8} (high : ∀ b ∈ u, 0x80 ≤ b.toNat) :
    ∀ c ∈ lossy u, 0x80 ≤ c.toNat := by
  induction size : u.length using Nat.strongRecOn generalizing u with
  | ind n ih =>
    cases u with
    | nil => simp [lossy_nil]
    | cons b u =>
      obtain ⟨c, rest, eq, first, suffix⟩ := lossy_cons_high (u := u) (high b (by simp))
      have shorter := suffix.length_le
      have tail := ih rest.length (by rw [← size, List.length_cons]; omega)
        (fun b member => high b (List.mem_cons_of_mem _ (suffix.subset member))) rfl
      rw [eq]
      intro d member
      rcases List.mem_cons.mp member with rfl | member
      · exact first
      · exact tail d member

/-- No octet of a text goes on with a character begun before it. -/
theorem fresh_encodeChar_append (c : Char) (rest : List UInt8) :
    Fresh (String.utf8EncodeChar c ++ rest) := by
  intro b first
  cases octets : String.utf8EncodeChar c ++ rest with
  | nil => rw [octets] at first; cases first
  | cons b' s =>
    rw [octets] at first
    cases first
    have read := next_encodeChar c rest
    rw [octets] at read
    by_contra tail
    rw [Bool.not_eq_false, isTail_iff] at tail
    have none : lead? b.toNat = none := by
      rcases lead?_cases b.toNat with h | h | h | h | h
      · omega
      · omega
      · omega
      · omega
      · exact h.2
    simp [next, none] at read

theorem fresh_of_ascii {b : UInt8} {s : List UInt8} (h : b.toNat < 0x80) : Fresh (b :: s) := by
  intro x first
  cases first
  simp only [isTail, Bool.and_eq_false_iff, decide_eq_false_iff_not]
  omega

end SoapGateway.Utf8
