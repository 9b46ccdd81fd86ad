import SoapGateway.Json.Reader
import SoapGateway.Json.Value
import SoapGateway.Proofs.Text.Utf8

/-!
# Written texts are read back

A text is written between quotes with escapes for what cannot stand there. Whatever characters it
has, and whatever follows, a reader takes exactly the written text and gives it back.
-/
namespace SoapGateway.Json

open Utf8 (encode encode_append encode_cons)

/-- Octets that stand for themselves inside quotes. -/
def IsPlainByte (b : UInt8) : Prop := b ≠ 0x22 ∧ b ≠ 0x5C ∧ ¬ b < 0x20

theorem isPlainByte_of_high {b : UInt8} (high : 0x80 ≤ b.toNat) : IsPlainByte b := by
  refine ⟨?_, ?_, ?_⟩
  · rintro rfl
    exact absurd high (by decide)
  · rintro rfl
    exact absurd high (by decide)
  · intro low
    have low : b.toNat < 0x20 := low
    omega

theorem high_of_utf8EncodeChar {c : Char} (wide : 0x80 ≤ c.toNat) :
    ∀ b ∈ String.utf8EncodeChar c, 0x80 ≤ b.toNat := by
  have value : c.val.toNat = c.toNat := rfl
  have big : c.toNat < 1114112 := by
    have valid := c.valid
    have same : c.val.toNat = c.toNat := rfl
    rcases valid with low | high
    · omega
    · omega
  intro b member
  simp only [String.utf8EncodeChar, value] at member
  rw [if_neg (by omega)] at member
  split at member
  · simp only [List.mem_cons, List.not_mem_nil, or_false] at member
    rcases member with rfl | rfl <;> rw [Utf8.toNat_octet (by omega)] <;> omega
  · split at member
    · simp only [List.mem_cons, List.not_mem_nil, or_false] at member
      rcases member with rfl | rfl | rfl <;> rw [Utf8.toNat_octet (by omega)] <;> omega
    · simp only [List.mem_cons, List.not_mem_nil, or_false] at member
      rcases member with rfl | rfl | rfl | rfl <;> rw [Utf8.toNat_octet (by omega)] <;> omega

/-- A reader takes plain octets one by one. -/
theorem readTextBytes_run {u rest acc : List UInt8} (plain : ∀ b ∈ u, IsPlainByte b) (n : Nat) :
    readTextBytes acc (n + u.length) (u ++ rest) = readTextBytes (u.reverse ++ acc) n rest := by
  induction u generalizing acc with
  | nil => rfl
  | cons b u ih =>
    obtain ⟨quote, slash, control⟩ := plain b List.mem_cons_self
    rw [List.length_cons, ← Nat.add_assoc, List.cons_append, readTextBytes, if_neg quote,
      if_neg slash, if_neg control, ih fun b' member => plain b' (List.mem_cons_of_mem _ member)]
    simp

/-- An escape is taken in one round. -/
theorem readTextBytes_escape {input rest acc : List UInt8} {c : Char} {n : Nat}
    (read : readEscape input = .ok (c, rest)) :
    readTextBytes acc (n + 1) (0x5C :: input) =
      readTextBytes ((String.utf8EncodeChar c).reverse ++ acc) n rest := by
  rw [readTextBytes, if_neg (by decide), if_pos rfl, read]

theorem readEscape_control {c : Char} (control : c.toNat < 0x20) (rest : List UInt8) :
    readEscape (encode ['u', '0', '0', Text.hexChar (c.toNat / 16), Text.hexChar (c.toNat % 16)] ++
      rest) = .ok (c, rest) := by
  have table : ∀ n < 32, (Text.hexChar (n / 16)).toNat < 0x80 ∧
      (Text.hexChar (n % 16)).toNat < 0x80 ∧
      hexByte? (UInt8.ofNat (Text.hexChar (n / 16)).toNat) = some (n / 16) ∧
      hexByte? (UInt8.ofNat (Text.hexChar (n % 16)).toNat) = some (n % 16) := by decide
  obtain ⟨asciiHigh, asciiLow, high, low⟩ := table c.toNat control
  have octets : encode ['u', '0', '0', Text.hexChar (c.toNat / 16), Text.hexChar (c.toNat % 16)] =
      [0x75, 0x30, 0x30, UInt8.ofNat (Text.hexChar (c.toNat / 16)).toNat,
        UInt8.ofNat (Text.hexChar (c.toNat % 16)).toNat] := by
    simp only [encode, List.flatMap_cons, List.flatMap_nil, Utf8.encodeChar_ascii asciiHigh,
      Utf8.encodeChar_ascii asciiLow]
    rfl
  have zero : hexByte? 0x30 = some 0 := by decide
  have value : ((0 * 16 + 0) * 16 + c.toNat / 16) * 16 + c.toNat % 16 = c.toNat := by omega
  have unit : readUnit (0x30 :: 0x30 :: UInt8.ofNat (Text.hexChar (c.toNat / 16)).toNat ::
      UInt8.ofNat (Text.hexChar (c.toNat % 16)).toNat :: rest) = .ok (c.toNat, rest) := by
    simp only [readUnit, zero, high, low, value]
  have long : simpleEscape? 0x75 = none := by decide
  rw [octets]
  change readEscape (0x75 :: 0x30 :: 0x30 :: _ :: _ :: rest) = _
  rw [readEscape, long]
  dsimp only
  rw [if_pos rfl, readEscapedUnits, unit]
  dsimp only
  rw [if_neg (by omega), if_pos (by omega), Char.ofNat_toNat]

theorem isPlainByte_of_char {c : Char} (quote : c ≠ '"') (slash : c ≠ '\\')
    (control : ¬ c.toNat < 0x20) : ∀ b ∈ String.utf8EncodeChar c, IsPlainByte b := by
  intro b member
  by_cases ascii : c.toNat < 0x80
  · rw [Utf8.encodeChar_ascii ascii, List.mem_singleton] at member
    have value : b.toNat = c.toNat := by rw [member, Utf8.toNat_octet (by omega)]
    have char {d : Char} (other : c ≠ d) : b.toNat ≠ d.toNat := by
      intro same
      rw [value] at same
      exact other (by rw [← Char.ofNat_toNat c, same, Char.ofNat_toNat])
    refine ⟨?_, ?_, ?_⟩
    · rintro rfl
      exact char quote rfl
    · rintro rfl
      exact char slash rfl
    · intro low
      have low : b.toNat < 0x20 := low
      omega
  · exact isPlainByte_of_high (high_of_utf8EncodeChar (by omega) b member)

/-- A character is written by an escape that is read back as it, or stands for itself. -/
theorem escapeChar_cases (c : Char) :
    (∃ letters, escapeChar c = '\\' :: letters ∧
      ∀ rest, readEscape (encode letters ++ rest) = .ok (c, rest)) ∨
    escapeChar c = [c] ∧ ∀ b ∈ String.utf8EncodeChar c, IsPlainByte b := by
  by_cases quote : c = '"'
  · subst quote
    exact .inl ⟨['"'], rfl, fun _ => rfl⟩
  by_cases slash : c = '\\'
  · subst slash
    exact .inl ⟨['\\'], rfl, fun _ => rfl⟩
  by_cases backspace : c = '\x08'
  · subst backspace
    exact .inl ⟨['b'], rfl, fun _ => rfl⟩
  by_cases feed : c = '\x0c'
  · subst feed
    exact .inl ⟨['f'], rfl, fun _ => rfl⟩
  by_cases newline : c = '\n'
  · subst newline
    exact .inl ⟨['n'], rfl, fun _ => rfl⟩
  by_cases carriage : c = '\r'
  · subst carriage
    exact .inl ⟨['r'], rfl, fun _ => rfl⟩
  by_cases tab : c = '\t'
  · subst tab
    exact .inl ⟨['t'], rfl, fun _ => rfl⟩
  unfold escapeChar
  rw [if_neg quote, if_neg slash, if_neg backspace, if_neg feed, if_neg newline, if_neg carriage,
    if_neg tab]
  by_cases control : c.toNat < 0x20
  · rw [if_pos control]
    exact .inl ⟨_, rfl, readEscape_control control⟩
  · rw [if_neg control]
    exact .inr ⟨rfl, isPlainByte_of_char quote slash control⟩

/-- A written character is taken by a reader that has enough rounds left. -/
theorem readTextBytes_escapeChar (c : Char) (acc rest : List UInt8) {n : Nat}
    (fuel : (encode (escapeChar c) ++ rest).length < n) :
    ∃ m, rest.length < m ∧ readTextBytes acc n (encode (escapeChar c) ++ rest) =
      readTextBytes ((String.utf8EncodeChar c).reverse ++ acc) m rest := by
  rcases escapeChar_cases c with ⟨letters, written, read⟩ | ⟨written, plain⟩
  · have octets : encode (escapeChar c) ++ rest = 0x5C :: (encode letters ++ rest) := by
      rw [written]
      rfl
    rw [octets, List.length_cons, List.length_append] at fuel
    obtain ⟨m, rfl⟩ : ∃ m, n = m + 1 := ⟨n - 1, by omega⟩
    exact ⟨m, by omega, by rw [octets, readTextBytes_escape (read rest)]⟩
  · have octets : encode (escapeChar c) = String.utf8EncodeChar c := by
      rw [written, encode, List.flatMap_singleton]
    rw [octets, List.length_append] at fuel
    obtain ⟨m, rfl⟩ : ∃ m, n = m + (String.utf8EncodeChar c).length :=
      ⟨n - (String.utf8EncodeChar c).length, by omega⟩
    exact ⟨m, by omega, by rw [octets, readTextBytes_run plain]⟩

/-- A written text is read up to its closing quote. -/
theorem readTextBytes_quoted (s : List Char) (acc rest : List UInt8) {n : Nat}
    (fuel : (encode (s.flatMap escapeChar) ++ 0x22 :: rest).length < n) :
    readTextBytes acc n (encode (s.flatMap escapeChar) ++ 0x22 :: rest) =
      .ok (acc.reverse ++ encode s, rest) := by
  induction s generalizing acc n with
  | nil =>
    obtain ⟨n, rfl⟩ : ∃ k, n = k + 1 := ⟨n - 1, by omega⟩
    simp [readTextBytes, encode]
  | cons c s ih =>
    rw [List.flatMap_cons, encode_append, List.append_assoc] at fuel ⊢
    obtain ⟨m, more, read⟩ := readTextBytes_escapeChar c acc _ fuel
    rw [read, ih _ more, encode_cons]
    simp

theorem readText_quoted (s : String) (rest : List UInt8) :
    readText (encode (s.toList.flatMap escapeChar) ++ 0x22 :: rest) = .ok (s, rest) := by
  rw [readText, readTextBytes_quoted s.toList [] rest (Nat.lt_succ_self _)]
  simp only [List.reverse_nil, List.nil_append, Utf8.decode?, Utf8.decode_encode,
    String.ofList_toList]

end SoapGateway.Json
