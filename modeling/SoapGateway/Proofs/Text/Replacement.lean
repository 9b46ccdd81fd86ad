import SoapGateway.Proofs.Text.Utf8

/-!
# Octets that tolerant reading tells apart

Tolerant reading loses what malformed pieces were made of. It tells two texts apart, and it tells a
text without the replacement character apart from all other octets. Every other sequence of octets
reads like one that it is not.
-/
namespace SoapGateway.Utf8

/-- Octets that write a text. -/
def IsText (input : List UInt8) : Prop := ∃ s, input = encode s

/-- Octets that write a text in which no replacement character occurs. -/
def IsPlain (input : List UInt8) : Prop := ∃ s, Char.ofNat 0xFFFD ∉ s ∧ input = encode s

/-- Two sequences of octets whose tolerant readings differ if they do. -/
def ToldApart (a b : List UInt8) : Prop := (IsText a ∧ IsText b) ∨ IsPlain a ∨ IsPlain b

theorem encode_lossy {a : List UInt8} (text : IsText a) : encode (lossy a) = a := by
  obtain ⟨s, rfl⟩ := text
  rw [lossy_encode]

theorem isText_iff {a : List UInt8} : IsText a ↔ encode (lossy a) = a :=
  ⟨encode_lossy, fun back => ⟨lossy a, back.symm⟩⟩

/-- Where nothing was replaced, every piece was a character. -/
theorem isText_of_unmarked {a : List UInt8} (unmarked : Char.ofNat 0xFFFD ∉ lossy a) :
    IsText a := by
  induction size : a.length using Nat.strongRecOn generalizing a with
  | ind n ih =>
    cases a with
    | nil => exact ⟨[], rfl⟩
    | cons b input =>
      obtain ⟨c, rest, taken⟩ := taken_cons b input
      have shorter := (taken_suffix taken).length_le
      rw [lossy_of_taken taken, List.mem_cons, not_or] at unmarked
      obtain ⟨first, later⟩ := unmarked
      cases step : next (b :: input) with
      | done => cases eq_nil_of_next step
      | malformed length atEnd rest' =>
        rw [step] at taken
        cases taken
        exact absurd rfl first
      | char d rest' =>
        rw [step] at taken
        cases taken
        have bound : rest.length < n := by
          rw [← size, List.length_cons]
          omega
        obtain ⟨s, rfl⟩ := ih rest.length bound later rfl
        refine ⟨d :: s, ?_⟩
        rw [encode_cons]
        exact eq_encodeChar_of_next step

theorem IsPlain.isText {a : List UInt8} (plain : IsPlain a) : IsText a := by
  obtain ⟨s, _, written⟩ := plain
  exact ⟨s, written⟩

theorem IsPlain.unmarked {a : List UInt8} (plain : IsPlain a) : Char.ofNat 0xFFFD ∉ lossy a := by
  obtain ⟨s, unmarked, rfl⟩ := plain
  rwa [lossy_encode]

theorem eq_of_texts {a b : List UInt8} (ha : IsText a) (hb : IsText b)
    (same : lossy a = lossy b) : a = b := by
  rw [← encode_lossy ha, same, encode_lossy hb]

theorem IsPlain.eq_of_lossy {a b : List UInt8} (plain : IsPlain a) (same : lossy b = lossy a) :
    b = a := by
  have text : IsText b := by
    apply isText_of_unmarked
    rw [same]
    exact plain.unmarked
  exact eq_of_texts text plain.isText same

theorem ToldApart.eq_of_lossy {a b : List UInt8} (told : ToldApart a b)
    (same : lossy a = lossy b) : a = b := by
  rcases told with ⟨ha, hb⟩ | plain | plain
  · exact eq_of_texts ha hb same
  · exact (plain.eq_of_lossy same.symm).symm
  · exact plain.eq_of_lossy same

/-- The octet `0xFF` begins no character, and goes on with none. -/
theorem lossy_bad (rest : List UInt8) : lossy (0xFF :: rest) = Char.ofNat 0xFFFD :: lossy rest :=
  lossy_of_taken (c := none) rfl

theorem fresh_bad (rest : List UInt8) : Fresh (0xFF :: rest) := by
  intro b first
  cases first
  rfl

/-- Octets that write no text, or a replacement character, read like some others. -/
theorem exists_lossy_eq {a : List UInt8} (shared : ¬ IsPlain a) :
    ∃ b, b ≠ a ∧ lossy b = lossy a := by
  by_cases text : IsText a
  · obtain ⟨s, rfl⟩ := text
    have marked : Char.ofNat 0xFFFD ∈ s := by
      by_contra unmarked
      exact shared ⟨s, unmarked, rfl⟩
    obtain ⟨p, q, rfl⟩ := List.append_of_mem marked
    refine ⟨encode p ++ 0xFF :: encode q, ?_, ?_⟩
    · rw [encode_append, encode_cons]
      intro same
      have octets : String.utf8EncodeChar (Char.ofNat 0xFFFD) = [0xEF, 0xBF, 0xBD] := by decide
      rw [octets] at same
      have first := (List.cons.inj (List.append_cancel_left same)).1
      exact absurd first (by decide)
    · rw [lossy_append (fresh_bad _), lossy_bad, lossy_encode, lossy_encode, lossy_encode]
  · refine ⟨encode (lossy a), ?_, lossy_encode _⟩
    intro same
    exact text (isText_iff.mpr same)

/-- Exactly the texts without the replacement character are alone in how they read. -/
theorem isPlain_iff_alone {a : List UInt8} : IsPlain a ↔ ∀ b, lossy b = lossy a → b = a := by
  constructor
  · intro plain b same
    exact plain.eq_of_lossy same
  · intro alone
    by_contra shared
    obtain ⟨b, other, same⟩ := exists_lossy_eq shared
    exact other (alone b same)

end SoapGateway.Utf8
