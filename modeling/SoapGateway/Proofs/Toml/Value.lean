import SoapGateway.Proofs.Text.Blank
import SoapGateway.Proofs.Text.Decimal
import SoapGateway.Toml.Sheet

/-!
# Written values are read back

Whatever is written for a text between double quotes, with whichever escapes, is read back as that
text; so are whole numbers and truth values, before anything that may follow a value on its line.
-/
namespace SoapGateway.Toml

open Text (isDigit digits digits_front digits_shape digitValue? hexValue? ne_of_isDigit valueOf)

variable {s t rest : List Char}

/-- What holds of listed characters is checked on these, not on all characters. -/
theorem forall_listed {P : Char → Prop} [DecidablePred P] {l : List Char}
    (each : l.all (fun c => decide (P c)) = true) : ∀ c ∈ l, P c := by
  intro c member
  exact of_decide_eq_true (List.all_eq_true.mp each c member)

theorem Halts.cons {c : Char} (halts : Halts (c :: rest)) :
    c ∈ [' ', '\t', '#', '\n', '\r'] := by
  have first := halts c rfl
  simpa [isBlank, or_assoc] using first

theorem Halts.ne {c d : Char} (halts : Halts (c :: rest))
    (foreign : d ∉ [' ', '\t', '#', '\n', '\r']) : c ≠ d := by
  rintro rfl
  exact foreign halts.cons

/-- Nothing that follows a value belongs to it. -/
theorem Halts.head {p : Char → Bool} (halts : Halts rest)
    (none : ∀ c ∈ [' ', '\t', '#', '\n', '\r'], p c = false) : ∀ c ∈ rest.head?, p c = false := by
  cases rest with
  | nil => simp
  | cons c rest =>
    intro d first
    obtain rfl : c = d := by simpa using first
    exact none c halts.cons

/-! ## Texts -/

theorem hexEscape_point {c : Char} {hex : List Char} (rest : List Char)
    (digits : ∀ d ∈ hex, (hexValue? d).isSome = true) (names : valueOf 16 hex = c.toNat) :
    hexEscape hex.length (hex ++ rest) = some (c, rest) := by
  have point : codePoint? hex = some c := by
    have valid : c.toNat.isValidChar := c.valid
    rw [codePoint?, names, if_pos valid, Char.ofNat_toNat]
  rw [hexEscape, List.take_left, List.drop_left, if_pos ⟨rfl, List.all_eq_true.mpr digits⟩, point,
    Option.map_some]

/-- A spelling of a character is read as that character. -/
theorem basicFrom_spells {c : Char} (spells : Spells c t) (n : Nat) (rest : List Char) :
    basicFrom (n + 1) (t ++ rest) = andThen [c] (basicFrom n rest) := by
  cases spells with
  | plain basic =>
    have quote : c ≠ '"' := by
      rintro rfl
      exact absurd basic (by decide)
    have slash : c ≠ '\\' := by
      rintro rfl
      exact absurd basic (by decide)
    rw [List.singleton_append, basicFrom, if_neg quote, if_neg slash, if_pos basic]
  | @short letter known =>
    have read : escape (letter :: rest) = some (c, rest) := by
      simp only [shortEscapes, List.mem_cons, Prod.mk.injEq, List.not_mem_nil, or_false] at known
      rcases known with known | known | known | known | known | known | known <;>
        obtain ⟨rfl, rfl⟩ := known <;> rfl
    rw [List.cons_append, List.singleton_append, basicFrom, if_neg (by decide), if_pos rfl, read]
  | @point letter hex known digits names =>
    have read : escape (letter :: (hex ++ rest)) = some (c, rest) := by
      have point := hexEscape_point rest digits names
      simp only [pointEscapes, List.mem_cons, Prod.mk.injEq, List.not_mem_nil, or_false] at known
      rcases known with ⟨rfl, width⟩ | ⟨rfl, width⟩
      · rw [width] at point
        exact point
      · rw [width] at point
        exact point
    rw [List.cons_append, List.cons_append, basicFrom, if_neg (by decide), if_pos rfl, read]

theorem Spells.length_pos {c : Char} (spells : Spells c t) : 0 < t.length := by
  cases spells <;> simp

theorem basicFrom_writes (writes : Writes s t) (rest : List Char) {n : Nat}
    (enough : t.length < n) : basicFrom n (t ++ '"' :: rest) = some (s, rest) := by
  induction writes generalizing n with
  | nil =>
    obtain ⟨n, rfl⟩ : ∃ m, n = m + 1 := ⟨n - 1, by omega⟩
    rw [List.nil_append, basicFrom, if_pos rfl]
  | @cons c s t u spells _ ih =>
    have positive := spells.length_pos
    rw [List.length_append] at enough
    obtain ⟨n, rfl⟩ : ∃ m, n = m + 1 := ⟨n - 1, by omega⟩
    rw [List.append_assoc, basicFrom_spells spells, ih (by omega)]
    rfl

/-- Between double quotes a text is read back as it was, whatever follows. -/
theorem basic_writes (writes : Writes s t) (rest : List Char) :
    basic (t ++ '"' :: rest) = some (s, rest) := by
  apply basicFrom_writes writes
  simp only [List.length_append, List.length_cons]
  omega

/-- No spelling begins with a quote. -/
theorem Writes.head (writes : Writes s t) : '"' ∉ t.head? := by
  cases writes with
  | nil => simp
  | cons spells _ =>
    cases spells with
    | plain basic =>
      simp only [List.singleton_append, List.head?_cons, Option.mem_def, Option.some.injEq]
      rintro rfl
      exact absurd basic (by decide)
    | short => simp
    | point => simp

theorem string_writes (writes : Writes s t) (halts : Halts rest) :
    string ('"' :: (t ++ '"' :: rest)) = some (s, rest) := by
  have read := basic_writes writes rest
  cases t with
  | nil =>
    cases rest with
    | nil => exact read
    | cons c rest =>
      have quote : c ≠ '"' := halts.ne (by decide)
      rw [List.nil_append, string]
      · exact read
      · simpa using quote
  | cons c t =>
    have quote : c ≠ '"' := fun same => writes.head (by simp [same])
    rw [List.cons_append, string]
    · exact read
    · intro rest' same
      injection same with first
      exact quote first

/-! ## Numbers -/

theorem Halts.digitValue? {c : Char} (halts : Halts (c :: rest)) : digitValue? c = none := by
  have table : ∀ d ∈ [' ', '\t', '#', '\n', '\r'], Text.digitValue? d = none :=
    forall_listed (by decide)
  exact table c halts.cons

theorem Halts.isDigit {c : Char} (halts : Halts (c :: rest)) : isDigit c = false := by
  rw [Text.isDigit, halts.digitValue?, Option.isSome_none]

/-- Digits are taken to the end of their run. -/
theorem moreDigits_run (run : ∀ c ∈ t, isDigit c = true) (halts : Halts rest) :
    moreDigits isDigit (t ++ rest) = (t, rest) := by
  induction t with
  | nil =>
    cases rest with
    | nil => rfl
    | cons c rest =>
      have score : c ≠ '_' := halts.ne (by decide)
      rw [List.nil_append, moreDigits, if_neg (by simp [halts.isDigit])]
      exact fun _ _ same => absurd same score
  | cons c t ih =>
    obtain ⟨digit, run⟩ := List.forall_mem_cons.mp run
    have score : c ≠ '_' := ne_of_isDigit digit (by decide)
    rw [List.cons_append, moreDigits, if_pos digit, ih run]
    exact fun _ _ same => absurd same score

theorem digitRun_run {c : Char} (run : ∀ d ∈ c :: t, isDigit d = true) (halts : Halts rest) :
    digitRun isDigit (c :: t ++ rest) = some (c :: t, rest) := by
  obtain ⟨digit, run⟩ := List.forall_mem_cons.mp run
  rw [List.cons_append, digitRun, if_pos digit, moreDigits_run run halts]

/-- Two digits of a run leave the rest of it. -/
theorem twoDigits_run (run : ∀ c ∈ t, isDigit c = true) (halts : Halts rest) (low high : Nat) :
    twoDigits low high (t ++ rest) = none ∨ ∃ n u, (∀ c ∈ u, isDigit c = true) ∧
      twoDigits low high (t ++ rest) = some (n, u ++ rest) := by
  rcases t with _ | ⟨a, _ | ⟨b, t⟩⟩
  · left
    rcases rest with _ | ⟨c, _ | ⟨d, rest⟩⟩
    · rfl
    · rfl
    · rw [List.nil_append, twoDigits, halts.digitValue?]
  · left
    rcases rest with _ | ⟨c, rest⟩
    · rfl
    · rw [List.singleton_append, twoDigits, halts.digitValue?]
      cases digitValue? a <;> rfl
  · obtain ⟨first, run⟩ := List.forall_mem_cons.mp run
    obtain ⟨second, run⟩ := List.forall_mem_cons.mp run
    obtain ⟨x, tens⟩ := Option.isSome_iff_exists.mp first
    obtain ⟨y, ones⟩ := Option.isSome_iff_exists.mp second
    simp only [List.cons_append, twoDigits, tens, ones]
    split
    · exact .inr ⟨_, t, run, rfl⟩
    · exact .inl rfl

/-- No sign stands in a run of digits or right behind it. -/
theorem after?_run {sign : Char} (run : ∀ c ∈ t, isDigit c = true) (halts : Halts rest)
    (known : sign ∈ ['-', ':']) : after? sign (t ++ rest) = none := by
  cases t with
  | nil =>
    cases rest with
    | nil => rfl
    | cons c rest =>
      have table : ∀ d ∈ ['-', ':'], d ∉ [' ', '\t', '#', '\n', '\r'] :=
        forall_listed (by decide)
      rw [List.nil_append, after?, if_neg (halts.ne (table sign known))]
  | cons c t =>
    have table : ∀ d ∈ ['-', ':'], isDigit d = false := forall_listed (by decide)
    have digit := run c List.mem_cons_self
    rw [List.cons_append, after?, if_neg (ne_of_isDigit digit (table sign known))]

theorem moment_run (run : ∀ c ∈ t, isDigit c = true) (halts : Halts rest) :
    moment (t ++ rest) = none := by
  have date : date? (t ++ rest) = none := by
    unfold date?
    rcases twoDigits_run run halts 0 99 with none | ⟨n, u, run, some⟩
    · rw [none]
      rfl
    · rcases twoDigits_run run halts 0 99 with none' | ⟨n', u', run', some'⟩
      · simp [some, none']
      · simp [some, some', after?_run run' halts]
  have time : time? (t ++ rest) = none := by
    unfold time?
    rcases twoDigits_run run halts 0 23 with none | ⟨n, u, run, some⟩
    · simp [none]
    · simp [some, after?_run run halts]
  rw [moment, date, time, Option.map_none]

theorem wholeDigits_digits (n : Nat) (halts : Halts rest) :
    wholeDigits (digits n ++ rest) = some (digits n, rest) := by
  obtain ⟨c, t, shape, leading⟩ := digits_shape n
  have run := Text.isDigit_digits n
  rw [shape] at run ⊢
  by_cases zero : c = '0'
  · rw [leading zero, zero]
    rfl
  · rw [List.cons_append, wholeDigits, ← List.cons_append, digitRun_run run halts]
    exact fun _ same => zero (List.cons.inj same).1

theorem decimal_digits {n : Nat} (fits : n < Number.twoPow 63) (halts : Halts rest) :
    decimal false (digits n ++ rest) = some (.integer n, rest) := by
  have part : fraction rest = some ([], rest) := by
    unfold fraction
    split
    · exact absurd halts.cons (by decide)
    · rfl
  have power : exponent rest = some (0, rest) := by
    cases rest with
    | nil => rfl
    | cons c rest =>
      rw [exponent, if_neg]
      rintro (same | same)
      · exact halts.ne (by decide) same
      · exact halts.ne (by decide) same
  rw [decimal, wholeDigits_digits n halts]
  dsimp only
  rw [part]
  dsimp only
  rw [power]
  dsimp only
  rw [if_pos rfl, integerOf, Text.valueOf_digits, if_pos (.inl fits)]
  rfl

/-- What begins with a digit is a number in the decimal system, if no letter follows a zero. -/
theorem number_digit {c : Char} (digit : isDigit c = true)
    (plain : c = '0' → ∀ d ∈ t.head?, d ∉ ['x', 'o', 'b']) :
    number (c :: t) = decimal false (c :: t) := by
  have other {d : Char} (foreign : isDigit d = false) : c ≠ d := ne_of_isDigit digit foreign
  unfold number
  split
  · next same =>
    obtain ⟨zero, rfl⟩ := List.cons.inj same
    exact absurd (plain zero 'x' rfl) (by decide)
  · next same =>
    obtain ⟨zero, rfl⟩ := List.cons.inj same
    exact absurd (plain zero 'o' rfl) (by decide)
  · next same =>
    obtain ⟨zero, rfl⟩ := List.cons.inj same
    exact absurd (plain zero 'b' rfl) (by decide)
  · have unsigned : takeSign (c :: t) = (false, c :: t) := by
      unfold takeSign
      split
      · next same => exact absurd (List.cons.inj same).1 (other (by decide))
      · next same => exact absurd (List.cons.inj same).1 (other (by decide))
      · rfl
    rw [unsigned]
    split
    · next same => exact absurd (List.cons.inj (Prod.mk.inj same).2).1 (other (by decide))
    · next same => exact absurd (List.cons.inj (Prod.mk.inj same).2).1 (other (by decide))
    · next same =>
      obtain ⟨rfl, rfl⟩ := Prod.mk.inj same
      rfl

theorem numberOrMoment_digits {n : Nat} (fits : n < Number.twoPow 63) (halts : Halts rest) :
    numberOrMoment (digits n ++ rest) = some (.integer n, rest) := by
  rw [numberOrMoment, moment_run (Text.isDigit_digits n) halts]
  dsimp only
  rw [← decimal_digits fits halts]
  obtain ⟨c, t, shape, leading⟩ := digits_shape n
  have digit : isDigit c = true := Text.isDigit_digits n c (by simp [shape])
  rw [shape, List.cons_append]
  apply number_digit digit
  intro zero d first
  rw [leading zero, List.nil_append] at first
  simpa using halts.head (p := fun d => d ∈ ['x', 'o', 'b'])
    (forall_listed (by decide)) d first

/-- Written values are read back, before whatever halts them. -/
theorem topValue_isValue {v : Value} (isValue : IsValue v t) (halts : Halts rest) :
    topValue (t ++ rest) = some (v, rest) := by
  cases isValue with
  | text writes =>
    rw [List.append_assoc, List.cons_append, List.singleton_append, topValue, value.eq_def]
    dsimp only
    rw [if_pos (.inl rfl), string_writes writes halts, Option.map_some]
  | @integer n fits =>
    obtain ⟨c, t, shape, digit⟩ := digits_front n
    have other {d : Char} (foreign : isDigit d = false) : c ≠ d := ne_of_isDigit digit foreign
    have read := numberOrMoment_digits fits halts
    rw [shape] at read ⊢
    rw [List.cons_append, topValue, value.eq_def]
    dsimp only
    rw [if_neg, if_neg (other (by decide)), if_neg (other (by decide))]
    · split
      · next same => exact absurd (List.cons.inj same).1 (other (by decide))
      · next same => exact absurd (List.cons.inj same).1 (other (by decide))
      · exact read
    · rintro (same | same)
      · exact other (by decide) same
      · exact other (by decide) same
  | yes => rfl
  | no => rfl
  | other known => exact known rest halts

end SoapGateway.Toml
