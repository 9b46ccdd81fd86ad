import SoapGateway.Json.Reader
import SoapGateway.Proofs.Text.Utf8

/-!
# Alike inputs

Inputs are alike when tolerant reading cannot tell them apart: they differ at most in octets that
are no characters. Only octets of ASCII steer a reader of JSON, so it goes the same way through
alike inputs, and where it is at rest they are alike again.
-/
namespace SoapGateway.Json

open Utf8 (lossy Fresh)

/-- A list has one beginning of which `p` holds up to where it first fails. -/
theorem parts_eq {α : Type} (p : α → Prop) {u v s t : List α} (hu : ∀ x ∈ u, p x)
    (hv : ∀ x ∈ v, p x) (hs : ∀ x ∈ s.head?, ¬ p x) (ht : ∀ x ∈ t.head?, ¬ p x)
    (eq : u ++ s = v ++ t) : u = v ∧ s = t := by
  induction u generalizing v with
  | nil =>
    cases v with
    | nil => exact ⟨rfl, eq⟩
    | cons y v =>
      rw [List.nil_append] at eq
      exact absurd (hv y (by simp)) (hs y (by simp [eq]))
  | cons x u ih =>
    cases v with
    | nil =>
      rw [List.nil_append] at eq
      exact absurd (hu x (by simp)) (ht x (by simp [← eq]))
    | cons y v =>
      rw [List.cons_append, List.cons_append, List.cons.injEq] at eq
      obtain ⟨rfl, rest⟩ := ih (fun z h => hu z (by simp [h])) (fun z h => hv z (by simp [h])) eq.2
      exact ⟨by rw [eq.1], rest⟩

theorem head?_lossy {s : List UInt8} (ascii : ∀ x ∈ s.head?, x.toNat < 0x80) :
    ∀ c ∈ (lossy s).head?, ¬ 0x80 ≤ c.toNat := by
  intro c first
  cases s with
  | nil => cases first
  | cons x s =>
    have low : x.toNat < 0x80 := ascii x rfl
    rw [Utf8.lossy_ascii low] at first
    cases first
    rw [Utf8.toNat_ofNat (.inl (by omega))]
    omega

theorem fresh_of_head {s : List UInt8} (ascii : ∀ x ∈ s.head?, x.toNat < 0x80) : Fresh s := by
  cases s with
  | nil => exact fun _ first => by cases first
  | cons x s => exact Utf8.fresh_of_ascii (ascii x rfl)

/-- The octets beyond ASCII at the front, and what follows them. -/
theorem exists_run (a : List UInt8) :
    ∃ u s, a = u ++ s ∧ (∀ x ∈ u, 0x80 ≤ x.toNat) ∧ (∀ x ∈ s.head?, x.toNat < 0x80) := by
  induction a with
  | nil => exact ⟨[], [], rfl, by simp, by simp⟩
  | cons x a ih =>
    by_cases low : x.toNat < 0x80
    · exact ⟨[], x :: a, rfl, by simp, by simpa using low⟩
    · obtain ⟨u, s, rfl, high, ascii⟩ := ih
      refine ⟨x :: u, s, rfl, fun y member => ?_, ascii⟩
      rcases List.mem_cons.mp member with rfl | member
      · omega
      · exact high y member

/-- Inputs that tolerant reading cannot tell apart. -/
def Alike (a b : List UInt8) : Prop := lossy a = lossy b

namespace Alike

theorem cons_ascii {x : UInt8} {a b : List UInt8} (low : x.toNat < 0x80) :
    Alike (x :: a) (x :: b) ↔ Alike a b := by
  simp only [Alike, Utf8.lossy_ascii low, List.cons.injEq, true_and]

/-- Alike inputs both end, both go on with the same octet of ASCII, or both with one beyond it. -/
theorem head {a b : List UInt8} (h : Alike a b) :
    (a = [] ∧ b = []) ∨
    (∃ x s t, x.toNat < 0x80 ∧ a = x :: s ∧ b = x :: t ∧ Alike s t) ∨
    (∃ x s y t, 0x80 ≤ x.toNat ∧ 0x80 ≤ y.toNat ∧ a = x :: s ∧ b = y :: t) := by
  have first : ∀ (x : UInt8) (s : List UInt8), ∃ c l, lossy (x :: s) = c :: l ∧
      (x.toNat < 0x80 → c.toNat = x.toNat ∧ l = lossy s) ∧ (0x80 ≤ x.toNat → 0x80 ≤ c.toNat) := by
    intro x s
    by_cases low : x.toNat < 0x80
    · have valid : (x.toNat).isValidChar := .inl (by omega)
      exact ⟨_, _, Utf8.lossy_ascii low, fun _ => ⟨Utf8.toNat_ofNat valid, rfl⟩,
        fun high => absurd low (by omega)⟩
    · obtain ⟨c, rest, eq, high, _⟩ := Utf8.lossy_cons_high (u := s) (Nat.le_of_not_lt low)
      exact ⟨c, _, eq, fun low' => absurd low' low, fun _ => high⟩
  cases a with
  | nil =>
    cases b with
    | nil => exact .inl ⟨rfl, rfl⟩
    | cons y t =>
      obtain ⟨c, l, eq, _, _⟩ := first y t
      rw [Alike, eq] at h
      cases h
  | cons x s =>
    cases b with
    | nil =>
      obtain ⟨c, l, eq, _, _⟩ := first x s
      rw [Alike, eq] at h
      cases h
    | cons y t =>
      obtain ⟨c, l, eq, low, high⟩ := first x s
      obtain ⟨d, m, eq', low', high'⟩ := first y t
      rw [Alike, eq, eq', List.cons.injEq] at h
      obtain ⟨rfl, rfl⟩ := h
      by_cases hx : x.toNat < 0x80
      · have hy : y.toNat < 0x80 := by
          by_contra hy
          have := high' (by omega)
          rw [(low hx).1] at this
          omega
        obtain rfl : x = y := UInt8.toNat_inj.mp ((low hx).1.symm.trans (low' hy).1)
        exact .inr (.inl ⟨x, s, t, hx, rfl, rfl, (low hx).2.symm.trans (low' hy).2⟩)
      · have hy : 0x80 ≤ y.toNat := by
          by_contra hy
          have := high (by omega)
          rw [(low' (by omega)).1] at this
          omega
        exact .inr (.inr ⟨x, s, y, t, by omega, hy, rfl, rfl⟩)

theorem symm {a b : List UInt8} (h : Alike a b) : Alike b a := Eq.symm h

theorem nil {b : List UInt8} (h : Alike [] b) : b = [] := by
  rcases h.head with ⟨_, rfl⟩ | ⟨_, _, _, _, e, _⟩ | ⟨_, _, _, _, _, _, e, _⟩
  · rfl
  · cases e
  · cases e

/-- An octet of ASCII at the front of one input is at the front of the other. -/
theorem cons {x : UInt8} {a b : List UInt8} (h : Alike (x :: a) b) (low : x.toNat < 0x80) :
    ∃ t, b = x :: t ∧ Alike a t := by
  rcases h.head with ⟨e, _⟩ | ⟨_, _, t, _, e, rfl, rest⟩ | ⟨_, _, _, _, high, _, e, _⟩
  · cases e
  · cases e
    exact ⟨t, rfl, rest⟩
  · cases e
    omega

theorem dropWhile {a b : List UInt8} (p : UInt8 → Bool) (ascii : ∀ x, p x = true → x.toNat < 0x80)
    (h : Alike a b) : Alike (a.dropWhile p) (b.dropWhile p) := by
  have plain : ∀ x : UInt8, 0x80 ≤ x.toNat → p x = false := by
    intro x high
    by_contra hp
    have := ascii x (by simpa using hp)
    omega
  induction a generalizing b with
  | nil => rw [h.nil]; rfl
  | cons x a ih =>
    rcases h.head with ⟨e, _⟩ | ⟨_, _, t, _, e, rfl, rest⟩ | ⟨_, _, y, t, hx, hy, e, rfl⟩
    · cases e
    · cases e
      by_cases hp : p x = true
      · simpa only [List.dropWhile_cons, hp, if_true] using ih rest
      · rw [Bool.not_eq_true] at hp
        simpa [List.dropWhile_cons, hp] using h
    · cases e
      simpa [List.dropWhile_cons, plain x hx, plain y hy] using h

theorem skipBlanks {a b : List UInt8} (h : Alike a b) :
    Alike (skipBlanks a) (Json.skipBlanks b) := by
  refine h.dropWhile _ fun x hx => ?_
  simp only [isBlankByte, Bool.or_eq_true, beq_iff_eq] at hx
  rcases hx with ((rfl | rfl) | rfl) | rfl <;> decide

theorem skipDigits {a b : List UInt8} (h : Alike a b) :
    Alike (skipDigits a) (Json.skipDigits b) := by
  refine h.dropWhile _ fun x hx => ?_
  simp only [isDigitByte, Bool.and_eq_true, decide_eq_true_eq] at hx
  have := UInt8.le_iff_toNat_le.mp hx.2
  have l : (57 : UInt8).toNat = 57 := rfl
  omega

/-- Alike inputs both end, both go on with the same octet of ASCII, or both with octets beyond ASCII
that read alike, up to an octet of ASCII or the end. -/
theorem split {a b : List UInt8} (h : Alike a b) :
    (a = [] ∧ b = []) ∨
    (∃ x s t, x.toNat < 0x80 ∧ a = x :: s ∧ b = x :: t ∧ Alike s t) ∨
    (∃ u v s t, u ≠ [] ∧ (∀ x ∈ u, 0x80 ≤ x.toNat) ∧ (∀ x ∈ v, 0x80 ≤ x.toNat) ∧
      (∀ x ∈ s.head?, x.toNat < 0x80) ∧ (∀ x ∈ t.head?, x.toNat < 0x80) ∧
      a = u ++ s ∧ b = v ++ t ∧ lossy u = lossy v ∧ Alike s t) := by
  rcases h.head with none | same | ⟨x, s, y, t, hx, hy, rfl, rfl⟩
  · exact .inl none
  · exact .inr (.inl same)
  · obtain ⟨u, s', first, hu, hs⟩ := exists_run (x :: s)
    obtain ⟨v, t', second, hv, ht⟩ := exists_run (y :: t)
    have begun : u ≠ [] := by
      rintro rfl
      rw [List.nil_append] at first
      have := hs x (by rw [← first]; rfl)
      omega
    have whole : lossy u ++ lossy s' = lossy v ++ lossy t' := by
      rw [← Utf8.lossy_append (fresh_of_head hs), ← Utf8.lossy_append (fresh_of_head ht),
        ← first, ← second]
      exact h
    obtain ⟨runs, rests⟩ := parts_eq (0x80 ≤ Char.toNat ·) (Utf8.lossy_high hu)
      (Utf8.lossy_high hv) (head?_lossy hs) (head?_lossy ht) whole
    exact .inr (.inr ⟨u, v, s', t', begun, hu, hv, hs, ht, first, second, runs, rests⟩)

end Alike

/-- Readers that take the same value from alike inputs, and leave alike inputs. -/
def Steady {α : Type} (f : Reader α) : Prop :=
  ∀ ⦃a b s t : List UInt8⦄ ⦃x y : α⦄, Alike a b → f a = .ok (x, s) → f b = .ok (y, t) →
    x = y ∧ Alike s t

/-- An octet beyond ASCII is no octet of ASCII. -/
theorem ne_of_high {x c : UInt8} (high : 0x80 ≤ x.toNat) (low : c.toNat < 0x80) : x ≠ c := by
  rintro rfl
  omega

theorem readWord_alike {w a b s t : List UInt8} (ascii : ∀ x ∈ w, x.toNat < 0x80)
    (alike : Alike a b) (ha : readWord w a = .ok s) (hb : readWord w b = .ok t) : Alike s t := by
  induction w generalizing a b with
  | nil =>
    cases ha
    cases hb
    exact alike
  | cons e w ih =>
    cases a with
    | nil => cases ha
    | cons x a =>
      unfold readWord at ha
      split at ha
      · next same =>
        subst same
        obtain ⟨b, rfl, rest⟩ := alike.cons (ascii x (by simp))
        simp only [readWord, if_true] at hb
        exact ih (fun y member => ascii y (by simp [member])) rest ha hb
      · cases ha

theorem lettersAfter_ascii {w : String} (ascii : ∀ c ∈ w.toList, c.toNat < 0x80) :
    ∀ x ∈ lettersAfter w, x.toNat < 0x80 := by
  intro x member
  obtain ⟨c, inside, octet⟩ := List.mem_flatMap.mp (List.mem_of_mem_drop member)
  rw [Utf8.encodeChar_ascii (ascii c inside), List.mem_singleton] at octet
  rw [octet, Utf8.toNat_octet (by have := ascii c inside; omega)]
  exact ascii c inside

theorem ascii_of_hexByte? {x : UInt8} {n : Nat} (h : hexByte? x = some n) : x.toNat < 0x80 := by
  have same : (Char.ofNat x.toNat).toNat = x.toNat :=
    Utf8.toNat_ofNat (.inl (by have := x.toNat_lt; omega))
  unfold hexByte? Text.hexValue? at h
  have below : ∀ c : Char, c.toNat < 0x80 → Char.ofNat x.toNat ≤ c → x.toNat < 0x80 := by
    intro c low le
    have : (Char.ofNat x.toNat).toNat ≤ c.toNat := le
    omega
  split at h
  · next digit => exact below _ (by decide) digit.2
  · split at h
    · next digit => exact below _ (by decide) digit.2
    · split at h
      · next digit => exact below _ (by decide) digit.2
      · cases h

/-- Readers of a spelling in ASCII, which do not look at what follows it. -/
def Spelled {α : Type} (f : Reader α) : Prop :=
  ∀ ⦃input rest : List UInt8⦄ ⦃x : α⦄, f input = .ok (x, rest) →
    ∃ w, input = w ++ rest ∧ (∀ c ∈ w, c.toNat < 0x80) ∧ ∀ more, f (w ++ more) = .ok (x, more)

theorem Alike.append_ascii {w s b : List UInt8} (h : Alike (w ++ s) b)
    (ascii : ∀ x ∈ w, x.toNat < 0x80) : ∃ t, b = w ++ t ∧ Alike s t := by
  induction w generalizing b with
  | nil => exact ⟨b, rfl, h⟩
  | cons x w ih =>
    obtain ⟨b, rfl, tail⟩ := h.cons (ascii x (by simp))
    obtain ⟨t, rfl, alike⟩ := ih tail fun y member => ascii y (by simp [member])
    exact ⟨t, rfl, alike⟩

theorem Spelled.steady {α : Type} {f : Reader α} (spelled : Spelled f) : Steady f := by
  intro a b s t x y alike ha hb
  obtain ⟨w, rfl, ascii, again⟩ := spelled ha
  obtain ⟨t', rfl, after⟩ := alike.append_ascii ascii
  rw [again t'] at hb
  cases hb
  exact ⟨rfl, after⟩

theorem readUnit_spelled : Spelled readUnit := by
  intro input rest n h
  unfold readUnit at h
  split at h
  · next a b c d rest' =>
    split at h
    · next ha hb hc hd =>
      cases h
      refine ⟨[a, b, c, d], rfl, ?_, fun more => by simp [readUnit, ha, hb, hc, hd]⟩
      simp [ascii_of_hexByte? ha, ascii_of_hexByte? hb, ascii_of_hexByte? hc, ascii_of_hexByte? hd]
    · cases h
  · cases h

theorem readEscapedUnits_spelled : Spelled readEscapedUnits := by
  intro input rest c h
  unfold readEscapedUnits at h
  cases first : readUnit input with
  | error f => simp [first] at h
  | ok r =>
    obtain ⟨n, after⟩ := r
    obtain ⟨w, rfl, ascii, again⟩ := readUnit_spelled first
    simp only [first] at h
    split at h
    · cases h
    · next high =>
      split at h
      · next single =>
        cases h
        exact ⟨w, rfl, ascii, fun more => by simp [readEscapedUnits, again, high, single]⟩
      · next pair =>
        split at h
        · cases h
        · next b after' =>
          split at h
          · cases h
          · next slash =>
            split at h
            · cases h
            · next b' after'' =>
              split at h
              · cases h
              · next u =>
                cases second : readUnit after'' with
                | error f => simp [second] at h
                | ok r =>
                  obtain ⟨low, after⟩ := r
                  obtain ⟨w', rfl, ascii', again'⟩ := readUnit_spelled second
                  simp only [second] at h
                  split at h
                  · cases h
                  · next fits =>
                    rw [Except.ok.injEq, Prod.mk.injEq] at h
                    obtain ⟨rfl, rfl⟩ := h
                    rw [not_not] at slash u
                    subst slash u
                    refine ⟨w ++ 0x5C :: 0x75 :: w', by simp, ?_, fun more => ?_⟩
                    · intro x member
                      simp only [List.mem_append, List.mem_cons] at member
                      rcases member with member | rfl | rfl | member
                      · exact ascii x member
                      · decide
                      · decide
                      · exact ascii' x member
                    · unfold readEscapedUnits
                      rw [List.append_assoc, again]
                      dsimp only
                      rw [if_neg high, if_neg pair, List.cons_append, List.cons_append]
                      dsimp only
                      rw [if_neg (not_not.mpr rfl), if_neg (not_not.mpr rfl), again']
                      exact if_neg fits

theorem ascii_of_simpleEscape? {b : UInt8} {c : Char} (h : simpleEscape? b = some c) :
    b.toNat < 0x80 := by
  by_contra high
  have other : ∀ c : UInt8, c.toNat < 0x80 → b ≠ c := fun c low =>
    ne_of_high (Nat.le_of_not_lt high) low
  unfold simpleEscape? at h
  rw [if_neg (other _ (by decide)), if_neg (other _ (by decide)), if_neg (other _ (by decide)),
    if_neg (other _ (by decide)), if_neg (other _ (by decide)), if_neg (other _ (by decide)),
    if_neg (other _ (by decide)), if_neg (other _ (by decide))] at h
  cases h

theorem readEscape_spelled : Spelled readEscape := by
  intro input rest c h
  unfold readEscape at h
  split at h
  · cases h
  · next b after =>
    split at h
    · next letter =>
      cases h
      refine ⟨[b], rfl, ?_, fun more => by simp [readEscape, letter]⟩
      simpa using ascii_of_simpleEscape? letter
    · next letter =>
      split at h
      · next u =>
        subst u
        obtain ⟨w, rfl, ascii, again⟩ := readEscapedUnits_spelled h
        refine ⟨0x75 :: w, rfl, ?_, fun more => by simp [readEscape, letter, again]⟩
        intro x member
        rcases List.mem_cons.mp member with rfl | member
        · decide
        · exact ascii x member
      · cases h

/-- `octets` are what a text that starts at `input` writes, and `rest` follows its closing quote. -/
inductive TextOctets : List UInt8 → List UInt8 → List UInt8 → Prop
  | close (rest : List UInt8) : TextOctets (0x22 :: rest) [] rest
  | escape {input after octets rest : List UInt8} {c : Char}
      (read : readEscape input = .ok (c, after)) (more : TextOctets after octets rest) :
      TextOctets (0x5C :: input) (String.utf8EncodeChar c ++ octets) rest
  | plain {b : UInt8} {input octets rest : List UInt8} (quote : b ≠ 0x22) (slash : b ≠ 0x5C)
      (more : TextOctets input octets rest) : TextOctets (b :: input) (b :: octets) rest

theorem readTextBytes_ok {n : Nat} {acc input bytes rest : List UInt8}
    (h : readTextBytes acc n input = .ok (bytes, rest)) :
    ∃ octets, bytes = acc.reverse ++ octets ∧ TextOctets input octets rest := by
  induction n generalizing acc input with
  | zero => cases h
  | succ n ih =>
    cases input with
    | nil => cases h
    | cons b input =>
      unfold readTextBytes at h
      split at h
      · next quote =>
        subst quote
        cases h
        exact ⟨[], by simp, .close _⟩
      · next quote =>
        split at h
        · next slash =>
          subst slash
          split at h
          · cases h
          · next c after read =>
            obtain ⟨octets, rfl, more⟩ := ih h
            exact ⟨_, by simp, .escape read more⟩
        · next slash =>
          split at h
          · cases h
          · obtain ⟨octets, rfl, more⟩ := ih h
            exact ⟨_, by simp, .plain quote slash more⟩

namespace TextOctets

theorem run {u s octets rest : List UInt8} (high : ∀ x ∈ u, 0x80 ≤ x.toNat)
    (h : TextOctets (u ++ s) octets rest) : ∃ m, octets = u ++ m ∧ TextOctets s m rest := by
  induction u generalizing octets with
  | nil => exact ⟨octets, rfl, h⟩
  | cons x u ih =>
    cases h with
    | close => exact absurd (high _ List.mem_cons_self) (by decide)
    | escape => exact absurd (high _ List.mem_cons_self) (by decide)
    | plain _ _ more =>
      obtain ⟨m, rfl, after⟩ := ih (fun y member => high y (by simp [member])) more
      exact ⟨m, rfl, after⟩

theorem fresh {input octets rest : List UInt8} (ascii : ∀ x ∈ input.head?, x.toNat < 0x80)
    (h : TextOctets input octets rest) : Fresh octets := by
  cases h with
  | close => exact fun _ first => by cases first
  | escape => exact Utf8.fresh_encodeChar_append _ _
  | plain => exact Utf8.fresh_of_ascii (ascii _ rfl)

/-- Texts of alike inputs write octets that read alike, and end in alike inputs. -/
theorem agree {a b m m' s t : List UInt8} (alike : Alike a b) (ha : TextOctets a m s)
    (hb : TextOctets b m' t) : lossy m = lossy m' ∧ Alike s t := by
  induction size : a.length using Nat.strongRecOn generalizing a b m m' with
  | ind n ih =>
    rcases alike.split with ⟨rfl, _⟩ | ⟨x, a, b, low, rfl, rfl, tails⟩ |
      ⟨u, v, a, b, begun, hu, hv, asciiA, asciiB, rfl, rfl, runs, tails⟩
    · cases ha
    · rw [List.length_cons] at size
      cases ha with
      | close =>
        cases hb with
        | close => exact ⟨rfl, tails⟩
        | plain quote => exact absurd rfl quote
      | escape read more =>
        cases hb with
        | escape read' more' =>
          obtain ⟨rfl, after⟩ := readEscape_spelled.steady tails read read'
          obtain ⟨w, rfl, _⟩ := readEscape_spelled read
          rw [List.length_append] at size
          obtain ⟨same, rests⟩ := ih _ (by omega) after more more' rfl
          exact ⟨by rw [Utf8.lossy_encodeChar_append, Utf8.lossy_encodeChar_append, same], rests⟩
        | plain _ slash => exact absurd rfl slash
      | plain quote slash more =>
        cases hb with
        | close => exact absurd rfl quote
        | escape => exact absurd rfl slash
        | plain _ _ more' =>
          obtain ⟨same, rests⟩ := ih _ (by omega) tails more more' rfl
          exact ⟨by rw [Utf8.lossy_ascii low, Utf8.lossy_ascii low, same], rests⟩
    · obtain ⟨m, rfl, more⟩ := ha.run hu
      obtain ⟨m', rfl, more'⟩ := hb.run hv
      have longer := List.length_pos_iff.mpr begun
      rw [List.length_append] at size
      obtain ⟨same, rests⟩ := ih _ (by omega) tails more more' rfl
      refine ⟨?_, rests⟩
      rw [Utf8.lossy_append (more.fresh asciiA), Utf8.lossy_append (more'.fresh asciiB), runs, same]

end TextOctets

theorem readText_ok {input rest : List UInt8} {x : String} (h : readText input = .ok (x, rest)) :
    TextOctets input (Utf8.bytesOf x) rest := by
  unfold readText at h
  split at h
  · cases h
  · next bytes after read =>
    obtain ⟨octets, rfl, more⟩ := readTextBytes_ok read
    unfold Utf8.decode? at h
    split at h
    · next s decoded =>
      cases h
      split at decoded
      · next chars text =>
        cases decoded
        rw [Utf8.bytesOf, String.toList_ofList, ← Utf8.eq_encode_of_decode text]
        exact more
      · cases decoded
    · cases h

theorem readText_steady : Steady readText := by
  intro a b s t x y alike ha hb
  obtain ⟨same, rests⟩ := (readText_ok ha).agree alike (readText_ok hb)
  rw [Utf8.bytesOf, Utf8.bytesOf, Utf8.lossy_encode, Utf8.lossy_encode] at same
  exact ⟨String.toList_inj.mp same, rests⟩

/-- A text that starts at `input` has its closing quote right before `rest`. -/
inductive TextEnds : List UInt8 → List UInt8 → Prop
  | close (rest : List UInt8) : TextEnds (0x22 :: rest) rest
  | letter {e : UInt8} {input rest : List UInt8} {c : Char} (simple : simpleEscape? e = some c)
      (more : TextEnds input rest) : TextEnds (0x5C :: e :: input) rest
  | unit {input after rest : List UInt8} {n : Nat} (read : readUnit input = .ok (n, after))
      (more : TextEnds after rest) : TextEnds (0x5C :: 0x75 :: input) rest
  | plain {b : UInt8} {input rest : List UInt8} (quote : b ≠ 0x22) (slash : b ≠ 0x5C)
      (more : TextEnds input rest) : TextEnds (b :: input) rest

theorem skipText_ok {n : Nat} {input rest : List UInt8} (h : skipText n input = .ok rest) :
    TextEnds input rest := by
  induction n generalizing input with
  | zero => cases h
  | succ n ih =>
    cases input with
    | nil => cases h
    | cons b input =>
      unfold skipText at h
      split at h
      · next quote =>
        subst quote
        cases h
        exact .close _
      · next quote =>
        split at h
        · next slash =>
          subst slash
          split at h
          · cases h
          · next e after =>
            split at h
            · next letter =>
              obtain ⟨c, simple⟩ := Option.isSome_iff_exists.mp letter
              exact .letter simple (ih h)
            · split at h
              · next u =>
                subst u
                split at h
                · cases h
                · next read => exact .unit read (ih h)
              · cases h
        · next slash =>
          split at h
          · cases h
          · exact .plain quote slash (ih h)

namespace TextEnds

theorem run {u s rest : List UInt8} (high : ∀ x ∈ u, 0x80 ≤ x.toNat)
    (h : TextEnds (u ++ s) rest) : TextEnds s rest := by
  induction u with
  | nil => exact h
  | cons x u ih =>
    have first := high x List.mem_cons_self
    rw [List.cons_append] at h
    generalize tail : u ++ s = r at h
    cases h with
    | close => exact absurd first (by decide)
    | letter => exact absurd first (by decide)
    | unit => exact absurd first (by decide)
    | plain _ _ more =>
      subst tail
      exact ih (fun y member => high y (by simp [member])) more

/-- Texts of alike inputs end in alike inputs. -/
theorem agree {a b s t : List UInt8} (alike : Alike a b) (ha : TextEnds a s)
    (hb : TextEnds b t) : Alike s t := by
  induction size : a.length using Nat.strongRecOn generalizing a b with
  | ind n ih =>
    rcases alike.split with ⟨rfl, _⟩ | ⟨x, a, b, low, rfl, rfl, tails⟩ |
      ⟨u, v, a, b, begun, hu, hv, _, _, rfl, rfl, _, tails⟩
    · cases ha
    · rw [List.length_cons] at size
      cases ha with
      | close =>
        cases hb with
        | close => exact tails
        | plain quote => exact absurd rfl quote
      | letter simple more =>
        obtain ⟨b, rfl, after⟩ := tails.cons (ascii_of_simpleEscape? simple)
        rw [List.length_cons] at size
        cases hb with
        | letter _ more' => exact ih _ (by omega) after more more' rfl
        | unit => cases simple
        | plain _ slash => exact absurd rfl slash
      | unit read more =>
        obtain ⟨b, rfl, after⟩ := tails.cons (by decide)
        obtain ⟨w, rfl, _⟩ := readUnit_spelled read
        rw [List.length_cons, List.length_append] at size
        cases hb with
        | letter simple => cases simple
        | unit read' more' =>
          exact ih _ (by omega) (readUnit_spelled.steady after read read').2 more more' rfl
        | plain _ slash => exact absurd rfl slash
      | plain quote slash more =>
        cases hb with
        | close => exact absurd rfl quote
        | letter => exact absurd rfl slash
        | unit => exact absurd rfl slash
        | plain _ _ more' => exact ih _ (by omega) tails more more' rfl
    · have longer := List.length_pos_iff.mpr begun
      rw [List.length_append] at size
      exact ih _ (by omega) tails (ha.run hu) (hb.run hv) rfl

end TextEnds

theorem isDigitByte_ascii {x : UInt8} (digit : isDigitByte x = true) : x.toNat < 0x80 := by
  simp only [isDigitByte, Bool.and_eq_true, decide_eq_true_eq] at digit
  have below := UInt8.le_iff_toNat_le.mp digit.2
  have limit : (0x39 : UInt8).toNat = 57 := rfl
  omega

theorem takeSign_alike {a b : List UInt8} (alike : Alike a b) :
    Alike (takeSign a).2 (takeSign b).2 := by
  unfold takeSign
  split
  · obtain ⟨b, rfl, after⟩ := alike.cons (by decide)
    exact after
  · obtain ⟨b, rfl, after⟩ := alike.cons (by decide)
    exact after
  · next plus minus =>
    split
    · obtain ⟨a, rfl, _⟩ := alike.symm.cons (by decide)
      exact absurd rfl (plus a)
    · obtain ⟨a, rfl, _⟩ := alike.symm.cons (by decide)
      exact absurd rfl (minus a)
    · exact alike

theorem skipExponent_alike {a b s t : List UInt8} (alike : Alike a b)
    (ha : skipExponent a = .ok s) (hb : skipExponent b = .ok t) : Alike s t := by
  have unsigned := takeSign_alike alike
  unfold skipExponent at ha hb
  generalize (takeSign a).2 = a' at unsigned ha
  generalize (takeSign b).2 = b' at unsigned hb
  split at ha
  · cases ha
  · split at ha
    · next digit =>
      obtain ⟨b, rfl, after⟩ := unsigned.cons (isDigitByte_ascii digit)
      simp only [digit, if_true] at hb
      cases ha
      cases hb
      exact after.skipDigits
    · cases ha

/-- An optional exponent and what follows it. -/
theorem skipExponent?_alike {a b s t : List UInt8} (alike : Alike a b)
    (ha : (match a with
      | 0x65 :: rest => skipExponent rest
      | 0x45 :: rest => skipExponent rest
      | rest => .ok rest) = .ok s)
    (hb : (match b with
      | 0x65 :: rest => skipExponent rest
      | 0x45 :: rest => skipExponent rest
      | rest => .ok rest) = .ok t) : Alike s t := by
  split at ha
  · obtain ⟨b, rfl, after⟩ := alike.cons (by decide)
    exact skipExponent_alike after ha hb
  · obtain ⟨b, rfl, after⟩ := alike.cons (by decide)
    exact skipExponent_alike after ha hb
  · next small large =>
    split at hb
    · obtain ⟨a, rfl, _⟩ := alike.symm.cons (by decide)
      exact absurd rfl (small a)
    · obtain ⟨a, rfl, _⟩ := alike.symm.cons (by decide)
      exact absurd rfl (large a)
    · cases ha
      cases hb
      exact alike

theorem skipFractionAndExponent_alike {a b s t : List UInt8} (alike : Alike a b)
    (ha : skipFractionAndExponent a = .ok s) (hb : skipFractionAndExponent b = .ok t) :
    Alike s t := by
  by_cases point : ∃ r, a = 0x2E :: r
  · obtain ⟨a, rfl⟩ := point
    obtain ⟨b, rfl, after⟩ := alike.cons (by decide)
    unfold skipFractionAndExponent at ha hb
    simp only at ha hb
    split at ha
    · split at hb
      · exact skipExponent?_alike after.skipDigits ha hb
      · cases hb
    · cases ha
  · have point' : ¬ ∃ r, b = 0x2E :: r := by
      rintro ⟨b, rfl⟩
      obtain ⟨a, rfl, _⟩ := alike.symm.cons (by decide)
      exact point ⟨a, rfl⟩
    have whole : ∀ {c : List UInt8}, (¬ ∃ r, c = 0x2E :: r) → skipFractionAndExponent c =
        (match c with
        | 0x65 :: rest => skipExponent rest
        | 0x45 :: rest => skipExponent rest
        | rest => .ok rest) := by
      intro c none
      unfold skipFractionAndExponent
      split
      · exact absurd ⟨_, rfl⟩ none
      · rfl
      · rfl
      · next small large => 
        split
        · exact absurd rfl (small _)
        · exact absurd rfl (large _)
        · rfl
    rw [whole point] at ha
    rw [whole point'] at hb
    exact skipExponent?_alike alike ha hb

theorem skipNumber_alike {a b s t : List UInt8} (alike : Alike a b)
    (ha : skipNumber a = .ok s) (hb : skipNumber b = .ok t) : Alike s t := by
  unfold skipNumber at ha
  split at ha
  · cases ha
  · obtain ⟨b, rfl, after⟩ := alike.cons (by decide)
    unfold skipNumber at hb
    simp only at hb
    split at ha
    · cases ha
    · split at hb
      · cases hb
      · exact skipFractionAndExponent_alike after ha hb
  · next x a nonzero =>
    split at ha
    · next digit =>
      obtain ⟨b, rfl, after⟩ := alike.cons (isDigitByte_ascii digit)
      unfold skipNumber at hb
      split at hb
      · next eq => cases eq
      · next eq =>
        cases eq
        exact absurd rfl nonzero
      · next eq =>
        cases eq
        rw [if_pos digit] at hb
        exact skipFractionAndExponent_alike after.skipDigits ha hb
    · cases ha

/-- Alike values are passed over alike, whatever bounds the three rounds. -/
def PassedAlike (n : Nat) : Prop :=
  (∀ {stack m a b s t}, Alike a b → skipItem stack n a = .ok s → skipItem stack m b = .ok t →
    Alike s t) ∧
  (∀ {stack comma m a b s t}, Alike a b → skipAfter stack comma n a = .ok s →
    skipAfter stack comma m b = .ok t → Alike s t) ∧
  (∀ {frame stack m a b s t}, Alike a b → skipMember frame stack n a = .ok s →
    skipMember frame stack m b = .ok t → Alike s t)

/-- Two runs that decide alike go the same way. -/
theorem both_ite {α : Type} {p q : Prop} [Decidable p] {x x' y y' u v : α}
    (hx : (if p then x else x') = u) (hy : (if p then y else y') = v)
    (yes : p → x = u → y = v → q) (no : ¬ p → x' = u → y' = v → q) : q := by
  by_cases h : p
  · rw [if_pos h] at hx hy
    exact yes h hx hy
  · rw [if_neg h] at hx hy
    exact no h hx hy

/-- A value without items, and then what follows it. -/
theorem skipScalar_alike {n m : Nat} {stack : List Bracket} {s t : List UInt8}
    {f g : Except Fault (List UInt8)} (ih : PassedAlike n)
    (agree : ∀ {s t}, f = .ok s → g = .ok t → Alike s t)
    (ha : (match f with
      | Except.error f => Except.error f
      | Except.ok rest => skipAfter stack true n rest) = .ok s)
    (hb : (match g with
      | Except.error f => Except.error f
      | Except.ok rest => skipAfter stack true m rest) = .ok t) : Alike s t := by
  cases f with
  | error f => cases ha
  | ok s' =>
    cases g with
    | error f => cases hb
    | ok t' => exact ih.2.1 (agree rfl rfl) ha hb

theorem skipItem_alike {n m : Nat} {stack : List Bracket} {a b s t : List UInt8}
    (ih : PassedAlike n) (alike : Alike a b) (ha : skipItem stack (n + 1) a = .ok s)
    (hb : skipItem stack m b = .ok t) : Alike s t := by
  cases m with
  | zero => cases hb
  | succ m =>
    unfold skipItem at ha hb
    have blanks := alike.skipBlanks
    generalize skipBlanks a = a' at blanks ha
    generalize skipBlanks b = b' at blanks hb
    cases a' with
    | nil => cases ha
    | cons x a' =>
      by_cases low : x.toNat < 0x80
      · obtain ⟨b', rfl, tails⟩ := blanks.cons low
        have word : ∀ {w : String} {s t : List UInt8}, (∀ c ∈ w.toList, c.toNat < 0x80) →
            readWord (lettersAfter w) a' = .ok s → readWord (lettersAfter w) b' = .ok t →
            Alike s t := fun ascii => readWord_alike (lettersAfter_ascii ascii) tails
        refine both_ite ha hb (fun _ => skipScalar_alike ih (word (by simp))) fun _ ha hb => ?_
        refine both_ite ha hb (fun _ => skipScalar_alike ih (word (by simp))) fun _ ha hb => ?_
        refine both_ite ha hb (fun _ => skipScalar_alike ih (word (by simp))) fun _ ha hb => ?_
        refine both_ite ha hb (fun _ => skipScalar_alike ih (skipNumber_alike tails))
          fun _ ha hb => ?_
        refine both_ite ha hb (fun _ => skipScalar_alike ih (skipNumber_alike blanks))
          fun _ ha hb => ?_
        refine both_ite ha hb (fun _ => skipScalar_alike ih
          fun h h' => (skipText_ok h).agree tails (skipText_ok h')) fun _ ha hb => ?_
        refine both_ite ha hb (fun _ => ih.2.1 tails) fun _ ha hb => ?_
        refine both_ite ha hb (fun _ => ih.2.1 tails) fun _ ha hb => ?_
        cases ha
      · have other : ∀ c : UInt8, c.toNat < 0x80 → x ≠ c := fun c => ne_of_high (by omega)
        have noDigit : isDigitByte x ≠ true := fun digit => low (isDigitByte_ascii digit)
        simp only [other 0x6E (by decide), other 0x74 (by decide), other 0x66 (by decide),
          other 0x2D (by decide), other 0x22 (by decide), other 0x5B (by decide),
          other 0x7B (by decide), noDigit, if_false] at ha
        cases ha

theorem skipAfter_alike {n m : Nat} {stack : List Bracket} {comma : Bool} {a b s t : List UInt8}
    (ih : PassedAlike n) (alike : Alike a b) (ha : skipAfter stack comma (n + 1) a = .ok s)
    (hb : skipAfter stack comma m b = .ok t) : Alike s t := by
  cases m with
  | zero => cases hb
  | succ m =>
    unfold skipAfter at ha hb
    cases stack with
    | nil =>
      cases ha
      cases hb
      exact alike
    | cons frame outer =>
      have blanks := alike.skipBlanks
      simp only at ha hb
      generalize skipBlanks a = a' at blanks ha
      generalize skipBlanks b = b' at blanks hb
      rcases blanks.head with ⟨rfl, _⟩ | ⟨x, a', b', low, rfl, rfl, tails⟩ |
        ⟨x, a', y, b', hx, hy, rfl, rfl⟩
      · cases ha
      · refine both_ite ha hb (fun _ => ih.2.2 tails) fun _ ha hb => ?_
        refine both_ite ha hb (fun _ => ih.2.1 tails) fun _ ha hb => ?_
        refine both_ite ha hb (fun _ ha _ => by cases ha) fun _ ha hb => ?_
        exact ih.2.2 blanks ha hb
      · simp only [ne_of_high hx (c := 0x2C) (by decide), ne_of_high hx (c := 0x5D) (by decide),
          ne_of_high hx (c := 0x7D) (by decide), false_and, or_self, if_false] at ha
        simp only [ne_of_high hy (c := 0x2C) (by decide), ne_of_high hy (c := 0x5D) (by decide),
          ne_of_high hy (c := 0x7D) (by decide), false_and, or_self, if_false] at hb
        refine both_ite ha hb (fun _ ha _ => by cases ha) fun _ ha hb => ?_
        exact ih.2.2 blanks ha hb

theorem skipMember_alike {n m : Nat} {frame : Bracket} {stack : List Bracket}
    {a b s t : List UInt8} (ih : PassedAlike n) (alike : Alike a b)
    (ha : skipMember frame stack (n + 1) a = .ok s) (hb : skipMember frame stack m b = .ok t) :
    Alike s t := by
  cases m with
  | zero => cases hb
  | succ m =>
    unfold skipMember at ha hb
    cases frame with
    | list => exact ih.1 alike ha hb
    | object =>
      have blanks := alike.skipBlanks
      simp only at ha hb
      generalize skipBlanks a = a' at blanks ha
      generalize skipBlanks b = b' at blanks hb
      cases a' with
      | nil => cases ha
      | cons x a' =>
        simp only at ha
        split at ha
        · cases ha
        · next quote =>
          rw [not_not] at quote
          subst quote
          obtain ⟨b', rfl, tails⟩ := blanks.cons (by decide)
          simp only [ne_eq, not_true_eq_false, if_false] at hb
          split at ha
          · cases ha
          · next a'' textA =>
            split at hb
            · cases hb
            · next b'' textB =>
              have after := ((skipText_ok textA).agree tails (skipText_ok textB)).skipBlanks
              generalize skipBlanks a'' = c at after ha
              generalize skipBlanks b'' = d at after hb
              cases c with
              | nil => cases ha
              | cons z c =>
                simp only at ha
                split at ha
                · next colon =>
                  subst colon
                  obtain ⟨d, rfl, tails⟩ := after.cons (by decide)
                  exact ih.1 tails ha hb
                · cases ha

theorem passedAlike (n : Nat) : PassedAlike n := by
  induction n with
  | zero =>
    refine ⟨?_, ?_, ?_⟩
    · intro stack m a b s t _ ha
      cases ha
    · intro stack comma m a b s t _ ha
      cases ha
    · intro frame stack m a b s t _ ha
      cases ha
  | succ n ih => exact ⟨skipItem_alike ih, skipAfter_alike ih, skipMember_alike ih⟩

theorem skipValue_alike {a b s t : List UInt8} (alike : Alike a b) (ha : skipValue a = .ok s)
    (hb : skipValue b = .ok t) : Alike s t :=
  (passedAlike _).1 alike ha hb

end SoapGateway.Json
