import SoapGateway.Proofs.Json.Alike

/-!
# Agreement of alike documents

Alike documents that are both accepted have the same value. A text is read strictly, so it has no
octets that tolerant reading would replace. What is passed over may have them, but it only has to
end alike.
-/
namespace SoapGateway.Json

theorem map_ok {α β : Type} {f : α → β} {r : Except Fault α} {y : β} (h : r.map f = .ok y) :
    ∃ x, r = .ok x ∧ y = f x := by
  cases r with
  | error e => cases h
  | ok x =>
    cases h
    exact ⟨x, rfl, rfl⟩

theorem mismatch_ne_ok {α : Type} {expected : String} {input : List UInt8} {r : α} :
    mismatch expected input ≠ .ok r := by
  intro h
  unfold mismatch at h
  cases input with
  | nil => cases h
  | cons b input =>
    simp only at h
    split at h
    · split at h <;> cases h
    · split at h
      · split at h <;> cases h
      · split at h
        · split at h <;> cases h
        · split at h
          · split at h <;> cases h
          · split at h
            · split at h <;> cases h
            · split at h
              · cases h
              · split at h <;> cases h

namespace Reader

theorem text_steady : Steady text := by
  intro a b s t x y alike ha hb
  unfold text at ha hb
  have blanks := alike.skipBlanks
  generalize skipBlanks a = a' at blanks ha
  generalize skipBlanks b = b' at blanks hb
  cases a' with
  | nil => cases ha
  | cons c a' =>
    simp only at ha
    split at ha
    · next quote =>
      subst quote
      obtain ⟨b', rfl, tails⟩ := blanks.cons (by decide)
      exact readText_steady tails ha hb
    · exact absurd ha mismatch_ne_ok

/-- A value that is given with what is left agrees, and what is left is alike. -/
theorem map_alike {α : Type} {f g : Except Fault (List UInt8)} {v x y : α} {s t : List UInt8}
    (rest : ∀ {s t}, f = .ok s → g = .ok t → Alike s t)
    (ha : f.map (fun rest => (v, rest)) = .ok (x, s))
    (hb : g.map (fun rest => (v, rest)) = .ok (y, t)) : x = y ∧ Alike s t := by
  obtain ⟨s', readA, eqA⟩ := map_ok ha
  obtain ⟨t', readB, eqB⟩ := map_ok hb
  cases eqA
  cases eqB
  exact ⟨rfl, rest readA readB⟩

theorem flag_steady : Steady flag := by
  intro a b s t x y alike ha hb
  unfold flag at ha hb
  have blanks := alike.skipBlanks
  generalize skipBlanks a = a' at blanks ha
  generalize skipBlanks b = b' at blanks hb
  cases a' with
  | nil => cases ha
  | cons c a' =>
    by_cases low : c.toNat < 0x80
    · obtain ⟨b', rfl, tails⟩ := blanks.cons low
      have word : ∀ {w : String} {v : Bool}, (∀ c ∈ w.toList, c.toNat < 0x80) →
          (readWord (lettersAfter w) a').map (fun rest => (v, rest)) = .ok (x, s) →
          (readWord (lettersAfter w) b').map (fun rest => (v, rest)) = .ok (y, t) →
          x = y ∧ Alike s t :=
        fun ascii => map_alike (readWord_alike (lettersAfter_ascii ascii) tails)
      refine both_ite ha hb (fun _ => word (by simp)) fun _ ha hb => ?_
      refine both_ite ha hb (fun _ => word (by simp)) fun _ ha hb => ?_
      exact absurd ha mismatch_ne_ok
    · have other : ∀ d : UInt8, d.toNat < 0x80 → c ≠ d := fun d => ne_of_high (by omega)
      simp only [other 0x74 (by decide), other 0x66 (by decide), if_false] at ha
      exact absurd ha mismatch_ne_ok

theorem nextItem_alike {first : Bool} {a b : List UInt8} {x y : Option (List UInt8)}
    (alike : Alike a b) (ha : nextItem first a = .ok x) (hb : nextItem first b = .ok y) :
    Option.Rel Alike x y := by
  unfold nextItem at ha hb
  have blanks := alike.skipBlanks
  generalize skipBlanks a = a' at blanks ha
  generalize skipBlanks b = b' at blanks hb
  rcases blanks.head with ⟨rfl, _⟩ | ⟨c, a', b', low, rfl, rfl, tails⟩ |
    ⟨c, a', d, b', hc, hd, rfl, rfl⟩
  · cases ha
  · refine both_ite ha hb (fun _ ha hb => ?_) fun _ ha hb => ?_
    · cases ha
      cases hb
      exact .none
    refine both_ite ha hb (fun _ ha hb => ?_) fun _ ha hb => ?_
    · have after := tails.skipBlanks
      generalize skipBlanks a' = a'' at after ha
      generalize skipBlanks b' = b'' at after hb
      rcases after.head with ⟨rfl, _⟩ | ⟨c, a', b', low, rfl, rfl, _⟩ |
        ⟨c, a', d, b', hc, hd, rfl, rfl⟩
      · cases ha
      · refine both_ite ha hb (fun _ ha _ => by cases ha) fun _ ha hb => ?_
        cases ha
        cases hb
        exact .some after
      · simp only [ne_of_high hc (c := 0x5D) (by decide), if_false] at ha
        simp only [ne_of_high hd (c := 0x5D) (by decide), if_false] at hb
        cases ha
        cases hb
        exact .some after
    refine both_ite ha hb (fun _ ha hb => ?_) fun _ ha hb => by cases ha
    cases ha
    cases hb
    exact .some blanks
  · simp only [ne_of_high hc (c := 0x5D) (by decide), ne_of_high hc (c := 0x2C) (by decide),
      false_and, if_false] at ha
    simp only [ne_of_high hd (c := 0x5D) (by decide), ne_of_high hd (c := 0x2C) (by decide),
      false_and, if_false] at hb
    refine both_ite ha hb (fun _ ha hb => ?_) fun _ ha hb => by cases ha
    cases ha
    cases hb
    exact .some blanks

theorem nextKey_alike {first : Bool} {a b : List UInt8} {x y : Option (List UInt8)}
    (alike : Alike a b) (ha : nextKey first a = .ok x) (hb : nextKey first b = .ok y) :
    Option.Rel Alike x y := by
  unfold nextKey at ha hb
  have blanks := alike.skipBlanks
  generalize skipBlanks a = a' at blanks ha
  generalize skipBlanks b = b' at blanks hb
  rcases blanks.head with ⟨rfl, _⟩ | ⟨c, a', b', low, rfl, rfl, tails⟩ |
    ⟨c, a', d, b', hc, hd, rfl, rfl⟩
  · cases ha
  · refine both_ite ha hb (fun _ ha hb => ?_) fun _ ha hb => ?_
    · cases ha
      cases hb
      exact .none
    refine both_ite ha hb (fun _ ha hb => ?_) fun _ ha hb => ?_
    · have after := tails.skipBlanks
      generalize skipBlanks a' = a'' at after ha
      generalize skipBlanks b' = b'' at after hb
      cases a'' with
      | nil => cases ha
      | cons e a'' =>
        simp only at ha
        split at ha
        · next quote =>
          subst quote
          obtain ⟨b'', rfl, key⟩ := after.cons (by decide)
          cases ha
          cases hb
          exact .some key
        · split at ha <;> cases ha
    refine both_ite ha hb (fun _ ha hb => ?_) fun _ ha hb => by cases ha
    refine both_ite ha hb (fun _ ha hb => ?_) fun _ ha hb => by cases ha
    cases ha
    cases hb
    exact .some tails
  · simp only [ne_of_high hc (c := 0x7D) (by decide), ne_of_high hc (c := 0x2C) (by decide),
      ne_of_high hc (c := 0x22) (by decide), false_and, if_false] at ha
    split at ha <;> cases ha

theorem closeList_ok {input rest : List UInt8} (h : closeList input = .ok rest) :
    skipBlanks input = 0x5D :: rest := by
  unfold closeList at h
  split at h
  · cases h
  · next b after blanks =>
    split at h
    · next close =>
      cases h
      rw [blanks, close]
    · split at h
      · split at h <;> cases h
      · cases h

theorem closeObject_ok {input rest : List UInt8} (h : closeObject input = .ok rest) :
    skipBlanks input = 0x7D :: rest := by
  unfold closeObject at h
  split at h
  · cases h
  · next b after blanks =>
    split at h
    · next close =>
      cases h
      rw [blanks, close]
    · split at h <;> cases h

/-- The octet that comes after blanks is the same in alike inputs, and so is what follows. -/
theorem closed_alike {c : UInt8} {a b s t : List UInt8} (low : c.toNat < 0x80)
    (alike : Alike a b) (ha : skipBlanks a = c :: s) (hb : skipBlanks b = c :: t) : Alike s t := by
  have blanks := alike.skipBlanks
  rw [ha, hb] at blanks
  exact (Alike.cons_ascii low).mp blanks

theorem positional_alike {α : Type} {item : Reader α} (steady : Steady item)
    {keys : List String} {acc x y : Members α} {a b s t : List UInt8} (alike : Alike a b)
    (ha : positional item acc keys a = .ok (x, s)) (hb : positional item acc keys b = .ok (y, t)) :
    x = y ∧ Alike s t := by
  induction keys generalizing acc a b with
  | nil =>
    cases ha
    cases hb
    exact ⟨rfl, alike⟩
  | cons key keys ih =>
    unfold positional at ha hb
    split at ha
    · cases ha
    · next endA =>
      split at hb
      · cases hb
      · cases ha
        cases hb
        exact ⟨rfl, alike⟩
      · next goB => cases nextItem_alike alike endA goB
    · next goA =>
      split at hb
      · cases hb
      · next endB => cases nextItem_alike alike goA endB
      · next goB =>
        cases nextItem_alike alike goA goB with
        | some found =>
          split at ha
          · cases ha
          · next itemA =>
            split at hb
            · cases hb
            · next itemB =>
              obtain ⟨rfl, after⟩ := steady found itemA itemB
              exact ih after ha hb

theorem membersFrom_alike {α : Type} {item : Reader α} (steady : Steady item)
    {keys : List String} {acc x y : Members α} {first : Bool} {n m : Nat} {a b s t : List UInt8}
    (alike : Alike a b) (ha : membersFrom keys item acc first n a = .ok (x, s))
    (hb : membersFrom keys item acc first m b = .ok (y, t)) : x = y ∧ Alike s t := by
  induction n generalizing m acc first a b with
  | zero => cases ha
  | succ n ih =>
    cases m with
    | zero => cases hb
    | succ m =>
      unfold membersFrom at ha hb
      split at ha
      · cases ha
      · next endA =>
        split at hb
        · cases hb
        · cases ha
          cases hb
          exact ⟨rfl, alike⟩
        · next goB => cases nextKey_alike alike endA goB
      · next goA =>
        split at hb
        · cases hb
        · next endB => cases nextKey_alike alike goA endB
        · next goB =>
          cases nextKey_alike alike goA goB with
          | some found =>
            split at ha
            · cases ha
            · next keyA =>
              split at hb
              · cases hb
              · next keyB =>
                obtain ⟨rfl, after⟩ := readText_steady found keyA keyB
                refine both_ite ha hb (fun _ ha _ => by cases ha) fun _ ha hb => ?_
                have blanks := after.skipBlanks
                split at ha
                · cases ha
                · next colonA =>
                  split at ha
                  · cases ha
                  · next colon =>
                    rw [not_not] at colon
                    subst colon
                    rw [colonA] at blanks
                    obtain ⟨b', colonB, tails⟩ := blanks.cons (by decide)
                    simp only [colonB, ne_eq, not_true_eq_false, if_false] at hb
                    refine both_ite ha hb (fun _ ha hb => ?_) fun _ ha hb => ?_
                    · split at ha
                      · cases ha
                      · next itemA =>
                        split at hb
                        · cases hb
                        · next itemB =>
                          obtain ⟨rfl, after⟩ := steady tails itemA itemB
                          exact ih after ha hb
                    · split at ha
                      · cases ha
                      · next skipA =>
                        split at hb
                        · cases hb
                        · next skipB => exact ih (skipValue_alike tails skipA skipB) ha hb

/-- A record is what is made of the members that were read. -/
theorem record_ok {α β : Type} {item : Reader α} {name : String} {keys : List String}
    {build : Members α → Except String β} {input rest : List UInt8} {x : β}
    (h : record name keys item build input = .ok (x, rest)) :
    ∃ members, build members = .ok x := by
  unfold record at h
  split at h
  · cases h
  · split at h
    · split at h
      · cases h
      · split at h
        · next built =>
          obtain ⟨_, _, eq⟩ := map_ok h
          cases eq
          exact ⟨_, built⟩
        · cases h
    · split at h
      · split at h
        · cases h
        · cases h
        · split at h
          · next built =>
            obtain ⟨_, _, eq⟩ := map_ok h
            cases eq
            exact ⟨_, built⟩
          · cases h
      · exact absurd h mismatch_ne_ok

/-- A record is steady if its members are, whatever is made of them. -/
theorem record_steady {α β : Type} {item : Reader α} (steady : Steady item) (name : String)
    (keys : List String) (build : Members α → Except String β) :
    Steady (record name keys item build) := by
  intro a b s t x y alike ha hb
  unfold record at ha hb
  have blanks := alike.skipBlanks
  generalize skipBlanks a = a' at blanks ha
  generalize skipBlanks b = b' at blanks hb
  cases a' with
  | nil => cases ha
  | cons c a' =>
    simp only at ha
    split at ha
    · next bracket =>
      subst bracket
      obtain ⟨b', rfl, tails⟩ := blanks.cons (by decide)
      simp only [if_true] at hb
      split at ha
      · cases ha
      · next membersA =>
        split at hb
        · cases hb
        · next membersB =>
          obtain ⟨rfl, after⟩ := positional_alike steady tails membersA membersB
          split at ha
          · next built =>
            rw [built] at hb
            exact map_alike (fun closeA closeB => closed_alike (by decide) after
              (closeList_ok closeA) (closeList_ok closeB)) ha hb
          · cases ha
    · split at ha
      · next bracket =>
        subst bracket
        obtain ⟨b', rfl, tails⟩ := blanks.cons (by decide)
        simp only [show ¬ (0x7B : UInt8) = 0x5B by decide, if_true, if_false] at hb
        split at ha
        · cases ha
        · cases ha
        · next membersA =>
          split at hb
          · cases hb
          · cases hb
          · next membersB =>
            obtain ⟨rfl, after⟩ := membersFrom_alike steady tails membersA membersB
            split at ha
            · next built =>
              rw [built] at hb
              exact map_alike (fun closeA closeB => closed_alike (by decide) after
                (closeObject_ok closeA) (closeObject_ok closeB)) ha hb
            · cases ha
      · exact absurd ha mismatch_ne_ok

/-- Alike documents that are both accepted have the same value. -/
theorem document_agree {α : Type} {r : Reader α} (steady : Steady r) {a b : List UInt8} {x y : α}
    (alike : Alike a b) (ha : document r a = .ok x) (hb : document r b = .ok y) : x = y := by
  unfold document at ha hb
  split at ha
  · cases ha
  · next readA =>
    split at hb
    · cases hb
    · next readB =>
      obtain ⟨rfl, _⟩ := steady alike readA readB
      split at ha
      · split at hb
        · cases ha
          cases hb
          rfl
        · cases hb
      · cases ha

end Reader

end SoapGateway.Json
