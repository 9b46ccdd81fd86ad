import SoapGateway.Cache
import Mathlib.Data.List.Basic

/-!
# The cache as a map

What each operation of the cache does to `get?`, key by key, and what no use of the cache breaks:
its bound, and that no key has two entries.
-/
namespace SoapGateway.Cache

variable {α : Type}

@[simp] theorem get?_empty (capacity : Nat) (k : CacheKey) :
    (empty capacity : Cache α).get? k = none := rfl

@[simp] theorem get?_clear (c : Cache α) (k : CacheKey) : c.clear.2.get? k = none := rfl

theorem lookup_cons_key (k k' : CacheKey) (e : CacheEntry α)
    (entries : List (CacheKey × CacheEntry α)) :
    ((k, e) :: entries).lookup k' = if k' = k then some e else entries.lookup k' := by
  by_cases own : k' = k
  · rw [if_pos own, List.lookup_cons, own, beq_self_eq_true]
  · rw [if_neg own, List.lookup_cons, beq_eq_false_iff_ne.mpr own]

theorem lookup_filter (entries : List (CacheKey × CacheEntry α)) (k k' : CacheKey) :
    (entries.filter fun e => e.1 != k).lookup k' =
      if k' = k then none else entries.lookup k' := by
  induction entries with
  | nil => simp
  | cons e entries ih =>
    obtain ⟨key, entry⟩ := e
    rw [lookup_cons_key]
    by_cases dropped : key = k
    · rw [List.filter_cons_of_neg (by simpa using dropped), ih, ← dropped]
      by_cases own : k' = key
      · rw [if_pos own, if_pos own]
      · rw [if_neg own, if_neg own, if_neg own]
    · rw [List.filter_cons_of_pos (by simpa using dropped), lookup_cons_key, ih]
      by_cases own : k' = key
      · rw [if_pos own, if_neg (own ▸ dropped), if_pos own]
      · rw [if_neg own, if_neg own]

theorem get?_erase (c : Cache α) (k k' : CacheKey) :
    (c.erase k).get? k' = if k' = k then none else c.get? k' :=
  lookup_filter c.entries k k'

/-- A stored entry is what its key has from then on; other keys keep what they have. -/
theorem get?_put {c c' : Cache α} {k : CacheKey} {e : CacheEntry α} {replaced : Bool}
    (stored : c.put k e = .ok (replaced, c')) (k' : CacheKey) :
    c'.get? k' = if k' = k then some e else c.get? k' := by
  unfold put at stored
  split at stored
  · cases stored
  · cases stored
    have kept := get?_erase c k k'
    unfold get? at kept ⊢
    rw [lookup_cons_key, kept]
    by_cases own : k' = k
    · rw [if_pos own, if_pos own]
    · rw [if_neg own, if_neg own, if_neg own]

/-- Whether a cache has no room for a new key. -/
def IsFull (c : Cache α) : Prop := 0 < c.capacity ∧ c.capacity ≤ c.size

instance (c : Cache α) : Decidable c.IsFull := inferInstanceAs (Decidable (_ ∧ _))

/-- Whether a cache has no place for an entry under a key: only a new key can be refused. -/
def Refuses (c : Cache α) (k : CacheKey) : Prop := c.get? k = none ∧ c.IsFull

theorem contains_eq_false {c : Cache α} {k : CacheKey} :
    c.contains k = false ↔ c.get? k = none := by
  rw [contains, Option.isSome_eq_false_iff, Option.isNone_iff_eq_none]

/-- A store fails exactly for a new key in a full cache. -/
theorem put_ok {c : Cache α} {k : CacheKey} (room : ¬ c.Refuses k) (e : CacheEntry α) :
    c.put k e = .ok (c.contains k, { c with entries := (k, e) :: (c.erase k).entries }) := by
  rw [put, if_neg]
  rintro ⟨bounded, reached, absent⟩
  exact room ⟨contains_eq_false.mp absent, bounded, reached⟩

theorem put_full {c : Cache α} {k : CacheKey} (absent : c.get? k = none) (full : c.IsFull)
    (e : CacheEntry α) : c.put k e = .error ⟨c.capacity⟩ := by
  rw [put, if_pos ⟨full.1, full.2, contains_eq_false.mpr absent⟩]

theorem size_erase_le (c : Cache α) (k : CacheKey) : (c.erase k).size ≤ c.size :=
  List.length_filter_le _ _

theorem filter_absent {entries : List (CacheKey × CacheEntry α)} {k : CacheKey}
    (absent : entries.lookup k = none) : (entries.filter fun e => e.1 != k) = entries := by
  induction entries with
  | nil => rfl
  | cons e entries ih =>
    obtain ⟨key, entry⟩ := e
    rw [lookup_cons_key] at absent
    split at absent
    · cases absent
    · next other =>
      rw [List.filter_cons_of_pos (by simpa using Ne.symm other), ih absent]

/-- Dropping a key that is not there changes nothing. -/
theorem erase_absent {c : Cache α} {k : CacheKey} (absent : c.get? k = none) : c.erase k = c := by
  rw [erase, filter_absent absent]

/-- Dropping a key that is there makes room. -/
theorem size_erase_lt {c : Cache α} {k : CacheKey} {e : CacheEntry α} (entry : c.get? k = some e) :
    (c.erase k).size < c.size := by
  refine Nat.lt_of_le_of_ne (c.size_erase_le k) fun same => ?_
  have all := List.length_filter_eq_length_iff.mp same
  have erased := get?_erase c k k
  have unchanged : c.erase k = c := by
    rw [erase, List.filter_eq_self.mpr all]
  rw [if_pos rfl, unchanged, entry] at erased
  cases erased

/-- A cache with a bound never holds more keys than that. -/
def Bounded (c : Cache α) : Prop := 0 < c.capacity → c.size ≤ c.capacity

theorem bounded_empty (capacity : Nat) : (empty capacity : Cache α).Bounded :=
  fun _ => Nat.zero_le _

theorem Bounded.erase {c : Cache α} (bounded : c.Bounded) (k : CacheKey) : (c.erase k).Bounded :=
  fun positive => Nat.le_trans (c.size_erase_le k) (bounded positive)

theorem Bounded.clear (c : Cache α) : c.clear.2.Bounded := fun _ => Nat.zero_le _

theorem Bounded.put {c c' : Cache α} (bounded : c.Bounded) {k : CacheKey} {e : CacheEntry α}
    {replaced : Bool} (stored : c.put k e = .ok (replaced, c')) : c'.Bounded := by
  unfold Cache.put at stored
  split at stored
  · cases stored
  · next room =>
    cases stored
    intro positive
    change (c.erase k).size + 1 ≤ c.capacity
    cases entry : c.get? k with
    | some e' =>
      have shorter := size_erase_lt entry
      have held := bounded positive
      omega
    | none =>
      have below : ¬ c.capacity ≤ c.size := fun reached =>
        room ⟨positive, reached, contains_eq_false.mpr entry⟩
      rw [erase_absent entry]
      omega

/-- Where a key was dropped, a new entry finds room exactly where it would have replaced the old one
or found room before. -/
theorem Bounded.full_erase_iff {c : Cache α} (bounded : c.Bounded) (k : CacheKey) :
    (c.erase k).IsFull ↔ c.get? k = none ∧ c.IsFull := by
  constructor
  · rintro ⟨positive, reached⟩
    cases entry : c.get? k with
    | some e =>
      have shorter := size_erase_lt entry
      have held := bounded positive
      have reached : c.capacity ≤ (c.erase k).size := reached
      omega
    | none =>
      rw [erase_absent entry] at reached
      exact ⟨rfl, positive, reached⟩
  · rintro ⟨absent, full⟩
    rw [erase_absent absent]
    exact full

/-- No key has two entries. -/
def Distinct (c : Cache α) : Prop := (c.entries.map Prod.fst).Nodup

theorem distinct_empty (capacity : Nat) : (empty capacity : Cache α).Distinct := List.nodup_nil

theorem Distinct.erase {c : Cache α} (distinct : c.Distinct) (k : CacheKey) :
    (c.erase k).Distinct :=
  distinct.sublist (List.filter_sublist.map Prod.fst)

theorem Distinct.put {c c' : Cache α} (distinct : c.Distinct) {k : CacheKey} {e : CacheEntry α}
    {replaced : Bool} (stored : c.put k e = .ok (replaced, c')) : c'.Distinct := by
  unfold Cache.put at stored
  split at stored
  · cases stored
  · cases stored
    have absent : k ∉ (c.erase k).entries.map Prod.fst := by simp [Cache.erase]
    exact List.nodup_cons.mpr ⟨absent, distinct.erase k⟩

/-- What holds of a cache however it is used. -/
structure Closed (P : Cache α → Prop) : Prop where
  erase : ∀ ⦃c : Cache α⦄ (k : CacheKey), P c → P (c.erase k)
  clear : ∀ ⦃c : Cache α⦄, P c → P c.clear.2
  put : ∀ ⦃c c' : Cache α⦄ ⦃k : CacheKey⦄ ⦃e : CacheEntry α⦄ ⦃replaced : Bool⦄, P c →
    c.put k e = .ok (replaced, c') → P c'

theorem closed_bounded : Closed (Bounded (α := α)) where
  erase _ k bounded := bounded.erase k
  clear c _ := .clear c
  put _ _ _ _ _ bounded stored := bounded.put stored

theorem closed_distinct : Closed (Distinct (α := α)) where
  erase _ k distinct := distinct.erase k
  clear c _ := distinct_empty c.capacity
  put _ _ _ _ _ distinct stored := distinct.put stored

end SoapGateway.Cache
