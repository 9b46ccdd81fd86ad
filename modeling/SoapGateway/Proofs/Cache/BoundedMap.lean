import Mathlib.Data.Finmap
import SoapGateway.Cache.Use
import SoapGateway.Proofs.Cache

/-!
# The cache as a bounded finite map

A finite map that takes no more keys than it may have reports on every use what a cache does. What
is under a key is also told by the history of uses alone: it is what the last use put there that
stored or removed something under the key.
-/
namespace SoapGateway

/-- A finite map from keys to entries that may have `capacity` keys at most; zero is no bound. -/
structure BoundedMap (α : Type) where
  capacity : Nat
  map : Finmap fun _ : CacheKey => CacheEntry α

namespace BoundedMap

variable {α : Type}

def empty (capacity : Nat) : BoundedMap α := ⟨capacity, ∅⟩

/-- Number of keys. -/
def size (m : BoundedMap α) : Nat := m.map.keys.card

/-- Stores an entry, unless the key is new and the map has all the keys that it may have. -/
def store (m : BoundedMap α) (k : CacheKey) (e : CacheEntry α) : CacheReport α × BoundedMap α :=
  if 0 < m.capacity ∧ m.size = m.capacity ∧ k ∉ m.map then (.full m.capacity, m)
  else (.stored (decide (k ∈ m.map)), { m with map := m.map.insert k e })

/-- What one use does. -/
def use (m : BoundedMap α) : CacheUse α → CacheReport α × BoundedMap α
  | .put k payload now => m.store k ⟨payload, now⟩
  | .putEntry k e => m.store k e
  | .get k => (.found (m.map.lookup k), m)
  | .invalidate k => (.removed (decide (k ∈ m.map)), { m with map := m.map.erase k })
  | .clear => (.cleared m.size, { m with map := ∅ })

/-- What any number of uses do. -/
def useAll (m : BoundedMap α) (uses : List (CacheUse α)) :
    List (CacheReport α × Nat) × BoundedMap α :=
  CacheUse.inTurn use size m uses

theorem capacity_store (m : BoundedMap α) (k : CacheKey) (e : CacheEntry α) :
    (m.store k e).2.capacity = m.capacity := by
  unfold store
  split <;> rfl

theorem capacity_use (m : BoundedMap α) (u : CacheUse α) :
    (m.use u).2.capacity = m.capacity := by
  cases u with
  | put k payload now => exact m.capacity_store k ⟨payload, now⟩
  | putEntry k e => exact m.capacity_store k e
  | get | invalidate | clear => rfl

theorem capacity_useAll (m : BoundedMap α) (uses : List (CacheUse α)) :
    (m.useAll uses).2.capacity = m.capacity := by
  induction uses generalizing m with
  | nil => rfl
  | cons u uses ih => exact (ih (m.use u).2).trans (m.capacity_use u)

end BoundedMap

/-- What a use tells about the entry under a key, given its report: that there is this one or none,
or nothing at all. -/
def CacheUse.tells {α : Type} (k : CacheKey) :
    CacheUse α → CacheReport α → Option (Option (CacheEntry α))
  | put k' payload now, .stored _ => if k' = k then some (some ⟨payload, now⟩) else none
  | putEntry k' e, .stored _ => if k' = k then some (some e) else none
  | invalidate k', _ => if k' = k then some none else none
  | clear, _ => some none
  | _, _ => none

/-- The last that is told about the entry under a key; nothing is there before. -/
def CacheUse.lastTold {α : Type} (k : CacheKey) (history : List (CacheUse α × CacheReport α)) :
    Option (CacheEntry α) :=
  (history.reverse.findSome? fun (u, report) => u.tells k report).getD none

/-- Whether a use is about another key. -/
def CacheUse.Spares {α : Type} (k : CacheKey) : CacheUse α → Prop
  | put k' _ _ => k' ≠ k
  | putEntry k' _ => k' ≠ k
  | get _ => True
  | invalidate k' => k' ≠ k
  | clear => False

namespace Cache

variable {α : Type} {c : Cache α} {m : BoundedMap α}

theorem mem_keys_iff {entries : List (CacheKey × CacheEntry α)} {k : CacheKey} :
    k ∈ entries.map Prod.fst ↔ (entries.lookup k).isSome = true := by
  induction entries with
  | nil => simp
  | cons entry entries ih =>
    obtain ⟨k', e⟩ := entry
    rw [lookup_cons_key, List.map_cons, List.mem_cons, ih]
    by_cases own : k = k'
    · simp [own]
    · simp [own]

/-- A cache that holds what a bounded map has. -/
structure Holds (c : Cache α) (m : BoundedMap α) : Prop where
  capacity : c.capacity = m.capacity
  lookup : ∀ k, c.get? k = m.map.lookup k
  distinct : c.Distinct
  bounded : c.Bounded

namespace Holds

theorem contains (holds : c.Holds m) (k : CacheKey) : c.contains k = decide (k ∈ m.map) := by
  rw [Cache.contains, holds.lookup, Bool.eq_iff_iff, Finmap.lookup_isSome, decide_eq_true_iff]

theorem size (holds : c.Holds m) : c.size = m.size := by
  have keys : (c.entries.map Prod.fst).toFinset = m.map.keys := by
    ext k
    rw [List.mem_toFinset, mem_keys_iff, Finmap.mem_keys, ← Finmap.lookup_isSome, ← holds.lookup]
    rfl
  rw [BoundedMap.size, ← keys, List.toFinset_card_of_nodup holds.distinct, List.length_map]
  rfl

theorem empty (capacity : Nat) : (Cache.empty capacity : Cache α).Holds (.empty capacity) where
  capacity := rfl
  lookup _ := rfl
  distinct := distinct_empty capacity
  bounded := bounded_empty capacity

/-- A cache refuses what a bounded map refuses. -/
theorem refuses_iff (holds : c.Holds m) (k : CacheKey) :
    c.Refuses k ↔ 0 < m.capacity ∧ m.size = m.capacity ∧ k ∉ m.map := by
  rw [Refuses, IsFull, holds.lookup, Finmap.lookup_eq_none, holds.capacity, holds.size]
  constructor
  · rintro ⟨absent, positive, reached⟩
    have held := holds.bounded (holds.capacity ▸ positive)
    rw [holds.capacity, holds.size] at held
    exact ⟨positive, Nat.le_antisymm held reached, absent⟩
  · rintro ⟨positive, reached, absent⟩
    exact ⟨absent, positive, Nat.le_of_eq reached.symm⟩

theorem store (holds : c.Holds m) (k : CacheKey) (e : CacheEntry α) :
    (c.store k e).1 = (m.store k e).1 ∧ (c.store k e).2.Holds (m.store k e).2 := by
  by_cases refused : c.Refuses k
  · rw [Cache.store, put_full refused.1 refused.2, BoundedMap.store,
      if_pos ((holds.refuses_iff k).mp refused), holds.capacity]
    exact ⟨rfl, holds⟩
  · have stored := put_ok refused e
    rw [Cache.store, stored, BoundedMap.store, if_neg (mt (holds.refuses_iff k).mpr refused),
      holds.contains]
    refine ⟨rfl, ⟨holds.capacity, fun k' => ?_, holds.distinct.put stored,
      holds.bounded.put stored⟩⟩
    rw [get?_put stored]
    by_cases own : k' = k
    · rw [if_pos own, own, Finmap.lookup_insert]
    · rw [if_neg own, Finmap.lookup_insert_of_ne m.map own, holds.lookup]

theorem erase (holds : c.Holds m) (k : CacheKey) :
    (c.erase k).Holds { m with map := m.map.erase k } where
  capacity := holds.capacity
  lookup k' := by
    rw [get?_erase]
    by_cases own : k' = k
    · rw [if_pos own, own, Finmap.lookup_erase]
    · rw [if_neg own, Finmap.lookup_erase_ne own, holds.lookup]
  distinct := holds.distinct.erase k
  bounded := holds.bounded.erase k

theorem clear (holds : c.Holds m) : c.clear.2.Holds { m with map := ∅ } where
  capacity := holds.capacity
  lookup _ := rfl
  distinct := distinct_empty c.capacity
  bounded := .clear c

/-- A use is reported alike, and leaves alike what it leaves. -/
theorem use (holds : c.Holds m) (u : CacheUse α) :
    (c.use u).1 = (m.use u).1 ∧ (c.use u).2.Holds (m.use u).2 := by
  cases u with
  | put k payload now => exact holds.store k ⟨payload, now⟩
  | putEntry k e => exact holds.store k e
  | get k => exact ⟨congrArg CacheReport.found (holds.lookup k), holds⟩
  | invalidate k => exact ⟨congrArg CacheReport.removed (holds.contains k), holds.erase k⟩
  | clear => exact ⟨congrArg CacheReport.cleared holds.size, holds.clear⟩

theorem useAll (holds : c.Holds m) (uses : List (CacheUse α)) :
    (c.useAll uses).1 = (m.useAll uses).1 ∧ (c.useAll uses).2.Holds (m.useAll uses).2 := by
  induction uses generalizing c m with
  | nil => exact ⟨rfl, holds⟩
  | cons u uses ih =>
    obtain ⟨report, next⟩ := holds.use u
    obtain ⟨reports, last⟩ := ih next
    refine ⟨?_, last⟩
    change ((c.use u).1, (c.use u).2.size) :: ((c.use u).2.useAll uses).1 =
      ((m.use u).1, (m.use u).2.size) :: ((m.use u).2.useAll uses).1
    rw [report, reports, next.size]

end Holds

/-- What is under a key after a use is what the use tells, or what was there before. -/
theorem get?_use (c : Cache α) (u : CacheUse α) (k : CacheKey) :
    (c.use u).2.get? k = (u.tells k (c.use u).1).getD (c.get? k) := by
  have stores (k' : CacheKey) (e : CacheEntry α) :
      (c.store k' e).2.get? k =
        ((CacheUse.putEntry k' e).tells k (c.store k' e).1).getD (c.get? k) := by
    by_cases refused : c.Refuses k'
    · rw [store, put_full refused.1 refused.2]
      rfl
    · have stored := put_ok refused e
      rw [store, stored, get?_put stored, CacheUse.tells]
      by_cases own : k = k'
      · rw [if_pos own, if_pos own.symm, Option.getD_some]
      · rw [if_neg own, if_neg (Ne.symm own), Option.getD_none]
  cases u with
  | put k' payload now =>
    have put := stores k' ⟨payload, now⟩
    rw [use, put]
    cases (c.store k' ⟨payload, now⟩).1 <;> rfl
  | putEntry k' e => exact stores k' e
  | get k' => rfl
  | invalidate k' =>
    change (c.erase k').get? k = (if k' = k then some none else none).getD (c.get? k)
    rw [get?_erase]
    by_cases own : k = k'
    · rw [if_pos own, if_pos own.symm, Option.getD_some]
    · rw [if_neg own, if_neg (Ne.symm own), Option.getD_none]
  | clear => rfl

/-- A use that is about another key leaves the entry under a key alone. -/
theorem get?_use_of_spares {u : CacheUse α} {k : CacheKey} (spares : u.Spares k) (c : Cache α) :
    (c.use u).2.get? k = c.get? k := by
  have silent (report : CacheReport α) : u.tells k report = none := by
    cases u with
    | put k' | putEntry k' =>
      cases report with
      | stored => exact if_neg spares
      | full | found | removed | cleared => rfl
    | get k' => rfl
    | invalidate k' => exact if_neg spares
    | clear => exact False.elim spares
  rw [get?_use, silent, Option.getD_none]

/-- What is under a key after any uses is the last that they say about it, or what was there. -/
theorem get?_useAll (c : Cache α) (uses : List (CacheUse α)) (k : CacheKey) :
    (c.useAll uses).2.get? k =
      ((uses.zip ((c.useAll uses).1.map Prod.fst)).reverse.findSome?
        fun (u, report) => u.tells k report).getD (c.get? k) := by
  induction uses generalizing c with
  | nil => rfl
  | cons u uses ih =>
    change ((c.use u).2.useAll uses).2.get? k =
      (((u, (c.use u).1) :: uses.zip (((c.use u).2.useAll uses).1.map Prod.fst)).reverse.findSome?
        fun (u, report) => u.tells k report).getD (c.get? k)
    rw [ih, get?_use, List.reverse_cons, List.findSome?_append, Option.getD_or,
      List.findSome?_singleton]

/-- Whatever is done with a cache that is empty at first, the reports, and the sizes by then, are
those of a finite map that takes no more keys than it may have. What is under a key is the last that
was stored there and not removed since, as the uses and their reports tell. There are as many
entries as keys, never more than a capacity that is not zero, and a use of one key leaves what is
under another alone. -/
theorem reports_of_boundedMap (capacity : Nat) (uses : List (CacheUse α)) :
    let (reports, c) := (empty capacity : Cache α).useAll uses
    let (reports', m) := (BoundedMap.empty capacity).useAll uses
    reports = reports' ∧
    (∀ k, c.get? k = m.map.lookup k) ∧
    (∀ k, c.get? k = CacheUse.lastTold k (uses.zip (reports.map Prod.fst))) ∧
    c.size = m.map.keys.card ∧
    (0 < capacity → c.size ≤ capacity) ∧
    ∀ u k, u.Spares k → (c.use u).2.get? k = c.get? k := by
  obtain ⟨reports, holds⟩ := (Holds.empty (α := α) capacity).useAll uses
  have bound : ((empty capacity : Cache α).useAll uses).2.capacity = capacity :=
    holds.capacity.trans (BoundedMap.capacity_useAll _ uses)
  refine ⟨reports, holds.lookup, ?history, holds.size, ?bounded, ?frame⟩
  case history => exact get?_useAll (empty capacity) uses
  case bounded =>
    intro positive
    have bounded := holds.bounded
    rw [Bounded, bound] at bounded
    exact bounded positive
  case frame => exact fun u k spares => get?_use_of_spares spares _

/-- With room for one key a second one is refused, and the first is replaced. -/
theorem reports_of_boundedMap_full :
    let first : CacheKey := ⟨"KeyRateXML", "1"⟩
    let second : CacheKey := ⟨"KeyRateXML", "2"⟩
    let uses : List (CacheUse Nat) :=
      [.put first 7 5, .put second 8 6, .putEntry first ⟨9, 2⟩, .get first, .invalidate second]
    let (reports, c) := (empty 1 : Cache Nat).useAll uses
    reports = [(.stored false, 1), (.full 1, 1), (.stored true, 1), (.found (some ⟨9, 2⟩), 1),
      (.removed false, 1)] ∧
    ((BoundedMap.empty 1).useAll uses).1 = reports ∧
    c.get? first = CacheUse.lastTold first (uses.zip (reports.map Prod.fst)) ∧
    c.size ≤ 1 ∧
    (c.use (.invalidate second)).2.get? first = c.get? first := by
  intro first second uses
  have shown : ((empty 1 : Cache Nat).useAll uses).1 = [(.stored false, 1), (.full 1, 1),
      (.stored true, 1), (.found (some ⟨9, 2⟩), 1), (.removed false, 1)] := by decide
  obtain ⟨reports, _, history, _, bounded, frame⟩ := reports_of_boundedMap (α := Nat) 1 uses
  have other : (CacheUse.invalidate second : CacheUse Nat).Spares first := by
    change second ≠ first
    decide
  exact ⟨shown, reports.symm, history first, bounded (by decide), frame _ first other⟩

end Cache

end SoapGateway
