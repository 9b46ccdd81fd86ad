import SoapGateway.Cache

/-!
# Uses of a cache

What can be done with a cache, and what each use reports. A sequence of uses is answered report by
report, each with the number of keys that are there by then.
-/
namespace SoapGateway

open Calendar (Instant)

inductive CacheUse (α : Type) where
  /-- Stores a value, stamped with the time of the clock. -/
  | put (k : CacheKey) (payload : α) (now : Instant)
  /-- Stores an entry that is stamped already. -/
  | putEntry (k : CacheKey) (e : CacheEntry α)
  | get (k : CacheKey)
  | invalidate (k : CacheKey)
  | clear
  deriving DecidableEq, Repr

inductive CacheReport (α : Type) where
  | stored (replaced : Bool)
  | full (capacity : Nat)
  | found (entry : Option (CacheEntry α))
  | removed (there : Bool)
  | cleared (count : Nat)
  deriving DecidableEq, Repr

/-- The reports on uses one after the other, each with the size after it, and what is left in the
end. `use` is what one use does. -/
def CacheUse.inTurn {α σ : Type} (use : σ → CacheUse α → CacheReport α × σ) (size : σ → Nat) :
    σ → List (CacheUse α) → List (CacheReport α × Nat) × σ
  | s, [] => ([], s)
  | s, u :: uses =>
    let (report, s) := use s u
    let (reports, last) := inTurn use size s uses
    ((report, size s) :: reports, last)

namespace Cache

variable {α : Type}

/-- Stores an entry and reports it. A cache that is full stays as it is. -/
def store (c : Cache α) (k : CacheKey) (e : CacheEntry α) : CacheReport α × Cache α :=
  match c.put k e with
  | .ok (replaced, c') => (.stored replaced, c')
  | .error f => (.full f.capacity, c)

def use (c : Cache α) : CacheUse α → CacheReport α × Cache α
  | .put k payload now => c.store k ⟨payload, now⟩
  | .putEntry k e => c.store k e
  | .get k => (.found (c.get? k), c)
  | .invalidate k =>
    let (there, c') := c.invalidate k
    (.removed there, c')
  | .clear =>
    let (count, c') := c.clear
    (.cleared count, c')

def useAll (c : Cache α) (uses : List (CacheUse α)) : List (CacheReport α × Nat) × Cache α :=
  CacheUse.inTurn use size c uses

end Cache

end SoapGateway
