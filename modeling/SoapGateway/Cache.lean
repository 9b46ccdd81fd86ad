import SoapGateway.Calendar.Instant

/-!
# The result cache

A bounded map from operation and body to entries, each stamped with the instant at which it was
stored. The clock is not part of the cache: whoever asks for an entry's age says what time it is. A
capacity of zero means no bound. `get?` is the view of the cache as a map.
-/
namespace SoapGateway

open Calendar (Instant)

structure CacheKey where
  operation : String
  body : String
  deriving DecidableEq, Repr

structure CacheEntry (α : Type) where
  payload : α
  createdAt : Instant
  deriving DecidableEq, Repr

namespace CacheEntry

def isFuture {α : Type} (e : CacheEntry α) (now : Instant) : Bool := now < e.createdAt

/-- Whether an entry has reached the age `ttl`, in microseconds, or lies in the future. -/
def isStale {α : Type} (e : CacheEntry α) (now : Instant) (ttl : Nat) : Bool :=
  e.isFuture now || (ttl : Int) ≤ now - e.createdAt

/-- How an entry is shown; its payload is not. -/
def shown {α : Type} (e : CacheEntry α) : String :=
  "CacheEntry \x7b created_at: " ++ Instant.exactText e.createdAt ++ ", .. \x7d"

end CacheEntry

/-- A bounded map of entries; `capacity` zero means unbounded. -/
structure Cache (α : Type) where
  capacity : Nat := 0
  entries : List (CacheKey × CacheEntry α) := []
  deriving DecidableEq, Repr

/-- A new key does not fit. -/
structure CacheFull where
  capacity : Nat
  deriving DecidableEq, Repr

def CacheFull.message (f : CacheFull) : String :=
  "cache is full (" ++ Text.ofNat f.capacity ++ " entries)"

namespace Cache

variable {α : Type}

def empty (capacity : Nat) : Cache α := ⟨capacity, []⟩

def get? (c : Cache α) (k : CacheKey) : Option (CacheEntry α) := c.entries.lookup k

def size (c : Cache α) : Nat := c.entries.length

def contains (c : Cache α) (k : CacheKey) : Bool := (c.get? k).isSome

def erase (c : Cache α) (k : CacheKey) : Cache α :=
  { c with entries := c.entries.filter fun e => e.1 != k }

/-- Stores an entry, and says whether it replaces one. Only a new key can be refused. -/
def put (c : Cache α) (k : CacheKey) (e : CacheEntry α) : Except CacheFull (Bool × Cache α) :=
  if 0 < c.capacity ∧ c.capacity ≤ c.size ∧ c.contains k = false then .error ⟨c.capacity⟩
  else .ok (c.contains k, { c with entries := (k, e) :: (c.erase k).entries })

/-- Removes an entry, and says whether there was one. -/
def invalidate (c : Cache α) (k : CacheKey) : Bool × Cache α := (c.contains k, c.erase k)

def clear (c : Cache α) : Nat × Cache α := (c.size, { c with entries := [] })

end Cache

end SoapGateway
