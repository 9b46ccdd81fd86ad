import SoapGateway.Cache
import SoapGateway.Codec
import SoapGateway.DenyList

/-!
# The dispatcher

Every operation goes through the same stages: the life span of the request, the deny-list, the body,
the cache, the remote call, the answer, and the cache again. A run is cut in two where it waits for
the remote service: `begin` takes it up to the call or to its end, `finish` from the outcome of the
call to the end. A run that fails never stores anything.

Each of the two stretches is one step, and runs interleave at the wait between them only. A runtime
of many threads may be at work for other tasks in the middle of a stretch; only the cache and the
deny-list are shared then, and each access to one of them takes its lock for itself. What may come
between two accesses of one stretch is not described here.
-/
namespace SoapGateway

open Calendar (Instant)

/-- What the cache holds: the response of an operation, or something else. -/
inductive Stored where
  | response (o : Operation) (r : Response o.descriptor.response)
  | foreign
  deriving DecidableEq, Repr

def Stored.as? (o : Operation) : Stored → Option (Response o.descriptor.response)
  | response o' r => if h : o' = o then some (h ▸ r) else none
  | foreign => none

structure Fetched (o : Operation) where
  payload : Response o.descriptor.response
  createdAt : Instant
  fromCache : Bool
  deriving DecidableEq, Repr

abbrev Result (o : Operation) := Except Failure (Fetched o)

/-- What the runs of a gateway share and change. -/
structure Shelf where
  cache : Cache Stored := {}
  denied : DenyList := {}
  deriving DecidableEq, Repr

/-- Whether a run may be answered from the cache. -/
inductive Mode where
  | cached
  /-- Drops what is cached and fetches anew. -/
  | fresh
  deriving DecidableEq, Repr

inductive CallOutcome where
  /-- The request expired while the call was under way. -/
  | expired
  | failed (fault : CallFault)
  | answered (body : List UInt8)
  deriving DecidableEq, Repr

/-- How far a run gets before it waits. -/
inductive Begun (o : Operation) where
  | finished (result : Result o)
  | calling (call : SoapRequest)

/-- The fixed settings of a dispatcher; `ttl` counts microseconds. -/
structure Dispatcher where
  codec : Codec := {}
  ttl : Nat
  deriving DecidableEq, Repr

namespace Operation

/-- The key of a body. A snapshot has one key for all bodies. -/
def cacheKey (o : Operation) (body : List UInt8) : CacheKey :=
  match o.descriptor.policy with
  | .ttl => ⟨o.name, Utf8.decodeLossy body⟩
  | .snapshot => ⟨o.name, ""⟩

def parse (o : Operation) (l : Layouts) (body : List UInt8) : Except Failure Request :=
  Request.parse o.descriptor.request l body

def decode (o : Operation) (body : List UInt8) : Except Failure (Response o.descriptor.response) :=
  Response.decode o.descriptor.response o.descriptor.target body

def isOutdated (o : Operation) {α : Type} (e : CacheEntry α) (now : Instant) (ttl : Nat) : Bool :=
  match o.descriptor.policy with
  | .ttl => e.isStale now ttl
  | .snapshot => e.isFuture now

end Operation

namespace Shelf

/-- Drops the entry of an operation and body, and says whether there was one. -/
def invalidate (s : Shelf) (o : Operation) (body : List UInt8) : Bool × Shelf :=
  let (removed, cache) := s.cache.invalidate (o.cacheKey body)
  (removed, { s with cache := cache })

def prohibits (s : Shelf) (o : Operation) : Bool := s.denied.contains o.name

/-- Stores a response; a full cache leaves everything as it is. -/
def store (s : Shelf) (o : Operation) (body : List UInt8) (r : Response o.descriptor.response)
    (now : Instant) : Shelf :=
  match s.cache.put (o.cacheKey body) ⟨.response o r, now⟩ with
  | .ok (_, cache) => { s with cache := cache }
  | .error _ => s

end Shelf

namespace Dispatcher

/-- A usable response in the cache. -/
def lookup (d : Dispatcher) (s : Shelf) (now : Instant) (o : Operation) (body : List UInt8) :
    Option (Fetched o) :=
  match s.cache.get? (o.cacheKey body) with
  | none => none
  | some e =>
    if o.isOutdated e now d.ttl then none
    else (e.payload.as? o).map fun r => ⟨r, e.createdAt, true⟩

/-- Takes a run up to its remote call, or to its end. -/
def begin (d : Dispatcher) (s : Shelf) (now : Instant) (expired : Bool) (o : Operation)
    (body : List UInt8) (mode : Mode) : Shelf × Begun o :=
  if expired then (s, .finished (.error .expired))
  else if s.prohibits o then (s, .finished (.error (.prohibited o.name)))
  else
    let s := match mode with
      | .cached => s
      | .fresh => (s.invalidate o body).2
    match o.parse d.codec.layouts body with
    | .error f => (s, .finished (.error f))
    | .ok request =>
      let hit := match mode with
        | .cached => d.lookup s now o body
        | .fresh => none
      match hit with
      | some fetched => (s, .finished (.ok fetched))
      | none =>
        match d.codec.encode o.name request with
        | .error f => (s, .finished (.error (f.within o.name)))
        | .ok call => (s, .calling call)

def receive (o : Operation) (outcome : CallOutcome) :
    Except Failure (Response o.descriptor.response) :=
  match outcome with
  | .expired => .error (.within o.name .expired)
  | .failed fault => .error (.within o.name (.call fault))
  | .answered answer =>
    match o.decode answer with
    | .error f => .error (f.within o.name)
    | .ok r => .ok r.sanitize

/-- Takes a run from the outcome of its call to its end. -/
def finish (s : Shelf) (now : Instant) (expired : Bool) (o : Operation) (body : List UInt8)
    (outcome : CallOutcome) : Shelf × Result o :=
  match receive o outcome with
  | .error f => (s, .error f)
  | .ok r =>
    if expired then (s, .error .expired)
    else (s.store o body r now, .ok ⟨r, now, false⟩)

end Dispatcher

end SoapGateway
