import SoapGateway.Dispatcher

/-!
# Sessions

The dispatcher when one thing happens at a time: a run goes from its beginning to its end before
anything else is done. How the wait for the remote service ends is given for each call that a run
may make, since the service, the clock and the context of the request decide it together.
-/
namespace SoapGateway

open Calendar (Instant)

/-- What has come of the wait for a call. -/
structure Awaited where
  outcome : CallOutcome
  /-- The clock by then. -/
  clock : Instant
  /-- Whether the request has expired by then. -/
  expired : Bool
  deriving DecidableEq, Repr

/-- The gateway between two steps, with the clock that stamps results. -/
structure Session where
  shelf : Shelf
  clock : Instant
  deriving DecidableEq, Repr

structure Served (o : Operation) where
  after : Session
  /-- The remote calls that were started. -/
  calls : List SoapRequest
  result : Result o

/-- Takes a run from its beginning to its end; `expired` is whether its request has expired when it
begins. -/
def Dispatcher.run (d : Dispatcher) (w : Session) (expired : Bool) (o : Operation)
    (body : List UInt8) (mode : Mode) (wait : SoapRequest → Awaited) : Served o :=
  match d.begin w.shelf w.clock expired o body mode with
  | (shelf, .finished result) => ⟨⟨shelf, w.clock⟩, [], result⟩
  | (shelf, .calling call) =>
    let a := wait call
    let (shelf, result) := finish shelf a.clock a.expired o body a.outcome
    ⟨⟨shelf, a.clock⟩, [call], result⟩

namespace Session

inductive Step where
  | run (expired : Bool) (o : Operation) (body : List UInt8) (mode : Mode)
      (wait : SoapRequest → Awaited)
  | invalidate (o : Operation) (body : List UInt8)
  | clear
  | deny (name : String)
  | setClock (t : Instant)
  /-- Something that is no response is put under a key. -/
  | plant (key : CacheKey) (t : Instant)

def initial (capacity : Nat) (denied : DenyList) (clock : Instant) : Session :=
  ⟨⟨.empty capacity, denied⟩, clock⟩

/-- Puts something that is no response under a key, unless the cache is full. -/
def plant (w : Session) (key : CacheKey) (t : Instant) : Session :=
  match w.shelf.cache.put key ⟨.foreign, t⟩ with
  | .ok (_, cache) => { w with shelf := { w.shelf with cache } }
  | .error _ => w

def step (d : Dispatcher) (w : Session) : Step → Session
  | .run expired o body mode wait => (d.run w expired o body mode wait).after
  | .invalidate o body => { w with shelf := (w.shelf.invalidate o body).2 }
  | .clear => { w with shelf := { w.shelf with cache := w.shelf.cache.clear.2 } }
  | .deny name => { w with shelf := { w.shelf with denied := (w.shelf.denied.add name).2 } }
  | .setClock t => { w with clock := t }
  | .plant key t => w.plant key t

def play (d : Dispatcher) (w : Session) (steps : List Step) : Session := steps.foldl (step d) w

end Session

end SoapGateway
