import SoapGateway.Context
import SoapGateway.Dispatcher

/-!
# Traffic

The dispatcher under any number of runs at once. A run goes on whenever it is looked at, and holds
the gateway until it waits for the remote service or ends; between two looks at it anything else may
happen: other runs, cancellations, invalidation, denials, and moves of both clocks. What the remote
service answers, and when, is part of what happens.

What a run does between two waits is one act. So it is on a runtime of one thread; one of many
threads may let other tasks run inside such a stretch, between a look at a clock, the deny-list or
the cache and the next one, and what is said of all traffic here is said up to that.
-/
namespace SoapGateway.Traffic

open Calendar (Instant)

/-- A run of an operation: what was asked, and what has come of it so far. -/
structure Run where
  operation : Operation
  body : List UInt8
  mode : Mode
  context : Context
  /-- The remote call, if one was started. -/
  call : Option SoapRequest := none
  /-- How the call ended. -/
  outcome : Option CallOutcome := none
  /-- The clock when the run ended, and the result. -/
  ending : Option (Instant × Result operation) := none
  /-- The clock when the response went into the cache. -/
  stored : Option Instant := none

namespace Run

def isWaiting (r : Run) : Bool := r.call.isSome && r.ending.isNone

def isHit (r : Run) : Bool :=
  match r.ending with
  | some (_, .ok f) => f.fromCache
  | _ => false

def isFailed (r : Run) : Bool :=
  match r.ending with
  | some (_, .error _) => true
  | _ => false

/-- A run that has been taken up to its call or its end. -/
def ofBegun (o : Operation) (body : List UInt8) (mode : Mode) (context : Context) (now : Instant) :
    Begun o → Run
  | .finished result => { operation := o, body, mode, context, ending := some (now, result) }
  | .calling call => { operation := o, body, mode, context, call := some call }

/-- When the response of a run went into the cache, if it is there. -/
def storedAt (r : Run) (s : Shelf) (now : Instant) : Result r.operation → Option Instant
  | .ok f =>
    if s.cache.get? (r.operation.cacheKey r.body) =
      some ⟨.response r.operation f.payload, f.createdAt⟩ then some now else none
  | .error _ => none

/-- A run that has ended with a result and left a shelf behind. -/
def settled (r : Run) (outcome : CallOutcome) (s : Shelf) (now : Instant)
    (result : Result r.operation) : Run :=
  { r with
    outcome := some outcome
    ending := some (now, result)
    stored := r.storedAt s now result }

end Run

/-- The end of a call: the answer, the milliseconds until it is there, and whether the context of
the run is cancelled meanwhile. -/
structure Arrival where
  answer : Except CallFault (List UInt8)
  elapsed : Nat := 0
  cancels : Bool := false

def Arrival.outcome (a : Arrival) : CallOutcome :=
  match a.answer with
  | .ok body => .answered body
  | .error fault => .failed fault

/-- The gateway at a moment, with every run so far in the order of their starts. -/
structure Scene where
  shelf : Shelf := {}
  /-- The clock that stamps results. -/
  clock : Instant := 0
  /-- Milliseconds that contexts are measured by. -/
  time : Nat := 0
  runs : List Run := []

inductive Act where
  | start (o : Operation) (body : List UInt8) (mode : Mode) (context : Context)
  /-- Looks at a run; its call may end. -/
  | poll (id : Nat) (arrival : Option Arrival)
  | cancel (id : Nat)
  | wait (ms : Nat)
  | setClock (t : Instant)
  | invalidate (o : Operation) (body : List UInt8)
  | clear
  | deny (name : String)
  /-- Something that is no response is put under a key. -/
  | plant (key : CacheKey) (t : Instant)

namespace Scene

def initial (capacity : Nat) (denied : DenyList) (clock : Instant) (time : Nat) : Scene :=
  ⟨⟨.empty capacity, denied⟩, clock, time, []⟩

/-- Takes a new run up to its call or its end. -/
def start (d : Dispatcher) (w : Scene) (o : Operation) (body : List UInt8) (mode : Mode)
    (context : Context) : Scene :=
  let (shelf, begun) := d.begin w.shelf w.clock (context.isExpired w.time) o body mode
  { w with shelf, runs := w.runs ++ [.ofBegun o body mode context w.clock begun] }

/-- Ends a run with the outcome of its call. -/
def settle (w : Scene) (id : Nat) (r : Run) (outcome : CallOutcome) : Scene :=
  let (shelf, result) :=
    Dispatcher.finish w.shelf w.clock (r.context.isExpired w.time) r.operation r.body outcome
  { w with shelf, runs := w.runs.set id (r.settled outcome shelf w.clock result) }

/-- Looks at a run. A lost context ends it before its call can. -/
def poll (w : Scene) (id : Nat) (arrival : Option Arrival) : Scene :=
  match w.runs[id]? with
  | none => w
  | some r =>
    if r.isWaiting then
      if r.context.isExpired w.time then w.settle id r .expired
      else
        match arrival with
        | none => w
        | some a =>
          let context := if a.cancels then r.context.cancel else r.context
          { w with time := w.time + a.elapsed }.settle id { r with context } a.outcome
    else w

def cancel (w : Scene) (id : Nat) : Scene :=
  match w.runs[id]? with
  | none => w
  | some r => { w with runs := w.runs.set id { r with context := r.context.cancel } }

/-- Puts something that is no response under a key, unless the cache is full. -/
def plant (w : Scene) (key : CacheKey) (t : Instant) : Scene :=
  match w.shelf.cache.put key ⟨.foreign, t⟩ with
  | .ok (_, cache) => { w with shelf := { w.shelf with cache } }
  | .error _ => w

def step (d : Dispatcher) (w : Scene) : Act → Scene
  | .start o body mode context => w.start d o body mode context
  | .poll id arrival => w.poll id arrival
  | .cancel id => w.cancel id
  | .wait ms => { w with time := w.time + ms }
  | .setClock t => { w with clock := t }
  | .invalidate o body => { w with shelf := (w.shelf.invalidate o body).2 }
  | .clear => { w with shelf := { w.shelf with cache := w.shelf.cache.clear.2 } }
  | .deny name => { w with shelf := { w.shelf with denied := (w.shelf.denied.add name).2 } }
  | .plant key t => w.plant key t

/-- Whether an act is a step of the run numbered `id`: its start, or a look at it. -/
def isStepOf (w : Scene) (id : Nat) : Act → Prop
  | .start _ _ _ _ => id = w.runs.length
  | .poll id' _ => id = id'
  | _ => False

def play (d : Dispatcher) (w : Scene) (acts : List Act) : Scene := acts.foldl (step d) w

end Scene

end SoapGateway.Traffic
