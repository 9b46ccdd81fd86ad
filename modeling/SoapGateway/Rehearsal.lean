import SoapGateway.Context
import SoapGateway.Dispatcher

/-!
# Rehearsals

Runs of the dispatcher against a remote service that follows a script. Time is virtual and counted
in milliseconds: nothing happens between two moments at which a call ends or a deadline comes. At
each moment the runs are looked at in order, and a run that loses its context loses it before its
call can end. The clock that stamps results is another one; only the script and the caller move it.
-/
namespace SoapGateway

open Calendar (Instant)

/-- How a clock is moved: forward, then to an instant. -/
structure ClockMove where
  advance : Nat := 0
  set : Option Instant := none
  deriving DecidableEq, Repr

def ClockMove.apply (m : ClockMove) (t : Instant) : Instant := m.set.getD (t + m.advance)

/-- Microseconds that a clock moves when it is told to move a number of seconds: none, if they are
too many. -/
def secondsForward (seconds : Nat) : Nat :=
  if seconds ≤ 9223372036854775 then seconds * 1000000 else 0

/-- How the remote service plays one call. -/
structure Reply where
  delay : Nat := 0
  clock : ClockMove := {}
  /-- Whether the contexts of all current runs are cancelled when the call ends. -/
  cancels : Bool := false
  answer : Except CallFault (List UInt8) := .ok []

/-- The replies in turn; the last one is repeated. -/
abbrev Script := List Reply

def Script.reply (s : Script) (n : Nat) : Reply :=
  match s[n]? with
  | some r => r
  | none => s.getLast?.getD {}

structure Answer where
  payload : String
  createdAt : Instant
  fromCache : Bool
  deriving DecidableEq, Repr

def Result.answer {o : Operation} (r : Result o) : Except Failure Answer :=
  r.map fun f => ⟨f.payload.payload, f.createdAt, f.fromCache⟩

inductive Stage where
  | waiting
  /-- A call is under way and ends at the millisecond `wake`. -/
  | calling (reply : Reply) (wake : Nat)
  | done (result : Except Failure Answer)

structure Run where
  operation : Operation
  body : List UInt8
  mode : Mode
  context : Context
  stage : Stage := .waiting

structure Stagecraft where
  dispatcher : Dispatcher
  script : Script := []
  shelf : Shelf := {}
  /-- The clock that stamps results. -/
  clock : Instant := 0
  /-- Virtual milliseconds. -/
  time : Nat := 0
  calls : Nat := 0
  /-- Calls since the last step. -/
  sent : List SoapRequest := []
  /-- Whether the contexts of the current runs have been cancelled. -/
  cancelled : Bool := false

namespace Stagecraft

def expired (w : Stagecraft) (r : Run) : Bool := w.cancelled || r.context.isExpired w.time

def conclude (w : Stagecraft) (r : Run) (outcome : CallOutcome) : Stagecraft × Run :=
  let (shelf, result) :=
    Dispatcher.finish w.shelf w.clock (w.expired r) r.operation r.body outcome
  ({ w with shelf := shelf }, { r with stage := .done result.answer })

def deliver (w : Stagecraft) (r : Run) (reply : Reply) : Stagecraft × Run :=
  let w := { w with clock := reply.clock.apply w.clock, cancelled := w.cancelled || reply.cancels }
  w.conclude r (match reply.answer with
    | .ok body => .answered body
    | .error fault => .failed fault)

/-- Goes on with a run as far as it gets at this moment. -/
def poll (w : Stagecraft) (r : Run) : Stagecraft × Run :=
  match r.stage with
  | .done _ => (w, r)
  | .calling reply wake =>
    if w.expired r then w.conclude r .expired
    else if wake ≤ w.time then w.deliver r reply
    else (w, r)
  | .waiting =>
    match w.dispatcher.begin w.shelf w.clock (w.expired r) r.operation r.body r.mode with
    | (shelf, .finished result) =>
      ({ w with shelf := shelf }, { r with stage := .done result.answer })
    | (shelf, .calling call) =>
      let reply := w.script.reply w.calls
      let w := { w with shelf := shelf, calls := w.calls + 1, sent := w.sent ++ [call] }
      if reply.delay = 0 then w.deliver r reply
      else (w, { r with stage := .calling reply (w.time + reply.delay) })

def pollAll (w : Stagecraft) : List Run → Stagecraft × List Run
  | [] => (w, [])
  | r :: rest =>
    let (w, r) := w.poll r
    let (w, rest) := w.pollAll rest
    (w, r :: rest)

/-- When something next happens to a run. -/
def nextMoment (r : Run) : Option Nat :=
  match r.stage with
  | .calling _ wake => some (match r.context.deadline with
    | some d => min d wake
    | none => wake)
  | _ => none

/-- Goes on with runs until all are done. Each round ends one at least, which bounds the rounds. -/
def settle : Nat → Stagecraft → List Run → Stagecraft × List Run
  | 0, w, rs => (w, rs)
  | n + 1, w, rs =>
    let (w, rs) := w.pollAll rs
    match (rs.filterMap nextMoment).min? with
    | none => (w, rs)
    | some moment =>
      settle n { w with time := if w.cancelled then w.time else max w.time moment } rs

def resultOf (r : Run) : Except Failure Answer :=
  match r.stage with
  | .done result => result
  | _ => .error .expired

def play (w : Stagecraft) (rs : List Run) : Stagecraft × List (Except Failure Answer) :=
  let (w, rs) := settle (2 * rs.length + 2) { w with cancelled := false } rs
  ({ w with cancelled := false }, rs.map resultOf)

/-- Forgets the calls that were listed before a step. -/
def startStep (w : Stagecraft) : Stagecraft := { w with sent := [] }

/-- Drops the entry of an operation and body, and says whether there was one. -/
def invalidate (w : Stagecraft) (o : Operation) (body : List UInt8) : Bool × Stagecraft :=
  let (removed, shelf) := w.shelf.invalidate o body
  (removed, { w with shelf := shelf })

def moveClock (w : Stagecraft) (m : ClockMove) : Stagecraft := { w with clock := m.apply w.clock }

def deny (w : Stagecraft) (name : String) : Bool × Stagecraft :=
  let (new, denied) := w.shelf.denied.add name
  (new, { w with shelf := { w.shelf with denied := denied } })

def clear (w : Stagecraft) : Nat × Stagecraft :=
  let (removed, cache) := w.shelf.cache.clear
  (removed, { w with shelf := { w.shelf with cache := cache } })

/-- Stores an entry that is no response under the key of an operation and body. -/
def poison (w : Stagecraft) (o : Operation) (body : List UInt8) (at_ : Instant) :
    Except CacheFull (Bool × Stagecraft) :=
  (w.shelf.cache.put (o.cacheKey body) ⟨.foreign, at_⟩).map fun (replaced, cache) =>
    (replaced, { w with shelf := { w.shelf with cache := cache } })

def peek (w : Stagecraft) (o : Operation) (body : List UInt8) : Option (CacheEntry Stored) :=
  w.shelf.cache.get? (o.cacheKey body)

end Stagecraft

end SoapGateway
