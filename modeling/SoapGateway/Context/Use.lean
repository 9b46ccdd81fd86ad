import SoapGateway.Context
import SoapGateway.Failure

/-!
# Uses of a context

A context and its copies share one token of cancellation, and everyone who has a token can hand out
further tokens below it. A token is lost together with every token that it lies below, and with no
other one. `perform` says what one use of a context or of its copy does and reports.
-/
namespace SoapGateway

/-- A token of cancellation, named by the way that leads down to it. -/
abbrev TokenPath := List Nat

structure Handle where
  token : TokenPath := []
  deadline : Option Nat := none
  requestId : Option String := none
  deriving DecidableEq, Repr

inductive Holder where
  | owner | copy
  deriving DecidableEq, Repr

/-- A context and a copy of it at a moment. -/
structure Lifetime where
  /-- The tokens that were cancelled by themselves. -/
  cancelled : List TokenPath := []
  now : Nat := 0
  own : Handle := {}
  copied : Handle := {}
  deriving DecidableEq, Repr

namespace Context

def withTimeouts (c : Context) (timeouts : List (Nat × Nat)) : Context :=
  timeouts.foldl (fun c t => c.withTimeout t.1 t.2) c

/-- A context and a copy of it that is made at once. -/
def lifetime (c : Context) (now : Nat) : Lifetime :=
  let handle : Handle := { deadline := c.deadline, requestId := c.requestId }
  { cancelled := if c.cancelled then [handle.token] else [], now, own := handle, copied := handle }

end Context

namespace Lifetime

variable {α : Type}

def handle (l : Lifetime) : Holder → Handle
  | .owner => l.own
  | .copy => l.copied

/-- Whether a token or one above it was cancelled. -/
def isCancelled (l : Lifetime) (t : TokenPath) : Bool := l.cancelled.any (·.isPrefixOf t)

/-- What a context is to one of its holders. -/
def view (l : Lifetime) (h : Holder) : Context :=
  ⟨l.isCancelled (l.handle h).token, (l.handle h).deadline, (l.handle h).requestId⟩

def isExpired (l : Lifetime) (h : Holder) : Bool := (l.view h).isExpired l.now

def cancelToken (l : Lifetime) (t : TokenPath) : Lifetime :=
  { l with cancelled := t :: l.cancelled }

def cancel (l : Lifetime) (h : Holder) : Lifetime := l.cancelToken (l.handle h).token

/-- Cancels a token right below the one of the context. -/
def cancelChild (l : Lifetime) (h : Holder) (index : Nat) : Lifetime :=
  l.cancelToken ((l.handle h).token ++ [index])

/-- Drives work that takes `ms` milliseconds and yields `output`. If it comes to its end it may
cancel the context in its last step. -/
def drive (l : Lifetime) (h : Holder) (ms : Nat) (output : α) (cancels : Bool) :
    Except Failure α × Lifetime :=
  let (finished, later) := (l.view h).drive l.now ms
  if finished then (.ok output, { (if cancels then l.cancel h else l) with now := later })
  else (.error .expired, { l with now := later })

inductive Step (α : Type) where
  | cancel (h : Holder)
  | cancelChild (h : Holder) (index : Nat)
  | wait (ms : Nat)
  | run (h : Holder) (ms : Nat) (output : α) (cancels : Bool)
  deriving DecidableEq, Repr

/-- The result of a run, if the step was one, and whom the context is expired for after the step. -/
structure Report (α : Type) where
  result : Option (Except Failure α)
  expired : Holder → Bool

/-- What a step does, with the result if it is a run. -/
def act (l : Lifetime) : Step α → Option (Except Failure α) × Lifetime
  | .cancel h => (none, l.cancel h)
  | .cancelChild h index => (none, l.cancelChild h index)
  | .wait ms => (none, { l with now := l.now + ms })
  | .run h ms output cancels =>
    let (result, l) := l.drive h ms output cancels
    (some result, l)

def perform (l : Lifetime) (step : Step α) : Report α × Lifetime :=
  let (result, l) := l.act step
  (⟨result, l.isExpired⟩, l)

/-- Steps one after the other, each with its report, and what is left in the end. -/
def play (l : Lifetime) : List (Step α) → List (Step α × Report α) × Lifetime
  | [] => ([], l)
  | step :: steps =>
    let (report, l) := l.perform step
    let (log, last) := l.play steps
    ((step, report) :: log, last)

end Lifetime

end SoapGateway
