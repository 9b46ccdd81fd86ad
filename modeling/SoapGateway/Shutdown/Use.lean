import SoapGateway.Shutdown

/-!
# Uses of the shutdown signal

What can be done with the signal, and what each step reports. Receivers come and go, and each of
them takes what waits for it when it likes.
-/
namespace SoapGateway.Shutdown

inductive Step where
  | subscribe
  | trigger
  | drop (index : Nat)
  | receive (index : Nat)
  deriving DecidableEq, Repr

inductive Report where
  | subscribed (index : Nat)
  | triggered
  | dropped (there : Bool)
  /-- What a receiver gets, if it is there. -/
  | received (received : Option Received)
  deriving DecidableEq, Repr

/-- Steps one after the other, each with its report, and what is left in the end. `perform` is what
one step does. -/
def Step.inTurn {σ : Type} (perform : σ → Step → Report × σ) :
    σ → List Step → List (Step × Report) × σ
  | s, [] => ([], s)
  | s, step :: steps =>
    let (report, s) := perform s step
    let (log, last) := inTurn perform s steps
    ((step, report) :: log, last)

def perform (s : Shutdown) : Step → Report × Shutdown
  | .subscribe =>
    let (index, s) := s.subscribe
    (.subscribed index, s)
  | .trigger => (.triggered, s.trigger)
  | .drop index =>
    let (there, s) := s.drop index
    (.dropped there, s)
  | .receive index =>
    let (received, s) := s.receive index
    (.received received, s)

def run (s : Shutdown) (steps : List Step) : List (Step × Report) × Shutdown :=
  Step.inTurn perform s steps

end SoapGateway.Shutdown
