import SoapGateway.Proofs.Failure
import SoapGateway.Proofs.Session.Runs

/-!
# Results and their calls

What a run returns tells how many remote calls it made. Failures from before the call are bare, with
the exception of an envelope that could not be written; that one and every failure of the remote
stage carry the name of the operation, once.
-/
namespace SoapGateway.Dispatcher

open Calendar (Instant)

/-- The results of a run that made a number of calls. -/
inductive Accounted (o : Operation) : Result o → Nat → Prop
  | fetched (r : Response o.descriptor.response) (now : Instant) :
    Accounted o (.ok ⟨r, now, false⟩) 1
  | hit (r : Response o.descriptor.response) (createdAt : Instant) :
    Accounted o (.ok ⟨r, createdAt, true⟩) 0
  | prohibited : Accounted o (.error (.prohibited o.name)) 0
  | badBody (detail : String) : Accounted o (.error (.badBody detail)) 0
  | reversedRange (start stop : String) : Accounted o (.error (.reversedRange start stop)) 0
  | envelope (detail : String) : Accounted o (.error (.inOperation o.name (.envelope detail))) 0
  | call (fault : CallFault) : Accounted o (.error (.inOperation o.name (.call fault))) 1
  | nodeNotFound (target : String) :
    Accounted o (.error (.inOperation o.name (.nodeNotFound target))) 1
  | badAnswer (detail : String) : Accounted o (.error (.inOperation o.name (.badAnswer detail))) 1
  /-- The request had expired when the run began. -/
  | early : Accounted o (.error .expired) 0
  /-- The request expired while the call was under way. -/
  | lost : Accounted o (.error (.inOperation o.name .expired)) 1
  /-- The request had expired when the call had been answered. -/
  | late : Accounted o (.error .expired) 1

namespace Accounted

variable {o : Operation} {f : Failure}

theorem le_one {result : Result o} {n : Nat} (accounted : Accounted o result n) : n ≤ 1 := by
  cases accounted <;> decide

theorem of_body (blame : f.OfBody) : Accounted o (.error f) 0 := by
  cases blame with
  | badBody detail => exact .badBody detail
  | reversedRange start stop => exact .reversedRange start stop

theorem of_envelope (fault : f.OfEnvelope) : Accounted o (.error (f.within o.name)) 0 := by
  cases fault with
  | envelope detail => exact .envelope detail

theorem of_answer (fault : f.OfAnswer) : Accounted o (.error (f.within o.name)) 1 := by
  cases fault with
  | nodeNotFound target => exact .nodeNotFound target
  | badAnswer detail => exact .badAnswer detail

/-- A call that gives no response fails within the operation. -/
theorem of_receive {outcome : CallOutcome} (failed : receive o outcome = .error f) :
    Accounted o (.error f) 1 := by
  unfold receive at failed
  split at failed
  · cases failed
    exact .lost
  · cases failed
    exact .call _
  · split at failed
    · next unread =>
      cases failed
      exact .of_answer (Operation.decode_error unread)
    · cases failed

end Accounted

variable {d : Dispatcher} {s s' : Shelf} {now : Instant} {expired : Bool} {o : Operation}
  {body : List UInt8} {mode : Mode}

/-- A run that ends before its call has made none. -/
theorem Beginning.accounted {result : Result o}
    (begun : Beginning d s now o body expired mode s' (.finished result)) :
    Accounted o result 0 := by
  cases begun with
  | expired => exact .early
  | prohibited => exact .prohibited
  | refused _ parsed => exact .of_body (Request.parse_error parsed)
  | @hit _ fetched _ _ found =>
    obtain ⟨r, createdAt, fromCache⟩ := fetched
    obtain ⟨_, cached, _⟩ := lookup_eq_some found
    cases cached
    exact .hit r createdAt
  | unwritten _ parsed _ encoded => exact .of_envelope (Codec.encode_error parsed encoded)

/-- A run that ends after its call has made one. -/
theorem Finish.accounted {outcome : CallOutcome} {result : Result o}
    (finish : Finish s now o body expired outcome s' result) : Accounted o result 1 := by
  cases finish with
  | failed _ received => exact .of_receive received
  | late => exact .late
  | done => exact .fetched _ now

theorem Course.accounted {w : Session} {wait : SoapRequest → Awaited} {served : Served o}
    (course : Course d w expired o body mode wait served) :
    Accounted o served.result served.calls.length := by
  cases course with
  | short begun => exact begun.accounted
  | long _ finish => exact finish.accounted

/-- Whatever the gateway holds, the caller sends and the service does, a run makes one call at most,
and its result tells how many: one for a response that was fetched, none for one out of the cache.
A refusal is bare and from before the call. A failure of the envelope or of the remote stage carries
one annotation with the operation itself; of these only the envelope is from before the call. A
request that expires is reported bare, or so annotated if its call was under way. -/
theorem run_accounted (d : Dispatcher) (w : Session) (expired : Bool) (o : Operation)
    (body : List UInt8) (mode : Mode) (wait : SoapRequest → Awaited) :
    (d.run w expired o body mode wait).calls.length ≤ 1 ∧
      Accounted o (d.run w expired o body mode wait).result
        (d.run w expired o body mode wait).calls.length := by
  have accounted := (run_cases d w expired o body mode wait).accounted
  exact ⟨accounted.le_one, accounted⟩

end SoapGateway.Dispatcher
