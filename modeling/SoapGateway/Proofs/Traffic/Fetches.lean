import SoapGateway.Proofs.Traffic.Coherence
import SoapGateway.Proofs.Traffic.Invariants

/-!
# What runs fetch

A run that does not answer out of the cache answers what its own call was answered. This lasts from
the start of the run on, whatever else goes on, and whether or not the cache takes the answer.
-/
namespace SoapGateway.Traffic

open Calendar (Instant)

variable {d : Dispatcher}

/-- The run `q` of `o` made the call that `body` is read and written as, and `payload` is the
cleaned reading of what that call answered. -/
structure Fetches (d : Dispatcher) (q : Run) (o : Operation) (body : List UInt8)
    (payload : Response o.descriptor.response) : Prop where
  operation : q.operation = o
  call : ∃ request call, o.parse d.codec.layouts body = .ok request ∧
    d.codec.encode o.name request = .ok call ∧ q.call = some call
  answer : ∃ answer raw, q.outcome = some (.answered answer) ∧ o.decode answer = .ok raw ∧
    payload = raw.sanitize

/-- Bodies with one key that are both accepted ask for the same call. -/
theorem Fetches.of_cacheKey {q : Run} {o : Operation} {body body' : List UInt8} {request : Request}
    {payload : Response o.descriptor.response} (fetches : Fetches d q o body payload)
    (same : o.cacheKey body = o.cacheKey body')
    (parsed : o.parse d.codec.layouts body' = .ok request) : Fetches d q o body' payload := by
  obtain ⟨request', call, parsed', encoded, made⟩ := fetches.call
  have agree : request' = request := Operation.parse_agree same parsed' parsed
  rw [agree] at encoded
  exact ⟨fetches.operation, ⟨request, call, parsed, encoded, made⟩, fetches.answer⟩

/-- A run that waits has made its own call, and what it does not return out of the cache it has
fetched. -/
structure Honest (d : Dispatcher) (r : Run) : Prop where
  called : Called d r
  fetched : ∀ {now : Instant} {f : Fetched r.operation}, r.ending = some (now, .ok f) →
    f.fromCache = false → Fetches d r r.operation r.body f.payload

theorem lasting_honest (d : Dispatcher) : Lasting d (Honest d) where
  begun {s s' now o body expired mode b} context begun := by
    refine ⟨called_ofBegun context begun, fun {_ f} ended fetched => ?_⟩
    cases begun with
    | hit _ _ found =>
      cases ended
      rw [(Dispatcher.lookup_eq_some found).2.1] at fetched
      cases fetched
    | _ => cases ended
  context c honest := by
    refine ⟨honest.called.context c, fun ended fetched => ?_⟩
    obtain ⟨_, call, answer⟩ := honest.fetched ended fetched
    exact ⟨rfl, call, answer⟩
  settled {r s s' now expired outcome result} honest waiting finish := by
    refine ⟨fun waits => ?_, fun {_ f} ended _ => ?_⟩
    · simp [Run.isWaiting, Run.settled] at waits
    · have ok : result = .ok f := (Prod.mk.inj (Option.some.inj ended)).2
      rw [ok] at finish
      cases finish with
      | done received =>
        obtain ⟨answer, raw, answered, decoded, cleaned⟩ := Dispatcher.receive_eq_ok received
        exact ⟨rfl, honest.called waiting, answer, raw, congrArg some answered, decoded, cleaned⟩

/-- Every run of traffic that starts with none is honest. -/
theorem honest_play (d : Dispatcher) (capacity : Nat) (denied : DenyList) (clock : Instant)
    (time : Nat) (acts : List Act) {id : Nat} {r : Run}
    (found : (Scene.play d (.initial capacity denied clock time) acts).runs[id]? = some r) :
    Honest d r := by
  have noRuns : ∀ r ∈ (Scene.initial capacity denied clock time).runs, Honest d r := by
    intro r member
    cases member
  exact Scene.play_each (lasting_honest d) noRuns acts r (List.mem_of_getElem? found)

end SoapGateway.Traffic
