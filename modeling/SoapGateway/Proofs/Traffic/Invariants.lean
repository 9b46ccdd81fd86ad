import SoapGateway.Proofs.Session.Runs
import SoapGateway.Proofs.Traffic.Runs

/-!
# What lasts

Two kinds of facts hold at every moment of any traffic: what no use of the cache breaks, and what a
run has from its start on and keeps when its context changes and when it ends.
-/
namespace SoapGateway.Traffic

open Calendar (Instant)

/-- What a run has from its start on. -/
structure Lasting (d : Dispatcher) (P : Run → Prop) : Prop where
  begun : ∀ {s s' : Shelf} {now : Instant} {o : Operation} {body : List UInt8} {expired : Bool}
    {mode : Mode} {b : Begun o} (context : Context),
    Dispatcher.Beginning d s now o body expired mode s' b → P (.ofBegun o body mode context now b)
  context : ∀ {r : Run} (c : Context), P r → P { r with context := c }
  settled : ∀ {r : Run} {s s' : Shelf} {now : Instant} {expired : Bool} {outcome : CallOutcome}
    {result : Result r.operation}, P r → r.isWaiting = true →
    Dispatcher.Finish s now r.operation r.body expired outcome s' result →
    P (r.settled outcome s' now result)

namespace Scene

variable {d : Dispatcher} {w : Scene}

/-- What no use of the cache breaks, no act breaks. -/
theorem step_cache {P : Cache Stored → Prop} (closed : Cache.Closed P) (holds : P w.shelf.cache)
    (a : Act) : P (w.step d a).shelf.cache := by
  cases a with
  | start o body mode context =>
    have begun := Dispatcher.begin_cases d w.shelf w.clock (context.isExpired w.time) o body mode
    exact begun.closed closed holds
  | poll id arrival =>
    rcases w.poll_cases id arrival with same | ⟨r, c, time, outcome, _, _, settled⟩
    · rw [step, same]
      exact holds
    · obtain ⟨shelf, result, finish, settle⟩ :=
        settle_cases { w with time } id { r with context := c } outcome
      rw [step, settled, settle]
      exact finish.closed closed holds
  | cancel id =>
    rw [step, cancel]
    split <;> exact holds
  | plant key t =>
    rw [step, plant]
    split
    · next planted => exact closed.put holds planted
    · exact holds
  | invalidate o body => exact closed.erase (o.cacheKey body) holds
  | clear => exact closed.clear holds
  | wait => exact holds
  | setClock => exact holds
  | deny => exact holds

theorem play_cache {P : Cache Stored → Prop} (closed : Cache.Closed P) (holds : P w.shelf.cache)
    (acts : List Act) : P (w.play d acts).shelf.cache := by
  induction acts generalizing w with
  | nil => exact holds
  | cons a acts ih => exact ih (step_cache closed holds a)

/-- What lasts is kept for every run by every act. -/
theorem step_each {P : Run → Prop} (lasting : Lasting d P) (each : ∀ r ∈ w.runs, P r) (a : Act) :
    ∀ r ∈ (w.step d a).runs, P r := by
  cases a with
  | start o body mode context =>
    intro r member
    rcases List.mem_append.mp member with old | new
    · exact each r old
    · rw [List.mem_singleton.mp new]
      exact lasting.begun context (Dispatcher.begin_cases ..)
  | poll id arrival =>
    rcases w.poll_cases id arrival with same | ⟨q, c, time, outcome, found, waiting, settled⟩
    · rw [step, same]
      exact each
    · obtain ⟨shelf, result, finish, settle⟩ :=
        settle_cases { w with time } id { q with context := c } outcome
      rw [step, settled, settle]
      intro r member
      rcases List.mem_or_eq_of_mem_set member with old | rfl
      · exact each r old
      · have before : P q := each q (List.mem_of_getElem? found)
        exact lasting.settled (lasting.context c before) waiting finish
  | cancel id =>
    rw [step, cancel]
    split
    · exact each
    · next q found =>
      intro r member
      rcases List.mem_or_eq_of_mem_set member with old | rfl
      · exact each r old
      · exact lasting.context _ (each q (List.mem_of_getElem? found))
  | plant key t =>
    rw [step, plant]
    split <;> exact each
  | invalidate => exact each
  | clear => exact each
  | wait => exact each
  | setClock => exact each
  | deny => exact each

theorem play_each {P : Run → Prop} (lasting : Lasting d P) (each : ∀ r ∈ w.runs, P r)
    (acts : List Act) : ∀ r ∈ (w.play d acts).runs, P r := by
  induction acts generalizing w with
  | nil => exact each
  | cons a acts ih => exact ih (step_each lasting each a)

end Scene

end SoapGateway.Traffic
