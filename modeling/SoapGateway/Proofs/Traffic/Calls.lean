import SoapGateway.Proofs.Traffic.Runs

/-!
# Calls

Calls are started where runs start, one at most by each run, and by nothing else.
-/
namespace SoapGateway

open Calendar (Instant)

/-- A run makes the call of its operation and body, which is not denied, or none. -/
theorem Dispatcher.Beginning.call_ofBegun {d : Dispatcher} {s s' : Shelf} {now : Instant}
    {o : Operation} {body : List UInt8} {expired : Bool} {mode : Mode} {b : Begun o}
    (begun : Beginning d s now o body expired mode s' b) (context : Context) (clock : Instant) :
    (Traffic.Run.ofBegun o body mode context clock b).call = none ∨
    ∃ request call, s.prohibits o = false ∧ o.parse d.codec.layouts body = .ok request ∧
      d.codec.encode o.name request = .ok call ∧
      (Traffic.Run.ofBegun o body mode context clock b).call = some call := by
  cases begun with
  | calling allowed parsed _ encoded => exact .inr ⟨_, _, allowed, parsed, encoded, rfl⟩
  | expired | prohibited | refused | hit | unwritten => exact .inl rfl

namespace Traffic.Scene

/-- The remote calls that were started, in the order of their runs. -/
def calls (w : Scene) : List SoapRequest := w.runs.filterMap (·.call)

theorem filterMap_call_set {runs : List Run} {j : Nat} {r r' : Run} (found : runs[j]? = some r)
    (same : r'.call = r.call) : (runs.set j r').filterMap (·.call) = runs.filterMap (·.call) := by
  obtain ⟨inside, own⟩ := List.getElem?_eq_some_iff.mp found
  have mapped : j < (runs.map Run.call).length := by rwa [List.length_map]
  have call : (runs.map Run.call)[j] = r'.call := by rw [List.getElem_map, own, same]
  have calls : (runs.set j r').map Run.call = runs.map Run.call := by
    rw [List.map_set, ← call, List.set_getElem_self]
  have merged := congrArg (List.filterMap id) calls
  rwa [List.filterMap_map, List.filterMap_map] at merged

/-- A look at a run leaves as many runs as there were, with the same calls. -/
theorem poll_runs (w : Scene) (id : Nat) (arrival : Option Arrival) :
    (w.poll id arrival).runs.length = w.runs.length ∧ (w.poll id arrival).calls = w.calls := by
  rcases w.poll_cases id arrival with same | ⟨r, c, time, outcome, found, _, settled⟩
  · rw [same]
    exact ⟨rfl, rfl⟩
  · rw [settled, settle]
    exact ⟨List.length_set, filterMap_call_set found rfl⟩

theorem cancel_runs (w : Scene) (id : Nat) :
    (w.cancel id).runs.length = w.runs.length ∧ (w.cancel id).calls = w.calls := by
  unfold cancel
  split
  · exact ⟨rfl, rfl⟩
  · next found => exact ⟨List.length_set, filterMap_call_set found rfl⟩

/-- A run that starts makes no call, or that of its operation and body, which is not denied. -/
theorem start_calls (d : Dispatcher) (w : Scene) (o : Operation) (body : List UInt8) (mode : Mode)
    (context : Context) :
    (w.start d o body mode context).calls = w.calls ∨
    ∃ request call, w.shelf.prohibits o = false ∧ o.parse d.codec.layouts body = .ok request ∧
      d.codec.encode o.name request = .ok call ∧
      (w.start d o body mode context).calls = w.calls ++ [call] := by
  have begun := Dispatcher.begin_cases d w.shelf w.clock (context.isExpired w.time) o body mode
  have calls : (w.start d o body mode context).calls = w.calls ++
      [Run.ofBegun o body mode context w.clock
        (d.begin w.shelf w.clock (context.isExpired w.time) o body mode).2].filterMap (·.call) :=
    List.filterMap_append
  rcases begun.call_ofBegun context w.clock with
    quiet | ⟨request, call, allowed, parsed, encoded, made⟩
  · rw [List.filterMap_cons_none quiet, List.filterMap_nil, List.append_nil] at calls
    exact .inl calls
  · rw [List.filterMap_cons_some made, List.filterMap_nil] at calls
    exact .inr ⟨request, call, allowed, parsed, encoded, calls⟩

end Traffic.Scene

end SoapGateway
