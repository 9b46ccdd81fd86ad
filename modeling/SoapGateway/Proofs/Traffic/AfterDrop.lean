import SoapGateway.Proofs.Traffic.LastWriter
import SoapGateway.Proofs.Traffic.Stores

/-!
# Answers after a drop

Once an entry is gone, what comes under its key again is returned by a run that has not ended by
then. So whatever later runs are answered was fetched by calls that end later, but a call may have
been under way already when the entry was dropped: it stores its answer all the same.
-/
namespace SoapGateway.Traffic

open Calendar (Instant)

variable {d : Dispatcher}

/-- A run starts after a moment, or waits at it. -/
def EndsAfter (w : Scene) (id : Nat) : Prop :=
  w.runs.length ≤ id ∨ ∃ q, w.runs[id]? = some q ∧ q.isWaiting = true

/-- A run that waits later on ends after any moment before. -/
theorem endsAfter_of_waiting {w : Scene} {acts : List Act} {id : Nat} {q : Run}
    (found : (w.play d acts).runs[id]? = some q) (waits : q.isWaiting = true) :
    EndsAfter w id := by
  by_cases started : id < w.runs.length
  · obtain ⟨q', found', later⟩ := Scene.play_carries d w acts (List.getElem?_eq_getElem started)
    rw [found, Option.some.injEq] at found'
    subst found'
    exact .inr ⟨_, List.getElem?_eq_getElem started, later.waiting waits⟩
  · exact .inl (Nat.le_of_not_lt started)

/-- An entry that was not there at some moment was returned by a run that ends after it, or is
planted. -/
theorem entry_after {w : Scene} {acts : List Act} {k : CacheKey} {e : CacheEntry Stored}
    (absent : w.shelf.cache.get? k = none) (entry : (w.play d acts).shelf.cache.get? k = some e) :
    e.payload = .foreign ∨ ∃ id, Returned (w.play d acts) id k e ∧ EndsAfter w id := by
  rw [Scene.get?_play, absent] at entry
  rcases entry with ⟨before, a, after, rfl, puts, _⟩ | ⟨old, _⟩
  · rcases puts.origin with ⟨_, foreign⟩ | ⟨id, arrival, rfl⟩
    · exact .inl foreign
    · have returned : Returned (w.play d (before ++ .poll id arrival :: after)) id k e := by
        rw [Scene.play_split]
        exact puts.returned_by.play after
      refine .inr ⟨id, returned, ?_⟩
      cases puts with
      | returned found waits => exact endsAfter_of_waiting found waits
  · cases old

/-- What an honest run returned as the entry of a key it has fetched for every accepted body of that
key. -/
theorem Returned.fetches {w : Scene} {id : Nat} {o : Operation} {body : List UInt8}
    {request : Request} {payload : Response o.descriptor.response} {createdAt : Instant}
    (returned : Returned w id (o.cacheKey body) ⟨.response o payload, createdAt⟩)
    (honest : ∀ {q}, w.runs[id]? = some q → Honest d q)
    (parsed : o.parse d.codec.layouts body = .ok request) :
    ∃ q, w.runs[id]? = some q ∧ Fetches d q o body payload := by
  obtain ⟨q, payload', found, ended, stored, own⟩ := returned
  have fetches := (honest found).fetched ended rfl
  have same : o = q.operation := Operation.eq_of_cacheKey own
  subst same
  obtain rfl := (Stored.response.inj stored).2
  exact ⟨q, found, fetches.of_cacheKey own.symm parsed⟩

/-- A run that is answered out of the cache has found its answer there when it started. -/
theorem lookup_of_hit {s s' : Shelf} {clock : Instant} {o : Operation} {body : List UInt8}
    {expired : Bool} {mode : Mode} {b : Begun o} {context : Context} {r : Run} {now : Instant}
    {f : Fetched r.operation}
    (begun : Dispatcher.Beginning d s clock o body expired mode s' b)
    (later : Later (.ofBegun o body mode context clock b) r) (ended : r.ending = some (now, .ok f))
    (cached : f.fromCache = true) :
    (∃ request, r.operation.parse d.codec.layouts r.body = .ok request) ∧
      d.lookup s clock r.operation r.body = some f := by
  have missed (noHit : ∀ g, b = .finished (.ok g) → g.fromCache = false) : False := by
    rw [Scene.fetched_of_ofBegun noHit later ended] at cached
    cases cached
  cases begun with
  | hit _ parsed found =>
    obtain ⟨c, rfl⟩ := later.idle rfl
    cases ended
    exact ⟨⟨_, parsed⟩, found⟩
  | _ => exact (missed fun g same => by cases same).elim

/-- If the entry of a body is not there at some moment, whatever a run of that body returns that
starts later was fetched by a run that ends after that moment. -/
theorem fetched_after {w w' : Scene} {between later : List Act} {o : Operation} {body : List UInt8}
    {mode : Mode} {context : Context} {r : Run} {now : Instant} {f : Fetched r.operation}
    (honest : ∀ q ∈ w.runs, Honest d q) (absent : w.shelf.cache.get? (o.cacheKey body) = none)
    (meanwhile : w' = w.play d between)
    (found : ((w'.start d o body mode context).play d later).runs[w'.runs.length]? = some r)
    (ended : r.ending = some (now, .ok f)) :
    ∃ id q, ((w'.start d o body mode context).play d later).runs[id]? = some q ∧
      Fetches d q r.operation r.body f.payload ∧ EndsAfter w id := by
  have begun := Dispatcher.begin_cases d w'.shelf w'.clock (context.isExpired w'.time) o body mode
  have after := Scene.later_of_play (Scene.start_found ..) found
  have operation : r.operation = o := by rw [after.operation, Run.ofBegun_operation]
  have asked : r.body = body := by rw [after.body, Run.ofBegun_body]
  have honest' : ∀ q ∈ ((w'.start d o body mode context).play d later).runs, Honest d q := by
    rw [meanwhile]
    have before := Scene.play_each (lasting_honest d) honest between
    have started := Scene.step_each (lasting_honest d) before (.start o body mode context)
    exact Scene.play_each (lasting_honest d) started later
  by_cases cached : f.fromCache = true
  · obtain ⟨⟨request, parsed⟩, hit⟩ := lookup_of_hit begun after ended cached
    have entry := (Dispatcher.lookup_eq_some hit).1
    rw [← operation, ← asked] at absent
    rw [meanwhile] at entry
    rcases entry_after absent entry with foreign | ⟨id, returned, ends⟩
    · cases foreign
    · rw [← meanwhile] at returned
      have kept := returned.play (d := d) (.start o body mode context :: later)
      obtain ⟨q, run, fetches⟩ :=
        kept.fetches (fun run => honest' _ (List.mem_of_getElem? run)) parsed
      exact ⟨id, q, run, fetches, ends⟩
  · rw [Bool.not_eq_true] at cached
    have new : w.runs.length ≤ w'.runs.length := by
      rw [meanwhile]
      exact (Scene.play_carries d w between).length_le
    have fetches := (honest' r (List.mem_of_getElem? found)).fetched ended cached
    exact ⟨w'.runs.length, r, found, fetches, .inl new⟩

end SoapGateway.Traffic
