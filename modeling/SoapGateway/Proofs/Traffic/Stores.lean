import SoapGateway.Proofs.Traffic.Runs

/-!
# What goes into the cache

A run stores its response at its end or not at all, and only if it ends well. What a run that fails
leaves behind is at most the sweeping of its own key, and a run that is answered out of the cache
leaves everything as it was. This holds from any scene, so wherever other runs have been meanwhile.
-/
namespace SoapGateway.Traffic.Scene

open Calendar (Instant)

variable {d : Dispatcher} {w : Scene}

/-- A start stores nothing. -/
theorem start_shrinks {o : Operation} {body : List UInt8} {mode : Mode} {context : Context}
    {k : CacheKey} {e : CacheEntry Stored}
    (entry : (w.start d o body mode context).shelf.cache.get? k = some e) :
    w.shelf.cache.get? k = some e :=
  (Dispatcher.begin_cases d w.shelf w.clock (context.isExpired w.time) o body mode).shrinks entry

/-- The entry that appears with the end of a run is what the run returns. -/
theorem settle_stores {id time : Nat} {r : Run} {c : Context} {outcome : CallOutcome}
    {k : CacheKey} {e : CacheEntry Stored} (found : w.runs[id]? = some r)
    (entry :
      ({ w with time }.settle id { r with context := c } outcome).shelf.cache.get? k = some e)
    (new : w.shelf.cache.get? k ≠ some e) :
    ∃ (r' : Run) (payload : Response r'.operation.descriptor.response),
      ({ w with time }.settle id { r with context := c } outcome).runs[id]? = some r' ∧
      r'.ending = some (w.clock, .ok ⟨payload, e.createdAt, false⟩) ∧
      e.payload = .response r'.operation payload ∧ k = r'.operation.cacheKey r'.body ∧
      r'.context.isExpired time = false := by
  have inside := (List.getElem?_eq_some_iff.mp found).1
  obtain ⟨shelf, result, finish, settle⟩ :=
    settle_cases { w with time } id { r with context := c } outcome
  rw [settle] at entry ⊢
  rcases finish.stores entry with old | ⟨payload, _, current, ok, own, rfl⟩
  · exact absurd old new
  · refine ⟨Run.settled { r with context := c } outcome shelf w.clock result, payload,
      List.getElem?_set_self inside, ?_, rfl, own, current⟩
    change some (w.clock, result) = some (w.clock, .ok ⟨payload, w.clock, false⟩)
    rw [ok]

/-- Whatever appears in the cache is the response that some run returns at that moment, with a live
context, or is planted there. -/
theorem step_stores {a : Act} {k : CacheKey} {e : CacheEntry Stored}
    (entry : (w.step d a).shelf.cache.get? k = some e) (new : w.shelf.cache.get? k ≠ some e) :
    (a = .plant k e.createdAt ∧ e.payload = .foreign) ∨
    ∃ (id : Nat) (arrival : Option Arrival) (r : Run)
      (payload : Response r.operation.descriptor.response),
      a = .poll id arrival ∧ (w.step d a).runs[id]? = some r ∧
      r.ending = some (w.clock, .ok ⟨payload, e.createdAt, false⟩) ∧
      e.payload = .response r.operation payload ∧ k = r.operation.cacheKey r.body ∧
      r.context.isExpired (w.step d a).time = false := by
  cases a with
  | start o body mode context => exact absurd (start_shrinks entry) new
  | poll id arrival =>
    rcases w.poll_cases id arrival with same | ⟨r, c, time, outcome, found, _, settled⟩
    · rw [step, same] at entry
      exact absurd entry new
    · rw [step, settled] at entry
      obtain ⟨r', payload, found', ended, stored, own, live⟩ := settle_stores found entry new
      refine .inr ⟨id, arrival, r', payload, rfl, ?_, ended, stored, own, ?_⟩
      · rw [step, settled, found']
      · rw [step, settled]
        exact live
  | plant key t =>
    rw [step, plant] at entry
    split at entry
    · next planted =>
      rw [Cache.get?_put planted] at entry
      split at entry
      · next own =>
        cases entry
        exact .inl ⟨by rw [own], rfl⟩
      · exact absurd entry new
    · exact absurd entry new
  | invalidate o body => exact absurd (Shelf.invalidate_shrinks entry) new
  | clear => cases entry
  | cancel id =>
    rw [step, cancel] at entry
    split at entry
    · exact absurd entry new
    · exact absurd entry new
  | wait => exact absurd entry new
  | setClock => exact absurd entry new
  | deny => exact absurd entry new

/-- A run that starts without an answer out of the cache never returns one. -/
theorem fetched_of_ofBegun {o : Operation} {body : List UInt8} {mode : Mode} {context : Context}
    {now now' : Instant} {b : Begun o} {r : Run} {f : Fetched r.operation}
    (missed : ∀ g, b = .finished (.ok g) → g.fromCache = false)
    (later : Later (.ofBegun o body mode context now b) r) (ended : r.ending = some (now', .ok f)) :
    f.fromCache = false := by
  cases b with
  | finished result =>
    obtain ⟨c, rfl⟩ := later.idle rfl
    have ok : result = .ok f := (Prod.mk.inj (Option.some.inj ended)).2
    exact missed f (congrArg Begun.finished ok)
  | calling call =>
    cases later with
    | stays c => cases ended
    | ends c outcome now result stored waiting fetched =>
      exact fetched f (Prod.mk.inj (Option.some.inj ended)).2

/-- What a start may do to the cache: nothing, or it sweeps the key of a refresh that was let through
and is not answered out of the cache. -/
def Leaves (s s' : Shelf) (o : Operation) (body : List UInt8) (expired : Bool) (mode : Mode)
    (b : Begun o) : Prop :=
  s'.cache = s.cache ∨
  (mode = .fresh ∧ expired = false ∧ s.prohibits o = false ∧
    s'.cache = s.cache.erase (o.cacheKey body) ∧ ∀ g, b = .finished (.ok g) → g.fromCache = false)

theorem leaves_swept {s : Shelf} {o : Operation} {body : List UInt8} {b : Begun o}
    (allowed : s.prohibits o = false) (missed : ∀ g, b = .finished (.ok g) → g.fromCache = false)
    (mode : Mode) : Leaves s (Dispatcher.swept s o body mode) o body false mode b := by
  cases mode with
  | cached => exact .inl rfl
  | fresh => exact .inr ⟨rfl, rfl, allowed, rfl, missed⟩

theorem begun_leaves {s s' : Shelf} {o : Operation} {body : List UInt8} {expired : Bool}
    {mode : Mode} {now : Instant} {b : Begun o}
    (begun : Dispatcher.Beginning d s now o body expired mode s' b) :
    Leaves s s' o body expired mode b := by
  cases begun with
  | expired => exact .inl rfl
  | prohibited => exact .inl rfl
  | hit => exact .inl rfl
  | refused allowed => exact leaves_swept allowed (fun g eq => by cases eq) mode
  | unwritten allowed => exact leaves_swept allowed (fun g eq => by cases eq) mode
  | calling allowed => exact leaves_swept allowed (fun g eq => by cases eq) mode

/-- The sweep that a refresh makes at its start, once it is let through. -/
def Sweeps (d : Dispatcher) (w : Scene) (a : Act) (r : Run) : Prop :=
  ∃ context, a = .start r.operation r.body .fresh context ∧ context.isExpired w.time = false ∧
    w.shelf.prohibits r.operation = false ∧
    (w.step d a).shelf.cache = w.shelf.cache.erase (r.operation.cacheKey r.body)

/-- A run that has a later form under its number has that one. -/
theorem later_of_play {w' : Scene} {later : List Act} {id : Nat} {q r : Run}
    (before : w'.runs[id]? = some q) (found : (w'.play d later).runs[id]? = some r) :
    Later q r := by
  obtain ⟨q', found', after⟩ := play_carries d w' later before
  rw [found, Option.some.injEq] at found'
  rw [found']
  exact after

theorem start_of_run {o : Operation} {body : List UInt8} {mode : Mode} {context : Context}
    {later : List Act} {r : Run}
    (found : ((w.start d o body mode context).play d later).runs[w.runs.length]? = some r) :
    (w.start d o body mode context).shelf.cache = w.shelf.cache ∨
    (Sweeps d w (.start o body mode context) r ∧
      ∀ now f, r.ending = some (now, .ok f) → f.fromCache = false) := by
  have begun := Dispatcher.begin_cases d w.shelf w.clock (context.isExpired w.time) o body mode
  have after := later_of_play (List.getElem?_concat_length) found
  rcases begun_leaves begun with same | ⟨rfl, live, allowed, swept, missed⟩
  · exact .inl same
  · refine .inr ⟨⟨context, ?_, live, ?_, ?_⟩,
      fun now f ended => fetched_of_ofBegun missed after ended⟩
    · rw [after.operation, after.body, Run.ofBegun_operation, Run.ofBegun_body]
    · rw [after.operation, Run.ofBegun_operation]
      exact allowed
    · rw [after.operation, after.body, Run.ofBegun_operation, Run.ofBegun_body]
      exact swept

/-- A look at a run changes the cache only if it ends the run well. -/
theorem poll_of_run {id : Nat} {arrival : Option Arrival} {later : List Act} {r : Run}
    (found : ((w.poll id arrival).play d later).runs[id]? = some r) :
    (w.poll id arrival).shelf.cache = w.shelf.cache ∨
    ∃ now f, r.ending = some (now, .ok f) ∧ f.fromCache = false := by
  rcases w.poll_cases id arrival with same | ⟨q, c, time, outcome, before, _, settled⟩
  · rw [same]
    exact .inl rfl
  · obtain ⟨shelf, result, finish, settle⟩ :=
      settle_cases { w with time } id { q with context := c } outcome
    rw [settled, settle] at found ⊢
    have inside := (List.getElem?_eq_some_iff.mp before).1
    have after := later_of_play (List.getElem?_set_self inside) found
    obtain ⟨c', rfl⟩ := after.idle (by simp [Run.isWaiting, Run.settled])
    rcases finish.same_or_ok with rfl | ⟨payload, rfl⟩
    · exact .inl rfl
    · exact .inr ⟨w.clock, ⟨payload, w.clock, false⟩, rfl, rfl⟩

/-- A run that fails in the end changes the cache at most by the sweep at its start, and one that is
answered out of the cache does not change it. -/
theorem step_of_run {a : Act} {id : Nat} {r : Run} (own : w.isStepOf id a)
    {later : List Act} (found : ((w.step d a).play d later).runs[id]? = some r) :
    (∀ now f, r.ending = some (now, .error f) →
      (w.step d a).shelf.cache = w.shelf.cache ∨ Sweeps d w a r) ∧
    (∀ now f, r.ending = some (now, .ok f) → f.fromCache = true →
      (w.step d a).shelf.cache = w.shelf.cache) := by
  cases a with
  | start o body mode context =>
    obtain rfl : id = w.runs.length := own
    rcases start_of_run found with same | ⟨sweeps, fetched⟩
    · exact ⟨fun _ _ _ => .inl same, fun _ _ _ _ => same⟩
    · refine ⟨fun _ _ _ => .inr sweeps, fun now f ended cached => ?_⟩
      rw [fetched now f ended] at cached
      cases cached
  | poll id' arrival =>
    obtain rfl : id = id' := own
    rcases poll_of_run found with same | ⟨now, f, ended, fetched⟩
    · exact ⟨fun _ _ _ => .inl same, fun _ _ _ _ => same⟩
    · refine ⟨fun now' f' failed => ?_, fun now' f' ended' cached => ?_⟩
      · rw [ended] at failed
        cases failed
      · rw [ended] at ended'
        cases ended'
        rw [fetched] at cached
        cases cached
  | cancel => exact False.elim own
  | wait => exact False.elim own
  | setClock => exact False.elim own
  | invalidate => exact False.elim own
  | clear => exact False.elim own
  | deny => exact False.elim own
  | plant => exact False.elim own

/-- Whatever else goes on, and wherever cancellations and deadlines fall. An entry that appears is
planted, or it is what a run returns at that very moment, fetched anew, under the key of that run
and with a live context. A run that fails never stores, and changes at most its own key, by the
sweep of a refresh that was let through. A run that is answered out of the cache changes nothing. -/
theorem cache_changes (d : Dispatcher) (w : Scene) (a : Act) (later : List Act) :
    (∀ k e, (w.step d a).shelf.cache.get? k = some e → w.shelf.cache.get? k ≠ some e →
      (a = .plant k e.createdAt ∧ e.payload = .foreign) ∨
      ∃ (id : Nat) (arrival : Option Arrival) (r : Run)
        (payload : Response r.operation.descriptor.response),
        a = .poll id arrival ∧ (w.step d a).runs[id]? = some r ∧
        r.ending = some (w.clock, .ok ⟨payload, e.createdAt, false⟩) ∧
        e.payload = .response r.operation payload ∧ k = r.operation.cacheKey r.body ∧
        r.context.isExpired (w.step d a).time = false) ∧
    (∀ id r, w.isStepOf id a → ((w.step d a).play d later).runs[id]? = some r →
      (∀ now f, r.ending = some (now, .error f) →
        (w.step d a).shelf.cache = w.shelf.cache ∨ Sweeps d w a r) ∧
      (∀ now f, r.ending = some (now, .ok f) → f.fromCache = true →
        (w.step d a).shelf.cache = w.shelf.cache)) :=
  ⟨fun _ _ entry new => step_stores entry new, fun _ _ own found => step_of_run own found⟩

/-- An answer is stored under the key of its run, and a refresh with a broken body sweeps it away
before it fails. -/
theorem cache_changes_biCurBacket :
    let d : Dispatcher := { ttl := 60000000 }
    let w : Scene :=
      { clock := 5
        runs := [{ operation := .biCurBacket, body := [], mode := .cached, context := {},
                   call := some ⟨"action", "text/xml", "call"⟩ }] }
    let answer := Utf8.bytesOf "<BiCurBacket><BC><USD> 0.55 </USD></BC></BiCurBacket>"
    let answered := w.step d (.poll 0 (some { answer := .ok answer }))
    let refresh : Act := .start .biCurBacket [0x7b] .fresh {}
    ∃ (e : CacheEntry Stored) (q q' : Run) (payload : Response q.operation.descriptor.response),
      answered.shelf.cache.get? (Operation.biCurBacket.cacheKey []) = some e ∧
      answered.runs[0]? = some q ∧ q.ending = some (5, .ok ⟨payload, e.createdAt, false⟩) ∧
      e.payload = .response q.operation payload ∧
      (answered.step d refresh).runs[1]? = some q' ∧ q'.isFailed = true ∧
      Sweeps d answered refresh q' := by
  intro d w answer answered refresh
  have appears : (answered.shelf.cache.get? (Operation.biCurBacket.cacheKey [])).isSome = true := by
    decide +kernel
  have fails : (answered.step d refresh).runs[1]?.any Run.isFailed = true := by decide +kernel
  have changes : (answered.step d refresh).shelf.cache ≠ answered.shelf.cache := by decide +kernel
  obtain ⟨e, entry⟩ := Option.isSome_iff_exists.mp appears
  obtain ⟨q', found', failed⟩ := (Option.any_eq_true _ _).mp fails
  obtain ⟨now, f, ended'⟩ := Run.isFailed_cases failed
  obtain ⟨stores, _⟩ := cache_changes d w (.poll 0 (some { answer := .ok answer })) []
  obtain ⟨_, leaves⟩ := cache_changes d answered refresh []
  have sweeps : Sweeps d answered refresh q' := by
    rcases (leaves 1 q' rfl found').1 now f ended' with same | sweeps
    · exact absurd same changes
    · exact sweeps
  rcases stores _ e entry (fun old => by cases old) with
    ⟨planted, _⟩ | ⟨id, arrival, q, payload, looked, found, ended, own, _⟩
  · cases planted
  · cases looked
    exact ⟨e, q, q', payload, entry, found, ended, own, found', failed, sweeps⟩

end SoapGateway.Traffic.Scene
