import SoapGateway.Dispatcher
import SoapGateway.Proofs.Cache

/-!
# What a run of the dispatcher does

Both halves of a run are taken apart once: how each can come out, and what it leaves behind. Every
fact about runs is derived from these cases.
-/
namespace SoapGateway

open Calendar (Instant)

namespace Stored

theorem as?_eq_some {o : Operation} {s : Stored} {r : Response o.descriptor.response} :
    s.as? o = some r ↔ s = .response o r := by
  cases s with
  | foreign => simp [as?]
  | response o' r' =>
    unfold as?
    constructor
    · intro found
      by_cases same : o' = o
      · subst same
        simp only [dite_true, Option.some.injEq] at found
        rw [found]
      · simp only [same, dite_false] at found
        cases found
    · intro eq
      cases eq
      simp

end Stored

namespace Shelf

@[simp] theorem invalidate_cache (s : Shelf) (o : Operation) (body : List UInt8) :
    (s.invalidate o body).2.cache = s.cache.erase (o.cacheKey body) := rfl

@[simp] theorem invalidate_denied (s : Shelf) (o : Operation) (body : List UInt8) :
    (s.invalidate o body).2.denied = s.denied := rfl

theorem invalidate_shrinks {s : Shelf} {o : Operation} {body : List UInt8} {k : CacheKey}
    {e : CacheEntry Stored} (entry : (s.invalidate o body).2.cache.get? k = some e) :
    s.cache.get? k = some e := by
  rw [invalidate_cache, Cache.get?_erase] at entry
  split at entry
  · cases entry
  · exact entry

theorem get?_invalidate_other {s : Shelf} {o : Operation} {body : List UInt8} {k : CacheKey}
    (other : k ≠ o.cacheKey body) : (s.invalidate o body).2.cache.get? k = s.cache.get? k := by
  rw [invalidate_cache, Cache.get?_erase, if_neg other]

/-- A response is stored under its key, or the cache is full and nothing changes. -/
theorem store_cases (s : Shelf) (o : Operation) (body : List UInt8)
    (r : Response o.descriptor.response) (now : Instant) :
    s.store o body r now = s ∨
    (s.store o body r now).denied = s.denied ∧
      ∀ k, (s.store o body r now).cache.get? k =
        if k = o.cacheKey body then some ⟨.response o r, now⟩ else s.cache.get? k := by
  unfold store
  split
  · next stored => exact .inr ⟨rfl, Cache.get?_put stored⟩
  · exact .inl rfl

end Shelf

namespace Dispatcher

variable {d : Dispatcher} {s s' : Shelf} {now : Instant} {o : Operation} {body : List UInt8}

theorem lookup_eq_some {f : Fetched o} (hit : d.lookup s now o body = some f) :
    s.cache.get? (o.cacheKey body) = some ⟨.response o f.payload, f.createdAt⟩ ∧
      f.fromCache = true ∧
      o.isOutdated (⟨f.payload, f.createdAt⟩ : CacheEntry _) now d.ttl = false := by
  unfold lookup at hit
  split at hit
  · cases hit
  · next e found =>
    split at hit
    · cases hit
    · next current =>
      obtain ⟨r, payload, rfl⟩ := Option.map_eq_some_iff.mp hit
      rw [Stored.as?_eq_some] at payload
      refine ⟨?_, rfl, ?_⟩
      · rw [found, ← payload]
      · rw [Bool.not_eq_true] at current
        exact current

/-- An entry in use is not of the future, and under `ttl` it has not yet that age. -/
theorem current_of_isOutdated {α : Type} {e : CacheEntry α} {ttl : Nat}
    (current : o.isOutdated e now ttl = false) :
    e.createdAt ≤ now ∧ (o.descriptor.policy = .ttl → now - e.createdAt < ttl) := by
  unfold Operation.isOutdated at current
  split at current
  · simp only [CacheEntry.isStale, CacheEntry.isFuture, Bool.or_eq_false_iff,
      decide_eq_false_iff_not] at current
    exact ⟨Int.not_lt.mp current.1, fun _ => Int.not_le.mp current.2⟩
  · next policy =>
    simp only [CacheEntry.isFuture, decide_eq_false_iff_not] at current
    refine ⟨Int.not_lt.mp current, fun ttl => ?_⟩
    rw [policy] at ttl
    cases ttl

theorem isOutdated_eq_false {α : Type} {e : CacheEntry α} {ttl : Nat} (past : e.createdAt ≤ now)
    (young : o.descriptor.policy = .ttl → now - e.createdAt < ttl) :
    o.isOutdated e now ttl = false := by
  have known : e.isFuture now = false := decide_eq_false (Int.not_lt.mpr past)
  unfold Operation.isOutdated
  split
  · next policy =>
    have fresh : decide ((ttl : Int) ≤ now - e.createdAt) = false :=
      decide_eq_false (Int.not_le.mpr (young policy))
    rw [CacheEntry.isStale, known, fresh, Bool.or_self]
  · exact known

/-- A response of the operation that is not too old is found. -/
theorem lookup_of_entry {r : Response o.descriptor.response} {createdAt : Instant}
    (entry : s.cache.get? (o.cacheKey body) = some ⟨.response o r, createdAt⟩)
    (past : createdAt ≤ now) (young : o.descriptor.policy = .ttl → now - createdAt < d.ttl) :
    d.lookup s now o body = some ⟨r, createdAt, true⟩ := by
  have current : o.isOutdated (⟨.response o r, createdAt⟩ : CacheEntry Stored) now d.ttl = false :=
    isOutdated_eq_false past young
  rw [lookup, entry]
  dsimp only
  rw [current, Stored.as?_eq_some.mpr rfl]
  rfl

/-- The shelf after a refresh has dropped what is cached for it. -/
def swept (s : Shelf) (o : Operation) (body : List UInt8) : Mode → Shelf
  | .cached => s
  | .fresh => (s.invalidate o body).2

/-- How the first half of a run can come out. -/
inductive Beginning (d : Dispatcher) (s : Shelf) (now : Instant) (o : Operation)
    (body : List UInt8) : Bool → Mode → Shelf → Begun o → Prop
  | expired (mode : Mode) : Beginning d s now o body true mode s (.finished (.error .expired))
  | prohibited (mode : Mode) (denied : s.prohibits o = true) :
    Beginning d s now o body false mode s (.finished (.error (.prohibited o.name)))
  | refused {mode : Mode} {f : Failure} (allowed : s.prohibits o = false)
      (parsed : o.parse d.codec.layouts body = .error f) :
    Beginning d s now o body false mode (swept s o body mode) (.finished (.error f))
  | hit {request : Request} {f : Fetched o} (allowed : s.prohibits o = false)
      (parsed : o.parse d.codec.layouts body = .ok request)
      (found : d.lookup s now o body = some f) :
    Beginning d s now o body false .cached s (.finished (.ok f))
  | unwritten {mode : Mode} {request : Request} {f : Failure} (allowed : s.prohibits o = false)
      (parsed : o.parse d.codec.layouts body = .ok request)
      (missed : mode = .cached → d.lookup s now o body = none)
      (encoded : d.codec.encode o.name request = .error f) :
    Beginning d s now o body false mode (swept s o body mode) (.finished (.error (f.within o.name)))
  | calling {mode : Mode} {request : Request} {call : SoapRequest} (allowed : s.prohibits o = false)
      (parsed : o.parse d.codec.layouts body = .ok request)
      (missed : mode = .cached → d.lookup s now o body = none)
      (encoded : d.codec.encode o.name request = .ok call) :
    Beginning d s now o body false mode (swept s o body mode) (.calling call)

theorem swept_shrinks {mode : Mode} {k : CacheKey} {e : CacheEntry Stored}
    (entry : (swept s o body mode).cache.get? k = some e) : s.cache.get? k = some e := by
  cases mode with
  | cached => exact entry
  | fresh => exact Shelf.invalidate_shrinks entry

/-- The first half of a run stores nothing. -/
theorem Beginning.shrinks {expired : Bool} {mode : Mode} {b : Begun o}
    (begun : Beginning d s now o body expired mode s' b) {k : CacheKey} {e : CacheEntry Stored}
    (entry : s'.cache.get? k = some e) : s.cache.get? k = some e := by
  cases begun with
  | expired => exact entry
  | prohibited => exact entry
  | refused => exact swept_shrinks entry
  | hit => exact entry
  | unwritten => exact swept_shrinks entry
  | calling => exact swept_shrinks entry

theorem begin_cases (d : Dispatcher) (s : Shelf) (now : Instant) (expired : Bool) (o : Operation)
    (body : List UInt8) (mode : Mode) :
    Beginning d s now o body expired mode (d.begin s now expired o body mode).1
      (d.begin s now expired o body mode).2 := by
  unfold begin
  cases expired with
  | true => exact .expired mode
  | false =>
    cases denied : s.prohibits o with
    | true => exact .prohibited mode denied
    | false =>
      cases parsed : o.parse d.codec.layouts body with
      | error f =>
        cases mode with
        | cached => exact .refused denied parsed
        | fresh => exact .refused denied parsed
      | ok request =>
        cases mode with
        | cached =>
          cases found : d.lookup s now o body with
          | some f =>
            simp only [found]
            exact .hit denied parsed found
          | none =>
            cases encoded : d.codec.encode o.name request with
            | error f =>
              simp only [found, encoded]
              exact .unwritten denied parsed (fun _ => found) encoded
            | ok call =>
              simp only [found, encoded]
              exact .calling denied parsed (fun _ => found) encoded
        | fresh =>
          cases encoded : d.codec.encode o.name request with
          | error f =>
            simp only [encoded]
            exact .unwritten denied parsed (fun h => by cases h) encoded
          | ok call =>
            simp only [encoded]
            exact .calling denied parsed (fun h => by cases h) encoded

/-- Each way for the first half of a run to come out is the only one under its conditions. -/
theorem Beginning.begin_eq {expired : Bool} {mode : Mode} {b : Begun o}
    (begun : Beginning d s now o body expired mode s' b) :
    d.begin s now expired o body mode = (s', b) := by
  unfold begin
  cases begun with
  | expired mode => rfl
  | prohibited mode denied => simp [denied]
  | @refused mode _ allowed parsed => cases mode <;> simp [allowed, parsed, swept]
  | hit allowed parsed found => simp [allowed, parsed, found]
  | @unwritten mode _ _ allowed parsed missed encoded =>
    cases mode with
    | cached => simp [allowed, parsed, missed rfl, encoded, swept]
    | fresh => simp [allowed, parsed, encoded, swept]
  | @calling mode _ _ allowed parsed missed encoded =>
    cases mode with
    | cached => simp [allowed, parsed, missed rfl, encoded, swept]
    | fresh => simp [allowed, parsed, encoded, swept]

/-- What drops the entry of an operation and body, unless the operation is refused. -/
def forgotten (s : Shelf) (o : Operation) (body : List UInt8) : Shelf :=
  if s.prohibits o then s else (s.invalidate o body).2

theorem lookup_swept (d : Dispatcher) (s : Shelf) (now : Instant) (o : Operation)
    (body : List UInt8) : d.lookup (swept s o body .fresh) now o body = none := by
  rw [lookup, swept, Shelf.invalidate_cache, Cache.get?_erase, if_pos rfl]

theorem forgotten_of_allowed (allowed : s.prohibits o = false) (body : List UInt8) :
    forgotten s o body = swept s o body .fresh := by
  rw [forgotten, if_neg (by rw [allowed]; decide), swept]

/-- A refresh begins as an ordinary run does on a shelf that has forgotten its entry. -/
theorem Beginning.of_fresh {b : Begun o} (begun : Beginning d s now o body false .fresh s' b) :
    Beginning d (forgotten s o body) now o body false .cached s' b := by
  cases begun with
  | prohibited _ denied =>
    rw [forgotten, if_pos denied]
    exact .prohibited .cached denied
  | refused allowed parsed =>
    rw [forgotten_of_allowed allowed]
    exact .refused allowed parsed
  | unwritten allowed parsed _ encoded =>
    rw [forgotten_of_allowed allowed]
    exact .unwritten allowed parsed (fun _ => lookup_swept d s now o body) encoded
  | calling allowed parsed _ encoded =>
    rw [forgotten_of_allowed allowed]
    exact .calling allowed parsed (fun _ => lookup_swept d s now o body) encoded

theorem begin_fresh (d : Dispatcher) (s : Shelf) (now : Instant) (o : Operation)
    (body : List UInt8) :
    d.begin s now false o body .fresh = d.begin (forgotten s o body) now false o body .cached :=
  (begin_cases d s now false o body .fresh).of_fresh.begin_eq.symm

/-- How the second half of a run can come out. -/
inductive Finish (s : Shelf) (now : Instant) (o : Operation) (body : List UInt8) :
    Bool → CallOutcome → Shelf → Result o → Prop
  | failed (expired : Bool) {outcome : CallOutcome} {f : Failure}
      (received : receive o outcome = .error f) : Finish s now o body expired outcome s (.error f)
  | late {outcome : CallOutcome} {r : Response o.descriptor.response}
      (received : receive o outcome = .ok r) :
    Finish s now o body true outcome s (.error .expired)
  | done {outcome : CallOutcome} {r : Response o.descriptor.response}
      (received : receive o outcome = .ok r) :
    Finish s now o body false outcome (s.store o body r now) (.ok ⟨r, now, false⟩)

/-- A run that made a call does not answer out of the cache. -/
theorem Finish.fetched {expired : Bool} {outcome : CallOutcome} {f : Fetched o}
    (finish : Finish s now o body expired outcome s' (.ok f)) : f.fromCache = false := by
  cases finish with
  | done => rfl

/-- A run that does not end well leaves the shelf as it was. -/
theorem Finish.same_or_ok {expired : Bool} {outcome : CallOutcome} {result : Result o}
    (finish : Finish s now o body expired outcome s' result) :
    s' = s ∨ ∃ r, result = .ok ⟨r, now, false⟩ := by
  cases finish with
  | failed => exact .inl rfl
  | late => exact .inl rfl
  | done => exact .inr ⟨_, rfl⟩

/-- Only the cleaned response to a call that was answered goes into the cache, under the key of the
run and with the present time. -/
theorem Finish.stores {expired : Bool} {outcome : CallOutcome} {result : Result o}
    (finish : Finish s now o body expired outcome s' result) {k : CacheKey} {e : CacheEntry Stored}
    (entry : s'.cache.get? k = some e) :
    s.cache.get? k = some e ∨ ∃ r, receive o outcome = .ok r ∧ expired = false ∧
      result = .ok ⟨r, now, false⟩ ∧ k = o.cacheKey body ∧ e = ⟨.response o r, now⟩ := by
  cases finish with
  | failed => exact .inl entry
  | late => exact .inl entry
  | @done outcome r received =>
    rcases s.store_cases o body r now with same | ⟨_, keys⟩
    · rw [same] at entry
      exact .inl entry
    · rw [keys] at entry
      split at entry
      · next own =>
        cases entry
        exact .inr ⟨r, received, rfl, rfl, own, rfl⟩
      · exact .inl entry

theorem finish_cases (s : Shelf) (now : Instant) (expired : Bool) (o : Operation)
    (body : List UInt8) (outcome : CallOutcome) :
    Finish s now o body expired outcome (finish s now expired o body outcome).1
      (finish s now expired o body outcome).2 := by
  unfold finish
  cases received : receive o outcome with
  | error f => exact .failed expired received
  | ok r =>
    cases expired with
    | true => exact .late received
    | false => exact .done received

/-- A response is received from an answer that is read as one, and is cleaned. -/
theorem receive_eq_ok {outcome : CallOutcome} {r : Response o.descriptor.response}
    (received : receive o outcome = .ok r) :
    ∃ answer raw, outcome = .answered answer ∧ o.decode answer = .ok raw ∧ r = raw.sanitize := by
  unfold receive at received
  split at received
  · cases received
  · cases received
  · next answer =>
    split at received
    · cases received
    · next raw decoded =>
      cases received
      exact ⟨answer, raw, rfl, decoded, rfl⟩

end Dispatcher

end SoapGateway
