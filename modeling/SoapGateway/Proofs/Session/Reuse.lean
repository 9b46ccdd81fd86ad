import SoapGateway.Proofs.DenyList
import SoapGateway.Proofs.Envelope
import SoapGateway.Proofs.Operation.CacheKey
import SoapGateway.Proofs.Session.Runs

/-!
# Storing and reusing

In a session from an empty cache, a response that was fetched is in the cache unless its key was new
and the cache full, and it is given out again as long as nothing touches its key, the operation is
permitted, and the policy of the operation lets it stand.
-/
namespace SoapGateway.Session

open Calendar (Instant)

variable {d : Dispatcher} {w : Session} {o : Operation} {body : List UInt8}

namespace Step

/-- Whether a step leaves alone what is cached for an operation and body, and does not deny the
operation. Clocks may move. -/
def Spares (o : Operation) (body : List UInt8) : Step → Prop
  | run _ o' body' _ _ => o'.cacheKey body' ≠ o.cacheKey body
  | invalidate o' body' => o'.cacheKey body' ≠ o.cacheKey body
  | clear => False
  | deny name => name ≠ o.name
  | setClock _ => True
  | plant key _ => key ≠ o.cacheKey body

end Step

theorem play_cons (d : Dispatcher) (w : Session) (a : Step) (steps : List Step) :
    w.play d (a :: steps) = (w.step d a).play d steps := rfl

theorem step_cache {P : Cache Stored → Prop} (closed : Cache.Closed P) (d : Dispatcher) (a : Step)
    (holds : P w.shelf.cache) : P (w.step d a).shelf.cache := by
  cases a with
  | run expired o body mode wait =>
    exact (Dispatcher.run_cases d w expired o body mode wait).closed closed holds
  | invalidate o body => exact closed.erase (o.cacheKey body) holds
  | clear => exact closed.clear holds
  | deny name => exact holds
  | setClock t => exact holds
  | plant key t =>
    rw [step, plant]
    split
    · next planted => exact closed.put holds planted
    · exact holds

theorem play_cache {P : Cache Stored → Prop} (closed : Cache.Closed P) (d : Dispatcher)
    (steps : List Step) (holds : P w.shelf.cache) : P (w.play d steps).shelf.cache := by
  induction steps generalizing w with
  | nil => exact holds
  | cons a steps ih =>
    rw [play_cons]
    exact ih (step_cache closed d a holds)

theorem play_bounded (d : Dispatcher) (steps : List Step) (bounded : w.shelf.cache.Bounded) :
    (w.play d steps).shelf.cache.Bounded :=
  play_cache Cache.closed_bounded d steps bounded

/-- What a step that spares an operation and body keeps: their entry, and the permission. -/
structure Keeps (w w' : Session) (o : Operation) (body : List UInt8) : Prop where
  entry : w'.shelf.cache.get? (o.cacheKey body) = w.shelf.cache.get? (o.cacheKey body)
  permission : w'.shelf.prohibits o = w.shelf.prohibits o

theorem Keeps.trans {w w' w'' : Session} (first : Keeps w w' o body)
    (second : Keeps w' w'' o body) : Keeps w w'' o body :=
  ⟨second.entry.trans first.entry, second.permission.trans first.permission⟩

theorem step_keeps {a : Step} (spares : a.Spares o body) : Keeps w (w.step d a) o body := by
  cases a with
  | run expired o' body' mode wait =>
    have course := Dispatcher.run_cases d w expired o' body' mode wait
    refine ⟨course.get?_other spares.symm, ?_⟩
    rw [Shelf.prohibits, step, course.denied]
    rfl
  | invalidate o' body' =>
    refine ⟨?_, rfl⟩
    rw [step, Shelf.invalidate_cache, Cache.get?_erase, if_neg spares.symm]
  | clear => exact False.elim spares
  | deny name => exact ⟨rfl, DenyList.contains_add_other (Ne.symm spares)⟩
  | setClock t => exact ⟨rfl, rfl⟩
  | plant key t =>
    rw [step, plant]
    split
    · next planted =>
      refine ⟨?_, rfl⟩
      rw [Cache.get?_put planted, if_neg (Ne.symm spares)]
    · exact ⟨rfl, rfl⟩

theorem play_keeps {steps : List Step} (spare : ∀ a ∈ steps, a.Spares o body) :
    Keeps w (w.play d steps) o body := by
  induction steps generalizing w with
  | nil => exact ⟨rfl, rfl⟩
  | cons a steps ih =>
    rw [play_cons]
    have first : Keeps w (w.step d a) o body := step_keeps (spare a List.mem_cons_self)
    exact first.trans (ih fun a' member => spare a' (List.mem_cons_of_mem a member))

end SoapGateway.Session

namespace SoapGateway.Dispatcher

open Calendar (Instant)

variable {d : Dispatcher} {w : Session} {o : Operation} {body : List UInt8}

/-- A sweep makes room only where there was room or an entry before. -/
theorem swept_room_iff {s : Shelf} (bounded : s.cache.Bounded) (mode : Mode) :
    ((swept s o body mode).cache.get? (o.cacheKey body) = none ∧
        (swept s o body mode).cache.IsFull) ↔
      (s.cache.get? (o.cacheKey body) = none ∧ s.cache.IsFull) := by
  cases mode with
  | cached => exact Iff.rfl
  | fresh =>
    rw [swept, Shelf.invalidate_cache, Cache.get?_erase, if_pos rfl, bounded.full_erase_iff]
    simp

theorem Finish.of_ok {s s' : Shelf} {now : Instant} {expired : Bool} {outcome : CallOutcome}
    {f : Fetched o} (finish : Finish s now o body expired outcome s' (.ok f)) :
    ∃ r, f = ⟨r, now, false⟩ ∧ s' = s.store o body r now := by
  cases finish with
  | done => exact ⟨_, rfl, rfl⟩

/-- A run that fetches a response had a permitted operation and an accepted body, and ends with the
response stored, if there is room. -/
theorem Course.of_fetched {expired : Bool} {mode : Mode} {wait : SoapRequest → Awaited}
    {served : Served o} {payload : Response o.descriptor.response} {t : Instant}
    (course : Course d w expired o body mode wait served)
    (fetched : served.result = .ok ⟨payload, t, false⟩) :
    w.shelf.prohibits o = false ∧ (∃ request, o.parse d.codec.layouts body = .ok request) ∧
      served.after.clock = t ∧
      served.after.shelf = (swept w.shelf o body mode).store o body payload t := by
  cases course with
  | short begun =>
    dsimp only at fetched
    subst fetched
    cases begun with
    | hit _ _ found =>
      obtain ⟨_, cached, _⟩ := lookup_eq_some found
      cases cached
  | long begun finish =>
    dsimp only at fetched
    subst fetched
    obtain ⟨r, same, stored⟩ := finish.of_ok
    cases same
    cases begun with
    | calling allowed parsed _ _ => exact ⟨allowed, ⟨_, parsed⟩, rfl, stored⟩

/-- An entry that is not too old answers an accepted body that shares its key. -/
theorem run_hit {body' : List UInt8} {payload : Response o.descriptor.response} {t : Instant}
    (entry : w.shelf.cache.get? (o.cacheKey body) = some ⟨.response o payload, t⟩)
    (allowed : w.shelf.prohibits o = false) (same : o.cacheKey body' = o.cacheKey body)
    (accepted : ∃ request, o.parse d.codec.layouts body' = .ok request) (past : t ≤ w.clock)
    (young : o.descriptor.policy = .ttl → w.clock < t + d.ttl) (wait : SoapRequest → Awaited) :
    d.run w false o body' .cached wait = ⟨w, [], .ok ⟨payload, t, true⟩⟩ := by
  obtain ⟨request, parsed⟩ := accepted
  have age : o.descriptor.policy = .ttl → w.clock - t < d.ttl :=
    fun policy => Int.sub_left_lt_of_lt_add (young policy)
  have found : d.lookup w.shelf w.clock o body' = some ⟨payload, t, true⟩ :=
    lookup_of_entry (by rw [same, entry]) past age
  exact run_of_beginning (.hit allowed parsed found)

end SoapGateway.Dispatcher

namespace SoapGateway.Session

open Calendar (Instant)

variable {d : Dispatcher} {o : Operation} {body : List UInt8}

/-- A run in a session from an empty cache that fetches a response leaves it in the cache with the
time at which it ends, unless its key was new and the cache full. If the response is there, then
after any steps that spare its key and do not deny the operation, and however the clock was moved, a
request that has not expired is given the same response with the same time, and no call is made, as
long as the clock is not before that time and, for an operation that ages, not `ttl` after it. For a
snapshot any accepted body will do. -/
theorem fetched_is_reused {capacity : Nat} {names : DenyList} {clock : Instant}
    {before : List Step} {w : Session} {expired : Bool} {mode : Mode}
    {wait : SoapRequest → Awaited} {served : Served o}
    {payload : Response o.descriptor.response} {t : Instant}
    (reached : (initial capacity names clock).play d before = w)
    (ran : d.run w expired o body mode wait = served)
    (fetched : served.result = .ok ⟨payload, t, false⟩) :
    served.after.clock = t ∧
    (served.after.shelf.cache.get? (o.cacheKey body) = some ⟨.response o payload, t⟩ ↔
      ¬ (w.shelf.cache.get? (o.cacheKey body) = none ∧ w.shelf.cache.IsFull)) ∧
    (served.after.shelf.cache.get? (o.cacheKey body) = some ⟨.response o payload, t⟩ →
      ∀ (more : List Step) (w' : Session) (body' : List UInt8) (wait' : SoapRequest → Awaited),
        (∀ a ∈ more, a.Spares o body) → served.after.play d more = w' →
        (body' = body ∨ o.descriptor.policy = .snapshot ∧
          ∃ request, o.parse d.codec.layouts body' = .ok request) →
        t ≤ w'.clock → (o.descriptor.policy = .ttl → w'.clock < t + d.ttl) →
        d.run w' false o body' .cached wait' = ⟨w', [], .ok ⟨payload, t, true⟩⟩) := by
  have course := Dispatcher.run_cases d w expired o body mode wait
  rw [ran] at course
  obtain ⟨allowed, accepted, ended, shelf⟩ := course.of_fetched fetched
  have bounded : w.shelf.cache.Bounded := by
    rw [← reached]
    exact play_bounded d before (Cache.bounded_empty capacity)
  refine ⟨ended, ?_, ?_⟩
  · rw [← Dispatcher.swept_room_iff bounded mode, shelf]
    constructor
    · rintro entry ⟨absent, full⟩
      rw [Shelf.store_full absent full, absent] at entry
      cases entry
    · intro room
      exact Shelf.get?_store room payload t
  · intro entry more w' body' wait' spare played like past young
    have kept : Keeps served.after w' o body := by
      rw [← played]
      exact play_keeps spare
    have permitted : w'.shelf.prohibits o = false := by
      rw [kept.permission, Shelf.prohibits, course.denied]
      exact allowed
    have entry' := kept.entry.trans entry
    rcases like with rfl | ⟨policy, accepted'⟩
    · exact Dispatcher.run_hit entry' permitted rfl accepted past young wait'
    · have same : o.cacheKey body' = o.cacheKey body := by
        rw [Operation.cacheKey_snapshot policy, Operation.cacheKey_snapshot policy]
      exact Dispatcher.run_hit entry' permitted same accepted' past young wait'

/-- A key rate fetched into the last place of the cache is given out up to the last microsecond of
its life, whatever was denied and asked in between. -/
theorem fetched_is_reused_keyRate :
    let d : Dispatcher := { ttl := 60000000 }
    let body := Utf8.bytesOf "\x7b\"FromDate\":\"2023-06-01\",\"ToDate\":\"2023-06-22\"\x7d"
    let answer := Utf8.bytesOf "<KeyRate><KR><DT> 2023 </DT><Rate>7.50</Rate></KR></KeyRate>"
    let payload : Response Operation.keyRate.descriptor.response := .rows [⟨["2023", "7.50"], rfl⟩]
    let wait : SoapRequest → Awaited := fun _ => ⟨.answered answer, 7, false⟩
    let w := (initial 2 {} 5).play d [.plant ⟨"KeyRateXML", ""⟩ 3]
    let served := d.run w false .keyRate body .fresh wait
    let w' := served.after.play d
      [.deny "MainInfoXML", .setClock (-1), .run false .mainInfo [] .cached wait,
        .setClock 60000006]
    served.result = .ok ⟨payload, 7, false⟩ ∧
      d.run w' false .keyRate body .cached wait = ⟨w', [], .ok ⟨payload, 7, true⟩⟩ := by
  intro d body answer payload wait w served w'
  let request : Request := .dateRange "2023-06-01" "2023-06-22"
  have parsed : Operation.keyRate.parse d.codec.layouts body = .ok request := by decide +kernel
  have given : request.fields d.codec.layouts =
      .ok [("fromDate", "2023-06-01T00:00:00"), ("ToDate", "2023-06-22T00:00:00")] := by
    decide +kernel
  have named : Xml.checkName Operation.keyRate.name = .ok () := by decide +kernel
  have written := Request.write_eq given named d.codec.xmlns
  -- The envelope is too long to be evaluated, so the call is followed by its lemmas.
  have encoded := Codec.encode_eq written (by rw [String.toList_ofList]; decide +kernel)
  have allowed : w.shelf.prohibits .keyRate = false := by decide +kernel
  have begun : Dispatcher.Beginning d w.shelf w.clock .keyRate body false .fresh _ (.calling _) :=
    .calling allowed parsed (fun cached => by cases cached) encoded
  have ran : served = _ := Dispatcher.run_of_calling begun
  have fetched : served.result = .ok ⟨payload, 7, false⟩ := by
    rw [ran]
    decide +kernel
  have reached : (initial 2 {} 5).play d [.plant ⟨"KeyRateXML", ""⟩ 3] = w := rfl
  have whole : d.run w false .keyRate body .fresh wait = served := rfl
  have all := fetched_is_reused reached whole fetched
  have room : ¬ (w.shelf.cache.get? (Operation.keyRate.cacheKey body) = none ∧
      w.shelf.cache.IsFull) := by decide +kernel
  have last : w'.clock = 60000006 := rfl
  refine ⟨fetched, all.2.2 (all.2.1.mpr room) _ w' body wait ?_ rfl (.inl rfl) ?_ fun _ => ?_⟩
  · have denied : "MainInfoXML" ≠ Operation.keyRate.name := by decide +kernel
    have other : Operation.mainInfo.cacheKey [] ≠ Operation.keyRate.cacheKey body := by
      decide +kernel
    simpa [Step.Spares] using ⟨denied, other⟩
  · rw [last]
    decide
  · rw [last]
    decide

end SoapGateway.Session
