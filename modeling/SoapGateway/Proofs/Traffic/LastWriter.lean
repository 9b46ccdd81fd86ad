import SoapGateway.Proofs.Traffic.Fetches

/-!
# The last writer

What is under a key is what the last act that put something there put there, and nothing has dropped
the key since. Puts and drops are told from the scene and the act alone, so this settles the content
of the cache after any acts.
-/
namespace SoapGateway.Dispatcher

open Calendar (Instant)

variable {d : Dispatcher} {s s' : Shelf} {now : Instant} {o : Operation} {body : List UInt8}
  {mode : Mode}

/-- A run that is neither expired nor refused sweeps, and no other does. -/
theorem Beginning.shelf_eq {expired : Bool} {b : Begun o}
    (begun : Beginning d s now o body expired mode s' b) :
    s' = if expired = false ∧ s.prohibits o = false then swept s o body mode else s := by
  cases begun with
  | expired => simp
  | prohibited _ denied => simp [denied]
  | refused allowed => simp [allowed]
  | hit allowed => simp [allowed, swept]
  | unwritten allowed => simp [allowed]
  | calling allowed => simp [allowed]

/-- The end of a run keeps every entry but the one that its response replaces. -/
theorem Finish.get?_iff {expired : Bool} {outcome : CallOutcome} {result : Result o}
    (finish : Finish s now o body expired outcome s' result) (k : CacheKey)
    (e : CacheEntry Stored) :
    s'.cache.get? k = some e ↔
      (∃ r, result = .ok ⟨r, now, false⟩ ∧ ¬ s.cache.Refuses k ∧ k = o.cacheKey body ∧
        e = ⟨.response o r, now⟩) ∨
      s.cache.get? k = some e ∧ ¬ ∃ e' r, result = .ok ⟨r, now, false⟩ ∧ ¬ s.cache.Refuses k ∧
        k = o.cacheKey body ∧ e' = (⟨.response o r, now⟩ : CacheEntry Stored) := by
  cases finish with
  | failed => simp
  | late => simp
  | @done _ r received =>
    by_cases own : k = o.cacheKey body
    · subst own
      by_cases refused : s.cache.Refuses (o.cacheKey body)
      · simp [Shelf.store_full refused.1 refused.2, refused]
      · simp [Shelf.get?_store refused, refused, eq_comm]
    · simp [Shelf.get?_store_other own, own]

/-- A body that asks for nothing in particular makes the bare call of its operation. -/
theorem begin_bare {d : Dispatcher} (allowed : s.prohibits o = false)
    (parsed : o.parse d.codec.layouts body = .ok .empty) (missed : d.lookup s now o body = none)
    (free : Text.occursIn Envelope.slotToken.toList
      (Xml.FlatElement.render ⟨o.name, d.codec.xmlns, []⟩) = false) :
    d.begin s now false o body .cached = (s, .calling (d.codec.bareCall o)) :=
  (Beginning.calling allowed parsed (fun _ => missed) (Codec.encode_bare free)).begin_eq

end SoapGateway.Dispatcher

namespace SoapGateway.Traffic

open Calendar (Instant)

/-- The acts that drop the entry of a key: a refresh does so that is neither expired nor refused. -/
inductive Drops (w : Scene) : Act → CacheKey → Prop
  | invalidate (o : Operation) (body : List UInt8) :
    Drops w (.invalidate o body) (o.cacheKey body)
  | clear (k : CacheKey) : Drops w .clear k
  | refresh {o : Operation} {context : Context} (body : List UInt8)
      (live : context.isExpired w.time = false) (allowed : w.shelf.prohibits o = false) :
    Drops w (.start o body .fresh context) (o.cacheKey body)

/-- The acts that put an entry under a key: the look at a run that makes it return a response
fetched anew, unless the cache refuses it. -/
inductive Puts (d : Dispatcher) (w : Scene) : Act → CacheKey → CacheEntry Stored → Prop
  | returned {id : Nat} {arrival : Option Arrival} {q r : Run}
      {payload : Response r.operation.descriptor.response} (before : w.runs[id]? = some q)
      (waiting : q.isWaiting = true) (found : (w.poll id arrival).runs[id]? = some r)
      (ended : r.ending = some (w.clock, .ok ⟨payload, w.clock, false⟩))
      (room : ¬ w.shelf.cache.Refuses (r.operation.cacheKey r.body)) :
    Puts d w (.poll id arrival) (r.operation.cacheKey r.body)
      ⟨.response r.operation payload, w.clock⟩
  | planted {k : CacheKey} (t : Instant) (room : ¬ w.shelf.cache.Refuses k) :
    Puts d w (.plant k t) k ⟨.foreign, t⟩

/-- What changes the entry of a key or confirms it. -/
def Touches (d : Dispatcher) (w : Scene) (a : Act) (k : CacheKey) : Prop :=
  Drops w a k ∨ ∃ e, Puts d w a k e

/-- None of the acts touches a key. -/
def Untouched (d : Dispatcher) (k : CacheKey) : Scene → List Act → Prop
  | _, [] => True
  | w, a :: acts => ¬ Touches d w a k ∧ Untouched d k (w.step d a) acts

/-- The last of the acts that touches a key puts an entry there. -/
def LastPuts (d : Dispatcher) (w : Scene) (acts : List Act) (k : CacheKey) (e : CacheEntry Stored) :
    Prop :=
  ∃ before a after, acts = before ++ a :: after ∧ Puts d (w.play d before) a k e ∧
    Untouched d k (w.play d (before ++ [a])) after

/-- The run numbered `id` has returned what an entry holds, fetched anew, under the key of the
entry. -/
def Returned (w : Scene) (id : Nat) (k : CacheKey) (e : CacheEntry Stored) : Prop :=
  ∃ (r : Run) (payload : Response r.operation.descriptor.response), w.runs[id]? = some r ∧
    r.ending = some (e.createdAt, .ok ⟨payload, e.createdAt, false⟩) ∧
    e.payload = .response r.operation payload ∧ k = r.operation.cacheKey r.body

variable {d : Dispatcher} {w : Scene} {k : CacheKey} {e : CacheEntry Stored}

theorem untouched_iff {a : Act} {p : Prop} (untouched : ¬ Touches d w a k) :
    Puts d w a k e ∨ p ∧ ¬ Touches d w a k ↔ p := by
  have nothing : ¬ Puts d w a k e := fun puts => untouched (.inr ⟨e, puts⟩)
  simp [nothing, untouched]

/-- The last put among acts is the first of them, if the others leave its key alone, or the last
among the others. -/
theorem lastPuts_cons {a : Act} {acts : List Act} :
    LastPuts d w (a :: acts) k e ↔
      LastPuts d (w.step d a) acts k e ∨ Puts d w a k e ∧ Untouched d k (w.step d a) acts := by
  constructor
  · rintro ⟨before, b, after, split, puts, untouched⟩
    cases before with
    | nil =>
      obtain ⟨rfl, rfl⟩ := List.cons.inj split
      exact .inr ⟨puts, untouched⟩
    | cons c before =>
      obtain ⟨rfl, rfl⟩ := List.cons.inj split
      exact .inl ⟨before, b, after, rfl, puts, untouched⟩
  · rintro (⟨before, b, after, rfl, puts, untouched⟩ | ⟨puts, untouched⟩)
    · exact ⟨a :: before, b, after, rfl, puts, untouched⟩
    · exact ⟨[], a, acts, rfl, puts, untouched⟩

theorem not_lastPuts_nil : ¬ LastPuts d w [] k e := by
  rintro ⟨before, a, after, split, _⟩
  simp at split

namespace Scene

/-- A start keeps an entry exactly where it does not drop it. -/
theorem get?_start (o : Operation) (body : List UInt8) (mode : Mode) (context : Context) :
    (w.start d o body mode context).shelf.cache.get? k = some e ↔
      w.shelf.cache.get? k = some e ∧ ¬ Drops w (.start o body mode context) k := by
  have begun := Dispatcher.begin_cases d w.shelf w.clock (context.isExpired w.time) o body mode
  change (d.begin w.shelf w.clock (context.isExpired w.time) o body mode).1.cache.get? k = _ ↔ _
  rw [begun.shelf_eq]
  by_cases passed : context.isExpired w.time = false ∧ w.shelf.prohibits o = false
  · rw [if_pos passed]
    cases mode with
    | cached =>
      have kept : ¬ Drops w (.start o body .cached context) k := by rintro ⟨⟩
      simp [Dispatcher.swept, kept]
    | fresh =>
      rw [Dispatcher.swept, Shelf.invalidate_cache, Cache.get?_erase]
      by_cases own : k = o.cacheKey body
      · subst own
        simp [Drops.refresh body passed.1 passed.2]
      · have kept : ¬ Drops w (.start o body .fresh context) k := by
          intro drops
          cases drops with
          | refresh => exact own rfl
        simp [own, kept]
  · have kept : ¬ Drops w (.start o body mode context) k := by
      intro drops
      cases drops with
      | refresh _ live allowed => exact passed ⟨live, allowed⟩
    rw [if_neg passed]
    simp [kept]

/-- The start of a run that may be answered out of the cache leaves the shelf alone. -/
theorem start_cached_shelf (d : Dispatcher) (w : Scene) (o : Operation) (body : List UInt8)
    (context : Context) : (w.start d o body .cached context).shelf = w.shelf := by
  have begun := Dispatcher.begin_cases d w.shelf w.clock (context.isExpired w.time) o body .cached
  have shelf := begun.shelf_eq
  rwa [Dispatcher.swept, ite_self] at shelf

/-- The entry that the end of a run puts in: its response, if it returns one and is not refused. -/
theorem puts_settled {id time : Nat} {arrival : Option Arrival} {r : Run} {c : Context}
    {outcome : CallOutcome} {shelf : Shelf} {result : Result r.operation}
    (found : w.runs[id]? = some r) (waiting : r.isWaiting = true)
    (settled : w.poll id arrival = { w with
      shelf, time
      runs := w.runs.set id ({ r with context := c }.settled outcome shelf w.clock result) }) :
    Puts d w (.poll id arrival) k e ↔
      ∃ payload, result = .ok ⟨payload, w.clock, false⟩ ∧ ¬ w.shelf.cache.Refuses k ∧
        k = r.operation.cacheKey r.body ∧ e = ⟨.response r.operation payload, w.clock⟩ := by
  have inside := (List.getElem?_eq_some_iff.mp found).1
  have after : (w.poll id arrival).runs[id]? =
      some ({ r with context := c }.settled outcome shelf w.clock result) := by
    rw [settled, List.getElem?_set_self inside]
  constructor
  · rintro (⟨_, _, found', ended, room⟩ | _)
    rw [after, Option.some.injEq] at found'
    subst found'
    exact ⟨_, (Prod.mk.inj (Option.some.inj ended)).2, room, rfl, rfl⟩
  · rintro ⟨payload, ok, room, rfl, rfl⟩
    have ended : ({ r with context := c }.settled outcome shelf w.clock result).ending =
        some (w.clock, .ok ⟨payload, w.clock, false⟩) := by
      rw [ok]
      rfl
    have put := Puts.returned (d := d) found waiting after ended room
    exact put

/-- A look at a run that does not end it puts nothing in. -/
theorem not_puts_idle {id : Nat} {arrival : Option Arrival} (same : w.poll id arrival = w) :
    ¬ Puts d w (.poll id arrival) k e := by
  rintro ⟨before, waiting, found, ended, _⟩
  rw [same, before, Option.some.injEq] at found
  subst found
  simp [Run.isWaiting, ended] at waiting

/-- A look at a run keeps every entry but the one that it replaces. -/
theorem get?_poll (id : Nat) (arrival : Option Arrival) :
    (w.poll id arrival).shelf.cache.get? k = some e ↔ Puts d w (.poll id arrival) k e ∨
      w.shelf.cache.get? k = some e ∧ ¬ ∃ e', Puts d w (.poll id arrival) k e' := by
  rcases w.poll_cases id arrival with same | ⟨r, c, time, outcome, found, waiting, settled⟩
  · have nothing : ∀ e', ¬ Puts d w (.poll id arrival) k e' := fun _ => not_puts_idle same
    simp [same, nothing]
  · obtain ⟨shelf, result, finish, settle⟩ :=
      settle_cases { w with time } id { r with context := c } outcome
    rw [settle] at settled
    simp only [puts_settled (d := d) found waiting settled, settled]
    exact finish.get?_iff k e

/-- A look at a run takes nothing out of the cache. -/
theorem contains_poll {k : CacheKey} (d : Dispatcher) (held : w.shelf.cache.contains k = true)
    (id : Nat) (arrival : Option Arrival) : (w.poll id arrival).shelf.cache.contains k = true := by
  obtain ⟨e, entry⟩ := Option.isSome_iff_exists.mp held
  have kept := fun e => get?_poll (d := d) (w := w) (k := k) (e := e) id arrival
  by_cases puts : ∃ e', Puts d w (.poll id arrival) k e'
  · obtain ⟨e', put⟩ := puts
    exact Option.isSome_iff_exists.mpr ⟨e', (kept e').mpr (.inl put)⟩
  · exact Option.isSome_iff_exists.mpr ⟨e, (kept e).mpr (.inr ⟨entry, puts⟩)⟩

theorem get?_plant (key : CacheKey) (t : Instant) :
    (w.plant key t).shelf.cache.get? k = some e ↔ Puts d w (.plant key t) k e ∨
      w.shelf.cache.get? k = some e ∧ ¬ ∃ e', Puts d w (.plant key t) k e' := by
  have puts : ∀ e', Puts d w (.plant key t) k e' ↔
      k = key ∧ ¬ w.shelf.cache.Refuses key ∧ e' = ⟨.foreign, t⟩ := by
    intro e'
    constructor
    · intro planted
      cases planted with
      | planted _ room => exact ⟨rfl, room, rfl⟩
    · rintro ⟨rfl, room, rfl⟩
      exact .planted t room
  simp only [puts]
  by_cases refused : w.shelf.cache.Refuses key
  · have full := Cache.put_full refused.1 refused.2 ⟨.foreign, t⟩
    simp [plant, full, refused]
  · have stored := Cache.put_ok refused ⟨.foreign, t⟩
    have planted : (w.plant key t).shelf.cache.get? k =
        if k = key then some ⟨.foreign, t⟩ else w.shelf.cache.get? k := by
      rw [plant, stored]
      exact Cache.get?_put stored k
    rw [planted]
    by_cases own : k = key
    · simp [own, refused, eq_comm]
    · simp [own]

/-- An entry is there after an act exactly if the act puts it there, or it was there before and the
act does not touch its key. -/
theorem get?_step (a : Act) :
    (w.step d a).shelf.cache.get? k = some e ↔
      Puts d w a k e ∨ w.shelf.cache.get? k = some e ∧ ¬ Touches d w a k := by
  cases a with
  | start o body mode context =>
    have nothing : ∀ e', ¬ Puts d w (.start o body mode context) k e' := by rintro _ ⟨⟩
    simp [step, get?_start, Touches, nothing]
  | poll id arrival =>
    have kept : ¬ Drops w (.poll id arrival) k := by rintro ⟨⟩
    simp [step, get?_poll (d := d), Touches, kept]
  | plant key t =>
    have kept : ¬ Drops w (.plant key t) k := by rintro ⟨⟩
    simp [step, get?_plant (d := d), Touches, kept]
  | invalidate o body =>
    have nothing : ∀ e', ¬ Puts d w (.invalidate o body) k e' := by rintro _ ⟨⟩
    have drops : Drops w (.invalidate o body) k ↔ k = o.cacheKey body := by
      constructor
      · rintro ⟨⟩
        rfl
      · rintro rfl
        exact .invalidate o body
    simp [step, Cache.get?_erase, Touches, nothing, drops, and_comm]
  | clear =>
    have nothing : ¬ Puts d w .clear k e := by rintro ⟨⟩
    simp [step, Touches, Drops.clear, nothing]
  | cancel id =>
    have kept : ¬ Touches d w (.cancel id) k := by rintro (touch | ⟨_, touch⟩) <;> cases touch
    rw [step, cancel]
    split <;> exact (untouched_iff kept).symm
  | wait ms =>
    have kept : ¬ Touches d w (.wait ms) k := by rintro (touch | ⟨_, touch⟩) <;> cases touch
    exact (untouched_iff kept).symm
  | setClock t =>
    have kept : ¬ Touches d w (.setClock t) k := by rintro (touch | ⟨_, touch⟩) <;> cases touch
    exact (untouched_iff kept).symm
  | deny name =>
    have kept : ¬ Touches d w (.deny name) k := by rintro (touch | ⟨_, touch⟩) <;> cases touch
    exact (untouched_iff kept).symm

/-- What is under a key after any acts is what the last of them put there that touched the key, or
what was there before, if none did. -/
theorem get?_play (d : Dispatcher) (w : Scene) (acts : List Act) (k : CacheKey)
    (e : CacheEntry Stored) :
    (w.play d acts).shelf.cache.get? k = some e ↔
      LastPuts d w acts k e ∨ w.shelf.cache.get? k = some e ∧ Untouched d k w acts := by
  induction acts generalizing w with
  | nil => simp [play, Untouched, not_lastPuts_nil]
  | cons a acts ih =>
    rw [play_cons, ih, get?_step, lastPuts_cons, Untouched]
    tauto

end Scene

/-- What is put somewhere is planted there, or comes of a look at a run. -/
theorem Puts.origin {a : Act} (puts : Puts d w a k e) :
    a = .plant k e.createdAt ∧ e.payload = .foreign ∨ ∃ id arrival, a = .poll id arrival := by
  cases puts with
  | returned => exact .inr ⟨_, _, rfl⟩
  | planted => exact .inl ⟨rfl, rfl⟩

/-- What a look at a run puts in, that run returns. -/
theorem Puts.returned_by {id : Nat} {arrival : Option Arrival}
    (puts : Puts d w (.poll id arrival) k e) : Returned (w.step d (.poll id arrival)) id k e := by
  cases puts with
  | returned before waiting found ended room => exact ⟨_, _, found, ended, rfl, rfl⟩

/-- What a run has returned stays what it has returned. -/
theorem Returned.play {id : Nat} (returned : Returned w id k e) (acts : List Act) :
    Returned (w.play d acts) id k e := by
  obtain ⟨r, payload, found, ended, stored, own⟩ := returned
  obtain ⟨r', found', later⟩ := Scene.play_carries d w acts found
  obtain ⟨c, rfl⟩ := later.idle (by simp [Run.isWaiting, ended])
  exact ⟨{ r with context := c }, payload, found', ended, stored, own⟩

/-- At every moment, and whatever goes on at once: no key has two entries; what is under a key is
what the last act put there that touched the key, so nothing has dropped it since; what a run put
there is what the run returned to its caller, with the time that it returned; and whatever a run
returns without the cache is the reading of what its own call answered, also if it was replaced
or never went in. -/
theorem last_writer_wins (d : Dispatcher) (capacity : Nat) (denied : DenyList) (clock : Instant)
    (time : Nat) (acts : List Act) :
    let w₀ := Scene.initial capacity denied clock time
    let w := w₀.play d acts
    w.shelf.cache.Distinct ∧
    (∀ k e, w.shelf.cache.get? k = some e ↔ LastPuts d w₀ acts k e) ∧
    (∀ before id arrival after k e, acts = before ++ .poll id arrival :: after →
      Puts d (w₀.play d before) (.poll id arrival) k e → Returned w id k e) ∧
    (∀ (id : Nat) (r : Run) (now : Instant) (f : Fetched r.operation), w.runs[id]? = some r →
      r.ending = some (now, .ok f) → f.fromCache = false →
      Fetches d r r.operation r.body f.payload) := by
  intro w₀ w
  refine ⟨?distinct, ?last, ?returned, ?fetched⟩
  case distinct =>
    exact Scene.play_cache Cache.closed_distinct (Cache.distinct_empty capacity) acts
  case last =>
    intro k e
    have absent : w₀.shelf.cache.get? k ≠ some e := nofun
    rw [Scene.get?_play, or_iff_left fun old => absent old.1]
  case returned =>
    intro before id arrival after k e split puts
    change Returned (w₀.play d acts) id k e
    rw [split, Scene.play_split]
    exact puts.returned_by.play after
  case fetched =>
    intro id r now f found ended fetched
    exact (honest_play d capacity denied clock time acts found).fetched ended fetched

/-- Two runs of one key are under way at once. The one that ends last is the one whose response is
kept, and the other has returned its own all the same. -/
theorem last_writer_wins_biCurBacket :
    let d : Dispatcher := { ttl := 60000000 }
    let acts : List Act := [.start .biCurBacket [] .cached {}, .start .biCurBacket [] .cached {},
      .poll 1 (some { answer := .ok (Utf8.bytesOf "<BiCurBacket/>") }), .setClock 5,
      .poll 0 (some { answer := .ok (Utf8.bytesOf "<BiCurBacket><BC/></BiCurBacket>") })]
    (∃ id e, (Scene.play d (.initial 0 {} 0 0) acts).shelf.cache.get?
        (Operation.biCurBacket.cacheKey []) = some e ∧ e.createdAt = 5 ∧
      LastPuts d (.initial 0 {} 0 0) acts (Operation.biCurBacket.cacheKey []) e ∧
      Returned (Scene.play d (.initial 0 {} 0 0) acts) id (Operation.biCurBacket.cacheKey []) e) ∧
    ∃ (r : Run) (now : Instant) (f : Fetched r.operation),
      (Scene.play d (.initial 0 {} 0 0) acts).runs[1]? = some r ∧ r.ending = some (now, .ok f) ∧
      Fetches d r r.operation r.body f.payload := by
  intro d acts
  let waiting : Run :=
    .ofBegun .biCurBacket [] .cached {} 0 (.calling (d.codec.bareCall .biCurBacket))
  have begun : d.begin ⟨.empty 0, {}⟩ 0 false .biCurBacket [] .cached =
      (⟨.empty 0, {}⟩, .calling (d.codec.bareCall .biCurBacket)) :=
    Dispatcher.begin_bare (by decide +kernel) (by decide +kernel) rfl (by decide +kernel)
  have one : Scene.play d (.initial 0 {} 0 0) acts =
      Scene.play d ⟨⟨.empty 0, {}⟩, 0, 0, [waiting]⟩ (acts.drop 1) :=
    Scene.play_start (w := .initial 0 {} 0 0) begun
  have both : Scene.play d (.initial 0 {} 0 0) acts =
      Scene.play d ⟨⟨.empty 0, {}⟩, 0, 0, [waiting, waiting]⟩ (acts.drop 2) :=
    one.trans (Scene.play_start (w := ⟨⟨.empty 0, {}⟩, 0, 0, [waiting]⟩) begun)
  obtain ⟨_, last, returned, fetched⟩ := last_writer_wins d 0 {} 0 0 acts
  refine ⟨?_, ?_⟩
  · have kept : ((Scene.play d (.initial 0 {} 0 0) acts).shelf.cache.get?
        (Operation.biCurBacket.cacheKey [])).map (·.createdAt) = some 5 := by
      rw [both]
      decide +kernel
    obtain ⟨e, entry, stamped⟩ := Option.map_eq_some_iff.mp kept
    obtain ⟨before, a, after, split, puts, _⟩ := (last _ e).mp entry
    rcases puts.origin with ⟨planted, _⟩ | ⟨id, arrival, rfl⟩
    · have member : a ∈ acts := by simp [split]
      simp [acts, planted] at member
    · exact ⟨id, e, entry, stamped, (last _ e).mp entry, returned _ _ _ _ _ _ split puts⟩
  · have done : (Scene.play d (.initial 0 {} 0 0) acts).runs[1]?.any
        (fun r => r.ending.isSome && !r.isHit && !r.isFailed) = true := by
      rw [both]
      decide +kernel
    obtain ⟨r, found, done⟩ := (Option.any_eq_true _ _).mp done
    simp only [Bool.and_eq_true, Bool.not_eq_true'] at done
    obtain ⟨now, f, ended, anew⟩ := Run.fetched_cases done.1.1 done.1.2 done.2
    exact ⟨r, now, f, found, ended, fetched 1 r now f found ended anew⟩

end SoapGateway.Traffic
