import SoapGateway.Proofs.Envelope
import SoapGateway.Proofs.Operation.CacheKey
import SoapGateway.Proofs.Traffic.Runs

/-!
# Coherence of the cache

Whatever happens to a gateway that starts with an empty cache, a response out of the cache is the
answer to the very call that the request would have made. Every entry is traced to the run that
stored it, and that run is kept with its call, its outcome and its end.
-/
namespace SoapGateway.Traffic

open Calendar (Instant)

/-- The run `q` fetched `payload`, and `body` would have made the call that it made. -/
structure Origin (d : Dispatcher) (q : Run) (o : Operation) (body : List UInt8)
    (payload : Response o.descriptor.response) (createdAt : Instant) : Prop where
  operation : q.operation = o
  /-- The call of `q` is the one that `body` is read and written as. -/
  call : ∃ request call, o.parse d.codec.layouts body = .ok request ∧
    d.codec.encode o.name request = .ok call ∧ q.call = some call
  /-- The payload is the cleaned reading of the answer to that call. -/
  answer : ∃ answer raw, q.outcome = some (.answered answer) ∧ o.decode answer = .ok raw ∧
    payload = raw.sanitize
  /-- `q` stored it, and ended, when the clock was at `createdAt`. -/
  stored : q.stored = some createdAt
  ended : ∃ result, q.ending = some (createdAt, result)

namespace Origin

variable {d : Dispatcher} {q : Run} {o : Operation} {body : List UInt8}
  {payload : Response o.descriptor.response} {createdAt : Instant}

/-- An origin has ended, so it stays what it is. -/
theorem later {q' : Run} (origin : Origin d q o body payload createdAt) (later : Later q q') :
    Origin d q' o body payload createdAt := by
  obtain ⟨result, ended⟩ := origin.ended
  obtain ⟨c, rfl⟩ := later.idle (by simp [Run.isWaiting, ended])
  exact ⟨origin.operation, origin.call, origin.answer, origin.stored, origin.ended⟩

/-- Bodies with one key that are both accepted ask for the same call. -/
theorem of_cacheKey {body' : List UInt8} {request : Request}
    (origin : Origin d q o body payload createdAt) (same : o.cacheKey body = o.cacheKey body')
    (parsed : o.parse d.codec.layouts body' = .ok request) :
    Origin d q o body' payload createdAt := by
  obtain ⟨request', call, parsed', encoded, made⟩ := origin.call
  obtain rfl := Operation.parse_agree same parsed' parsed
  exact ⟨origin.operation, ⟨_, call, parsed, encoded, made⟩, origin.answer, origin.stored,
    origin.ended⟩

end Origin

/-- An entry of the cache is foreign, or some run fetched it under its own key. -/
def Traced (d : Dispatcher) (runs : List Run) (key : CacheKey) (e : CacheEntry Stored) : Prop :=
  e.payload = .foreign ∨
  ∃ (j : Nat) (q : Run) (o : Operation) (payload : Response o.descriptor.response),
    runs[j]? = some q ∧ e.payload = .response o payload ∧ o.cacheKey q.body = key ∧
      Origin d q o q.body payload e.createdAt

/-- A run that waits has made the call that its body asks for. -/
def Called (d : Dispatcher) (r : Run) : Prop :=
  r.isWaiting = true → ∃ request call, r.operation.parse d.codec.layouts r.body = .ok request ∧
    d.codec.encode r.operation.name request = .ok call ∧ r.call = some call

/-- If the run numbered `i` was answered out of the cache, an earlier run made its call. -/
def Explained (d : Dispatcher) (runs : List Run) (i : Nat) (r : Run) : Prop :=
  ∀ ⦃now : Instant⦄ ⦃f : Fetched r.operation⦄, r.ending = some (now, .ok f) → f.fromCache = true →
    ∃ (j : Nat) (q : Run), j < i ∧ runs[j]? = some q ∧
      Origin d q r.operation r.body f.payload f.createdAt ∧ f.createdAt ≤ now ∧
      (r.operation.descriptor.policy = .ttl → now - f.createdAt < d.ttl)

/-- Every entry of the cache and every answer out of it has its origin. -/
structure Coherent (d : Dispatcher) (w : Scene) : Prop where
  called : ∀ {i : Nat} {r : Run}, w.runs[i]? = some r → Called d r
  traced : ∀ {key : CacheKey} {e : CacheEntry Stored}, w.shelf.cache.get? key = some e →
    Traced d w.runs key e
  explained : ∀ {i : Nat} {r : Run}, w.runs[i]? = some r → Explained d w.runs i r

theorem Called.context {d : Dispatcher} {r : Run} (called : Called d r) (c : Context) :
    Called d { r with context := c } :=
  fun waiting => called waiting

theorem Explained.context {d : Dispatcher} {runs : List Run} {i : Nat} {r : Run}
    (explained : Explained d runs i r) (c : Context) :
    Explained d runs i { r with context := c } :=
  fun _ _ ended cached => explained ended cached

theorem Traced.carry {d : Dispatcher} {runs runs' : List Run} {key : CacheKey}
    {e : CacheEntry Stored} (traced : Traced d runs key e) (carries : Carries runs runs') :
    Traced d runs' key e := by
  rcases traced with foreign | ⟨j, q, o, payload, found, response, own, origin⟩
  · exact .inl foreign
  · obtain ⟨q', found', later⟩ := carries found
    rw [← later.body] at own origin
    exact .inr ⟨j, q', o, payload, found', response, own, origin.later later⟩

theorem Explained.carry {d : Dispatcher} {runs runs' : List Run} {i : Nat} {r : Run}
    (explained : Explained d runs i r) (carries : Carries runs runs') : Explained d runs' i r := by
  intro now f ended cached
  obtain ⟨j, q, earlier, found, origin, age⟩ := explained ended cached
  obtain ⟨q', found', later⟩ := carries found
  exact ⟨j, q', earlier, found', origin.later later, age⟩

variable {d : Dispatcher} {w : Scene}

/-- What a usable entry answers is traced to the run that fetched it. -/
theorem Coherent.lookup {o : Operation} {body : List UInt8} {request : Request} {f : Fetched o}
    (coherent : Coherent d w) (parsed : o.parse d.codec.layouts body = .ok request)
    (found : d.lookup w.shelf w.clock o body = some f) :
    ∃ (j : Nat) (q : Run), w.runs[j]? = some q ∧ Origin d q o body f.payload f.createdAt ∧
      f.createdAt ≤ w.clock ∧ (o.descriptor.policy = .ttl → w.clock - f.createdAt < d.ttl) := by
  obtain ⟨entry, _, current⟩ := Dispatcher.lookup_eq_some found
  obtain ⟨past, age⟩ := Dispatcher.current_of_isOutdated current
  rcases coherent.traced entry with foreign | ⟨j, q, o', payload, run, response, own, origin⟩
  · cases foreign
  · cases response
    exact ⟨j, q, run, origin.of_cacheKey own parsed, past, age⟩

/-- A new run keeps coherence if no entry appears, its call is its own, and its answer has an
origin. -/
theorem Coherent.push {shelf : Shelf} {r : Run} (coherent : Coherent d w)
    (shrinks : ∀ ⦃key e⦄, shelf.cache.get? key = some e → w.shelf.cache.get? key = some e)
    (called : Called d r) (explained : Explained d w.runs w.runs.length r) :
    Coherent d { w with shelf, runs := w.runs ++ [r] } := by
  have carries := Carries.append w.runs [r]
  refine ⟨fun found => ?_, fun entry => (coherent.traced (shrinks entry)).carry carries,
    fun found => ?_⟩
  · rcases getElem?_snoc found with found | ⟨rfl, rfl⟩
    · exact coherent.called found
    · exact called
  · rcases getElem?_snoc found with found | ⟨rfl, rfl⟩
    · exact (coherent.explained found).carry carries
    · exact explained.carry carries

theorem called_ofBegun {s s' : Shelf} {now : Instant} {o : Operation} {body : List UInt8}
    {expired : Bool} {mode : Mode} {b : Begun o} (context : Context)
    (begun : Dispatcher.Beginning d s now o body expired mode s' b) :
    Called d (.ofBegun o body mode context now b) := by
  intro waiting
  cases begun with
  | calling _ parsed _ encoded => exact ⟨_, _, parsed, encoded, rfl⟩
  | _ => cases waiting

theorem Coherent.explained_ofBegun {s' : Shelf} {o : Operation} {body : List UInt8}
    {expired : Bool} {mode : Mode} {b : Begun o} (coherent : Coherent d w) (context : Context)
    (begun : Dispatcher.Beginning d w.shelf w.clock o body expired mode s' b) :
    Explained d w.runs w.runs.length (.ofBegun o body mode context w.clock b) := by
  intro now f ended cached
  cases begun with
  | hit _ parsed found =>
    cases ended
    obtain ⟨j, q, run, origin, age⟩ := coherent.lookup parsed found
    exact ⟨j, q, (List.getElem?_eq_some_iff.mp run).1, run, origin, age⟩
  | _ => cases ended

theorem Coherent.start (coherent : Coherent d w) (o : Operation) (body : List UInt8) (mode : Mode)
    (context : Context) : Coherent d (w.start d o body mode context) := by
  have begun := Dispatcher.begin_cases d w.shelf w.clock (context.isExpired w.time) o body mode
  exact coherent.push (fun _ _ => begun.shrinks) (called_ofBegun context begun)
    (coherent.explained_ofBegun context begun)

/-- A run may go on if the entries that appear with it are traced. -/
theorem Coherent.replace {shelf : Shelf} {time id : Nat} {r r' : Run} (coherent : Coherent d w)
    (found : w.runs[id]? = some r) (later : Later r r') (called : Called d r')
    (traced : ∀ ⦃key e⦄, shelf.cache.get? key = some e → w.shelf.cache.get? key = some e ∨
      Traced d (w.runs.set id r') key e)
    (explained : Explained d w.runs id r') :
    Coherent d { w with shelf, time, runs := w.runs.set id r' } := by
  have inside := (List.getElem?_eq_some_iff.mp found).1
  have carries := Carries.set found later
  refine ⟨fun {i q} member => ?_, fun {key e} entry => ?_, fun {i q} member => ?_⟩
  · dsimp only at member
    by_cases same : i = id
    · rw [same, List.getElem?_set_self inside, Option.some.injEq] at member
      rwa [← member]
    · rw [List.getElem?_set_ne (Ne.symm same)] at member
      exact coherent.called member
  · rcases traced entry with old | new
    · exact (coherent.traced old).carry carries
    · exact new
  · dsimp only at member
    by_cases same : i = id
    · rw [same, List.getElem?_set_self inside, Option.some.injEq] at member
      rw [← member, same]
      exact explained.carry carries
    · rw [List.getElem?_set_ne (Ne.symm same)] at member
      exact (coherent.explained member).carry carries

theorem settled_origin {s : Shelf} {r : Run} {now : Instant} {outcome : CallOutcome}
    {result : Result r.operation} {payload : Response r.operation.descriptor.response}
    (called : Called d r) (waiting : r.isWaiting = true)
    (received : Dispatcher.receive r.operation outcome = .ok payload)
    (ok : result = .ok ⟨payload, now, false⟩)
    (entry : s.cache.get? (r.operation.cacheKey r.body) =
      some ⟨.response r.operation payload, now⟩) :
    Origin d (r.settled outcome s now result) r.operation r.body payload now := by
  obtain ⟨answer, raw, answered, decoded, cleaned⟩ := Dispatcher.receive_eq_ok received
  refine ⟨rfl, called waiting, ⟨answer, raw, congrArg some answered, decoded, cleaned⟩, ?_,
    ⟨result, rfl⟩⟩
  rw [Run.settled, ok]
  exact if_pos entry

/-- The end of a run that waited keeps coherence: what it stores is what its own call answered. -/
theorem Coherent.settle {id time : Nat} {r : Run} (coherent : Coherent d w)
    (found : w.runs[id]? = some r) (waiting : r.isWaiting = true) (c : Context)
    (outcome : CallOutcome) :
    Coherent d ({ w with time }.settle id { r with context := c } outcome) := by
  have inside := (List.getElem?_eq_some_iff.mp found).1
  have called := (coherent.called found).context c
  obtain ⟨shelf, result, finish, settle⟩ :=
    Scene.settle_cases { w with time } id { r with context := c } outcome
  rw [settle]
  refine coherent.replace found (Scene.later_settled waiting finish) ?_ ?_ ?_
  · intro waits
    simp [Run.isWaiting, Run.settled] at waits
  · intro key e entry
    rcases finish.stores entry with old | ⟨payload, received, _, ok, rfl, rfl⟩
    · exact .inl old
    · exact .inr (.inr ⟨id, _, r.operation, payload, List.getElem?_set_self inside, rfl, rfl,
        settled_origin called waiting received ok entry⟩)
  · intro now f ended cached
    simp only [Run.settled, Option.some.injEq, Prod.mk.injEq] at ended
    have ok : result = .ok f := ended.2
    rw [ok] at finish
    rw [finish.fetched] at cached
    cases cached

theorem Coherent.cancel (coherent : Coherent d w) (id : Nat) : Coherent d (w.cancel id) := by
  unfold Scene.cancel
  split
  · exact coherent
  · next r found =>
    exact coherent.replace found (.stays r.context.cancel) ((coherent.called found).context _)
      (fun _ _ entry => .inl entry) ((coherent.explained found).context _)

/-- Entries may go, and foreign ones may come. -/
theorem Coherent.shelf {shelf : Shelf} {clock : Instant} {time : Nat} (coherent : Coherent d w)
    (entries : ∀ ⦃key e⦄, shelf.cache.get? key = some e →
      w.shelf.cache.get? key = some e ∨ e.payload = .foreign) :
    Coherent d { w with shelf, clock, time } := by
  refine ⟨coherent.called, fun entry => ?_, coherent.explained⟩
  rcases entries entry with old | foreign
  · exact coherent.traced old
  · exact .inl foreign

theorem Coherent.plant (coherent : Coherent d w) (key : CacheKey) (t : Instant) :
    Coherent d (w.plant key t) := by
  unfold Scene.plant
  split
  · next planted =>
    refine coherent.shelf fun key' e entry => ?_
    rw [Cache.get?_put planted] at entry
    split at entry
    · cases entry
      exact .inr rfl
    · exact .inl entry
  · exact coherent

/-- Whatever happens next, coherence is kept. -/
theorem Coherent.step (coherent : Coherent d w) (a : Act) : Coherent d (w.step d a) := by
  cases a with
  | start o body mode context => exact coherent.start o body mode context
  | poll id arrival =>
    rcases w.poll_cases id arrival with same | ⟨r, c, time, outcome, found, waiting, settled⟩
    · rw [Scene.step, same]
      exact coherent
    · rw [Scene.step, settled]
      exact coherent.settle found waiting c outcome
  | cancel id => exact coherent.cancel id
  | wait ms => exact coherent.shelf fun _ _ entry => .inl entry
  | setClock t => exact coherent.shelf fun _ _ entry => .inl entry
  | invalidate o body =>
    exact coherent.shelf fun _ _ entry => .inl (Shelf.invalidate_shrinks entry)
  | clear => exact coherent.shelf fun _ _ entry => by cases entry
  | deny name => exact coherent.shelf fun _ _ entry => .inl entry
  | plant key t => exact coherent.plant key t

theorem coherent_initial (d : Dispatcher) (capacity : Nat) (denied : DenyList) (clock : Instant)
    (time : Nat) : Coherent d (.initial capacity denied clock time) := by
  refine ⟨fun found => ?_, fun entry => ?_, fun found => ?_⟩
  · cases found
  · cases entry
  · cases found

theorem Coherent.play (coherent : Coherent d w) (acts : List Act) : Coherent d (w.play d acts) := by
  induction acts generalizing w with
  | nil => exact coherent
  | cons a acts ih => exact ih (coherent.step a)

/-- Whatever has happened since the cache was empty, a response that a run took out of the cache was
fetched by an earlier run of the operation with the call that the body of the later one is read and
written as. It is what that call answered, read and cleaned, and has not aged too much. -/
theorem cached_answer_origin {capacity : Nat} {denied : DenyList} {clock : Instant} {time : Nat}
    {acts : List Act} {i : Nat} {r : Run} {now : Instant} {f : Fetched r.operation}
    (found : (Scene.play d (.initial capacity denied clock time) acts).runs[i]? = some r)
    (ended : r.ending = some (now, .ok f)) (cached : f.fromCache = true) :
    ∃ (j : Nat) (q : Run), j < i ∧
      (Scene.play d (.initial capacity denied clock time) acts).runs[j]? = some q ∧
      Origin d q r.operation r.body f.payload f.createdAt ∧ f.createdAt ≤ now ∧
      (r.operation.descriptor.policy = .ttl → now - f.createdAt < d.ttl) :=
  ((coherent_initial d capacity denied clock time).play acts).explained found ended cached

/-- A second look at the basket, with a body of one blank, is answered by the first. -/
theorem cached_answer_origin_biCurBacket :
    let d : Dispatcher := { ttl := 60000000 }
    let answer := Utf8.bytesOf "<BiCurBacket><BC><USD> 0.55 </USD></BC></BiCurBacket>"
    let w := Scene.play d (.initial 0 {} 0 0)
      [.start .biCurBacket [] .cached {}, .poll 0 (some { answer := .ok answer }), .setClock 5,
        .start .biCurBacket [0x20] .cached {}]
    ∃ (r : Run) (now : Instant) (f : Fetched r.operation) (j : Nat) (q : Run),
      w.runs[1]? = some r ∧ r.ending = some (now, .ok f) ∧ f.fromCache = true ∧
      j < 1 ∧ w.runs[j]? = some q ∧ Origin d q r.operation r.body f.payload f.createdAt := by
  intro d answer w
  let call : SoapRequest := ⟨d.codec.xmlns ++ Operation.biCurBacket.name, Envelope.contentType,
    String.ofList (Envelope.head.toList ++ (String.ofList (Xml.FlatElement.render
      ⟨Operation.biCurBacket.name, d.codec.xmlns, []⟩)).toList ++ Envelope.tail.toList)⟩
  -- The envelope is too long to be evaluated, so the call is followed by its lemmas.
  have named : Xml.checkName Operation.biCurBacket.name = .ok () := by decide +kernel
  have written := Request.write_eq (l := d.codec.layouts) (r := .empty) rfl named d.codec.xmlns
  have encoded : d.codec.encode Operation.biCurBacket.name .empty = .ok call :=
    Codec.encode_eq written (by rw [String.toList_ofList]; decide +kernel)
  have allowed : (Shelf.mk (.empty 0) {}).prohibits .biCurBacket = false := by decide +kernel
  have parsed : Operation.biCurBacket.parse d.codec.layouts [] = .ok .empty := by decide +kernel
  have missed : Mode.cached = .cached →
      d.lookup (Shelf.mk (.empty 0) {}) 0 .biCurBacket [] = none := fun _ => rfl
  have begun := (Dispatcher.Beginning.calling allowed parsed missed encoded).begin_eq
  have first : Scene.start d (.initial 0 {} 0 0) .biCurBacket [] .cached {} =
      ⟨⟨.empty 0, {}⟩, 0, 0, [.ofBegun .biCurBacket [] .cached {} 0 (.calling call)]⟩ :=
    Scene.start_eq begun
  have rest : w = Scene.play d _ _ :=
    (Scene.play_cons ..).trans (congrArg (Scene.play d · _) first)
  have hit : w.runs[1]?.any Run.isHit = true := by
    rw [rest]
    decide +kernel
  obtain ⟨r, found, answered⟩ := (Option.any_eq_true _ _).mp hit
  obtain ⟨now, f, ended, cached⟩ := Run.isHit_cases answered
  obtain ⟨j, q, earlier, run, origin, _⟩ := cached_answer_origin found ended cached
  exact ⟨r, now, f, j, q, found, ended, cached, earlier, run, origin⟩

end SoapGateway.Traffic
