import Mathlib.Data.List.Induction
import SoapGateway.Proofs.Http.Clients
import SoapGateway.Proofs.Traffic.Calls
import SoapGateway.Proofs.Traffic.Denials

/-!
# What requests change

Which requests start calls, and which take entries out of the cache or come to put them in. Every
other request leaves everything as it was, and so does every request that is turned away.
-/
namespace SoapGateway

open Calendar (Instant)

namespace Http.Server

open Traffic (Arrival Later Scene)

variable {s : Server} {w w' : Scene} {e : Event} {r : Request} {k : CacheKey}

/-- A request that takes the entry under a key out of the cache, if there is one. -/
inductive Removes (s : Server) (shelf : Shelf) (r : Request) : CacheKey → Prop
  | dropped {o : Operation} (asks : r.AsksToDrop o) (fits : s.Fits r)
      (allowed : shelf.prohibits o = false) : Removes s shelf r (o.cacheKey r.body)
  | cleared (clears : s.Clears r) (k : CacheKey) : Removes s shelf r k

/-- The run numbered `id` was started by a POST to an operation, which is among the events that led
here from a scene. -/
def StartedBy (s : Server) (w : Scene) (events : List Event) (id : Nat) (r : Request)
    (o : Operation) : Prop :=
  ∃ before after, events = before ++ .arrive r :: after ∧
    (s.serveAll w before).runs.length = id ∧ r.Posts ("/" ++ o.name) ∧ s.Fits r

/-- The answers that a request can get: at once, or when its run has ended. -/
inductive Answers (s : Server) (shelf : Shelf) (r : Request) (freshId : String) : Response → Prop
  | atOnce {response : Response} {shelf' : Shelf}
      (accepted : s.accept s.dispatcher shelf r = .answered response shelf') :
    Answers s shelf r freshId (s.complete freshId r response)
  | byRun {o : Operation} {run : Traffic.Run} {response : Response}
      (accepted : s.accept s.dispatcher shelf r = .running o)
      (replied : s.reply? freshId r run = some response) :
    Answers s shelf r freshId response

namespace Effect

theorem denied (effect : Effect s w e w') : w'.shelf.denied = w.shelf.denied := by
  cases effect with
  | kept | dropped | cleared | wait | setClock => rfl
  | running => rw [Scene.start_cached_shelf]
  | look id arrival => exact Scene.step_denied (d := s.dispatcher) (a := .poll id arrival) nofun
  | leave id => rw [Scene.cancel_shelf]

/-- Only a POST to an operation starts a call, and that is the call of this operation and the body
of the request. -/
theorem calls (effect : Effect s w e w') (more : w'.calls ≠ w.calls) :
    ∃ r o request call, e = .arrive r ∧ r.Posts ("/" ++ o.name) ∧ w.shelf.prohibits o = false ∧
      o.parse s.dispatcher.codec.layouts r.body = .ok request ∧
      s.dispatcher.codec.encode o.name request = .ok call ∧ w'.calls = w.calls ++ [call] := by
  cases effect with
  | kept | dropped | cleared | wait | setClock => exact absurd rfl more
  | @running r o posts fits =>
    rcases Scene.start_calls s.dispatcher w o r.body .cached (s.context w.time r) with
      same | ⟨request, call, made⟩
    · exact absurd same more
    · exact ⟨r, o, request, call, rfl, posts, made⟩
  | look id arrival => exact absurd (w.poll_runs id arrival).2 more
  | leave id => exact absurd (w.cancel_runs id).2 more

/-- An entry appears only with a look at a run, under the key of that run. -/
theorem stores (effect : Effect s w e w') {entry : CacheEntry Stored}
    (stored : w'.shelf.cache.get? k = some entry) (new : w.shelf.cache.get? k ≠ some entry) :
    ∃ id arrival q, e = .look id arrival ∧ w'.runs[id]? = some q ∧
      k = q.operation.cacheKey q.body := by
  cases effect with
  | kept | wait | setClock => exact absurd stored new
  | dropped => exact absurd (Shelf.invalidate_shrinks stored) new
  | cleared => cases stored
  | running =>
    rw [Scene.start_cached_shelf] at stored
    exact absurd stored new
  | look id arrival =>
    rcases Scene.step_stores (d := s.dispatcher) (a := .poll id arrival) stored new with
      ⟨planted, _⟩ | ⟨id', arrival', q, _, looked, found, _, _, own, _⟩
    · cases planted
    · cases looked
      exact ⟨id, arrival, q, rfl, found, own⟩
  | leave id =>
    rw [Scene.cancel_shelf] at stored
    exact absurd stored new

/-- An entry goes away only with a request that takes it out. -/
theorem removes (effect : Effect s w e w') (held : w.shelf.cache.contains k = true)
    (gone : w'.shelf.cache.contains k = false) : ∃ r, e = .arrive r ∧ s.Removes w.shelf r k := by
  cases effect with
  | kept | wait | setClock =>
    rw [held] at gone
    cases gone
  | @dropped r o asks fits allowed =>
    have own : k = o.cacheKey r.body := by
      by_contra other
      rw [Cache.contains, Shelf.get?_invalidate_other other] at gone
      rw [Cache.contains, gone] at held
      cases held
    exact ⟨r, rfl, own ▸ .dropped asks fits allowed⟩
  | @cleared r clears => exact ⟨r, rfl, .cleared clears k⟩
  | running =>
    rw [Scene.start_cached_shelf, held] at gone
    cases gone
  | look id arrival =>
    rw [Scene.contains_poll s.dispatcher held id arrival] at gone
    cases gone
  | leave id =>
    rw [Scene.cancel_shelf, held] at gone
    cases gone

/-- A run that is there was there before, or the request that has just come started it. -/
theorem runs (effect : Effect s w e w') {j : Nat} {q : Traffic.Run} (found : w'.runs[j]? = some q) :
    (∃ q', w.runs[j]? = some q' ∧ Later q' q) ∨
    ∃ r, e = .arrive r ∧ j = w.runs.length ∧ r.Posts ("/" ++ q.operation.name) ∧ s.Fits r ∧
      q.body = r.body := by
  by_cases inside : j < w.runs.length
  · obtain ⟨acts, rfl⟩ := effect.plays
    exact .inl ⟨w.runs[j], List.getElem?_eq_getElem inside,
      Scene.later_of_play (List.getElem?_eq_getElem inside) found⟩
  · have there := (List.getElem?_eq_some_iff.mp found).1
    cases effect with
    | kept | dropped | cleared | wait | setClock => exact absurd there inside
    | @running r o posts fits =>
      rcases Traffic.getElem?_snoc found with old | ⟨last, rfl⟩
      · exact absurd (List.getElem?_eq_some_iff.mp old).1 inside
      · refine .inr ⟨r, rfl, last, ?_, fits, ?_⟩
        · rwa [Traffic.Run.ofBegun_operation]
        · rw [Traffic.Run.ofBegun_body]
    | look id arrival =>
      rw [(w.poll_runs id arrival).1] at there
      exact absurd there inside
    | leave id =>
      rw [(w.cancel_runs id).1] at there
      exact absurd there inside

/-- A request that is not meant to do anything does nothing. -/
theorem other (effect : Effect s w (.arrive r) w')
    (asksNothing : ∀ o : Operation, ¬ r.Posts ("/" ++ o.name))
    (removesNothing : ∀ k, ¬ s.Removes w.shelf r k) : w' = w := by
  cases effect with
  | kept => rfl
  | dropped asks fits allowed => exact absurd (.dropped asks fits allowed) (removesNothing _)
  | cleared clears => exact absurd (.cleared clears ⟨"", ""⟩) (removesNothing ⟨"", ""⟩)
  | running posts => exact absurd posts (asksNothing _)

end Effect

theorem serve_removes (removes : s.Removes w.shelf r k) :
    (s.serve w (.arrive r)).shelf.cache.contains k = false := by
  rw [serve]
  cases removes with
  | dropped asks fits allowed =>
    rw [accept_drop asks fits, Dispatcher.forgotten_of_allowed allowed, Dispatcher.swept]
    dsimp only
    rw [Cache.contains, Shelf.invalidate_cache, Cache.get?_erase, if_pos rfl]
    rfl
  | cleared clears =>
    rw [accept_clear clears]
    rfl

/-- A run that ends is answered with 200 or 500. -/
theorem reply_status {freshId : String} {run : Traffic.Run} {response : Response}
    (replied : s.reply? freshId r run = some response) :
    response.status = 200 ∨ response.status = 500 := by
  obtain ⟨⟨now, result⟩, _, rfl⟩ := Option.map_eq_some_iff.mp replied
  cases result with
  | ok f => exact .inl rfl
  | error f => exact .inr rfl

/-- What is answered with another status than success, redirection and failure has done nothing. -/
theorem serve_turned_away {freshId : String} {response : Response}
    (answers : s.Answers w.shelf r freshId response)
    (away : response.status ∈ [400, 401, 404, 405, 413]) : s.serve w (.arrive r) = w := by
  cases answers with
  | @atOnce response shelf accepted =>
    have acceptance := s.accept_cases s.dispatcher w.shelf r
    rw [serve, accepted]
    rw [accepted] at acceptance
    change response.status ∈ [400, 401, 404, 405, 413] at away
    cases acceptance with
    | kept => rfl
    | dropped =>
      rw [temporaryRedirect_name] at away
      simp at away
    | cleared =>
      revert away
      simp [Response.json, Response.ofJsonText]
  | byRun accepted replied =>
    rcases reply_status replied with ok | failed
    · simp [ok] at away
    · simp [failed] at away

theorem serveAll_concat (s : Server) (w : Scene) (events : List Event) (e : Event) :
    s.serveAll w (events ++ [e]) = s.serve (s.serveAll w events) e :=
  List.foldl_concat ..

theorem StartedBy.concat {events : List Event} {id : Nat} {o : Operation}
    (started : s.StartedBy w events id r o) (e : Event) :
    s.StartedBy w (events ++ [e]) id r o := by
  obtain ⟨before, after, rfl, number, asked⟩ := started
  exact ⟨before, after ++ [e], by simp, number, asked⟩

/-- Every run was started by some request. -/
theorem startedBy_of_run (noRuns : w.runs = []) {events : List Event} {j : Nat} {q : Traffic.Run}
    (found : (s.serveAll w events).runs[j]? = some q) :
    ∃ r, s.StartedBy w events j r q.operation ∧ q.body = r.body := by
  induction events using List.reverseRecOn generalizing q with
  | nil =>
    rw [serveAll_nil, noRuns] at found
    cases found
  | append_singleton events e ih =>
    rw [serveAll_concat] at found
    rcases (s.serve_effect _ e).runs found with
      ⟨q', old, later⟩ | ⟨r, rfl, number, posts, fits, body⟩
    · obtain ⟨r, started, body⟩ := ih old
      rw [later.operation, later.body]
      exact ⟨r, started.concat e, body⟩
    · exact ⟨r, ⟨events, [], rfl, number.symm, posts, fits⟩, body⟩

/-- Whatever the shelf is at first, and whatever clients do at once, the denied names stay. A POST
to an operation starts a run of it, if the body keeps to the limits. A call is started by nothing
else, and is the call of that operation, which is not denied, and of the body of the request. An
entry that appears is stored by a run that such a request has started, under the key of its operation
and body. An entry goes away exactly when a request arrives that has just this one dropped, of an
operation that is not denied, or that empties the cache. Every other request leaves everything as it
was, and so does every request that is answered with 400, 401, 404, 405 or 413. -/
theorem only_intended_requests_act (s : Server) (shelf : Shelf) (clock : Instant) (time : Nat)
    (events : List Event) (e : Event) :
    let opening : Scene := ⟨shelf, clock, time, []⟩
    let w := s.serveAll opening events
    let w' := s.serve w e
    w'.shelf.denied = w.shelf.denied ∧
    (∀ (r : Request) (o : Operation), e = .arrive r → r.Posts ("/" ++ o.name) → s.Fits r →
      w' = w.start s.dispatcher o r.body .cached (s.context w.time r)) ∧
    (w'.calls ≠ w.calls → ∃ r o request call, e = .arrive r ∧ r.Posts ("/" ++ o.name) ∧
      w.shelf.prohibits o = false ∧ o.parse s.dispatcher.codec.layouts r.body = .ok request ∧
      s.dispatcher.codec.encode o.name request = .ok call ∧ w'.calls = w.calls ++ [call]) ∧
    (∀ k entry, w'.shelf.cache.get? k = some entry → w.shelf.cache.get? k ≠ some entry →
      ∃ id arrival r o, e = .look id arrival ∧ s.StartedBy opening events id r o ∧
        k = o.cacheKey r.body) ∧
    (∀ k, w.shelf.cache.contains k = true →
      (w'.shelf.cache.contains k = false ↔ ∃ r, e = .arrive r ∧ s.Removes w.shelf r k)) ∧
    (∀ r, e = .arrive r → (∀ o : Operation, ¬ r.Posts ("/" ++ o.name)) →
      (∀ k, ¬ s.Removes w.shelf r k) → w' = w) ∧
    ∀ r freshId response, e = .arrive r → s.Answers w.shelf r freshId response →
      response.status ∈ [400, 401, 404, 405, 413] → w' = w := by
  intro opening w w'
  have effect : Effect s w e w' := s.serve_effect w e
  refine ⟨effect.denied, ?starts, effect.calls, ?stores, ?removes, ?other, ?away⟩
  case starts =>
    rintro r o rfl posts fits
    exact serve_operation posts fits w
  case stores =>
    intro k entry stored new
    obtain ⟨id, arrival, q, rfl, found, rfl⟩ := effect.stores stored new
    rcases effect.runs found with ⟨q', old, later⟩ | ⟨r, arrives, _⟩
    · obtain ⟨r, started, body⟩ := startedBy_of_run rfl old
      refine ⟨id, arrival, r, q'.operation, rfl, started, ?_⟩
      rw [later.operation, later.body, body]
    · cases arrives
  case removes =>
    intro k held
    constructor
    · exact effect.removes held
    · rintro ⟨r, rfl, removes⟩
      exact serve_removes removes
  case other =>
    rintro r rfl asksNothing removesNothing
    exact effect.other asksNothing removesNothing
  case away =>
    rintro r freshId response rfl answers away
    exact serve_turned_away answers away

/-- A client asks and is answered, another has the result dropped under an escaped name and with a
body of its own, and a third does not get in. -/
theorem only_intended_requests_act_biCurBacket :
    let s : Server := {}
    let opening : Scene := ⟨s.shelf, 0, 0, []⟩
    let ask : Request := ⟨.post, "/BiCurBacketXML", [], []⟩
    let drop : Request := ⟨.post, "/GetMethodDataWithoutCache/BiCurBacket%58ML", [], [0x78]⟩
    let wrong : Request := ⟨.get, "/BiCurBacketXML", [], []⟩
    let look : Event := .look 0 (some { answer := .ok (Utf8.bytesOf "<BiCurBacket/>") })
    let k := Operation.biCurBacket.cacheKey []
    (s.serveAll opening [.arrive ask]).shelf.cache.contains k = false ∧
    (s.serveAll opening [.arrive ask, look]).shelf.cache.contains k = true ∧
    (∃ r o, s.StartedBy opening [.arrive ask] 0 r o ∧ k = o.cacheKey r.body) ∧
    (s.serveAll opening [.arrive ask, look, .arrive drop]).shelf.cache.contains k = false ∧
    s.serveAll opening [.arrive ask, look, .arrive wrong] =
      s.serveAll opening [.arrive ask, look] := by
  intro s opening ask drop wrong look k
  have posts : ask.Posts ("/" ++ Operation.biCurBacket.name) := ⟨rfl, by decide +kernel⟩
  have fits : s.Fits ask := fits_of_announced nofun (by decide) (by decide)
  have asks : drop.AsksToDrop .biCurBacket :=
    ⟨rfl, "BiCurBacket%58ML".toList, by decide +kernel, by decide, by decide +kernel⟩
  have fits' : s.Fits drop := fits_of_announced nofun (by decide) (by decide)
  have called : s.serveAll opening [.arrive ask] = ⟨s.shelf, 0, 0,
      [.ofBegun .biCurBacket [] .cached (s.context 0 ask) 0
        (.calling (s.dispatcher.codec.bareCall .biCurBacket))]⟩ := by
    rw [serveAll_cons, serveAll_nil]
    exact serve_bare posts fits (by decide +kernel) (by decide +kernel) (by decide +kernel) rfl
      (by decide +kernel)
  have answered : s.serveAll opening [.arrive ask, look] =
      s.serve (s.serveAll opening [.arrive ask]) look :=
    s.serveAll_concat opening [.arrive ask] look
  have dropped : s.serveAll opening [.arrive ask, look, .arrive drop] =
      s.serve (s.serveAll opening [.arrive ask, look]) (.arrive drop) :=
    s.serveAll_concat opening [.arrive ask, look] (.arrive drop)
  have absent : (s.serveAll opening [.arrive ask]).shelf.cache.contains k = false := by
    rw [called]
    decide +kernel
  have held : (s.serveAll opening [.arrive ask, look]).shelf.cache.contains k = true := by
    rw [answered, called]
    decide +kernel
  have allowed : (s.serveAll opening [.arrive ask, look]).shelf.prohibits .biCurBacket = false := by
    rw [answered, called]
    decide +kernel
  obtain ⟨_, _, _, stores, _⟩ := only_intended_requests_act s s.shelf 0 0 [.arrive ask] look
  obtain ⟨_, _, _, _, removes, _⟩ :=
    only_intended_requests_act s s.shelf 0 0 [.arrive ask, look] (.arrive drop)
  obtain ⟨_, _, _, _, _, other, _⟩ :=
    only_intended_requests_act s s.shelf 0 0 [.arrive ask, look] (.arrive wrong)
  refine ⟨absent, held, ?started, ?gone, ?kept⟩
  case started =>
    obtain ⟨e, entry⟩ := Option.isSome_iff_exists.mp held
    rw [answered] at entry
    have new : (s.serveAll opening [.arrive ask]).shelf.cache.get? k ≠ some e := by
      intro old
      rw [Cache.contains, old] at absent
      cases absent
    obtain ⟨id, arrival, r, o, looked, started, own⟩ := stores k e entry new
    obtain ⟨rfl, -⟩ := Event.look.inj looked
    exact ⟨r, o, started, own⟩
  case gone =>
    rw [dropped]
    exact (removes k held).mpr ⟨drop, rfl, .dropped asks fits' allowed⟩
  case kept =>
    refine (s.serveAll_concat opening [.arrive ask, look] (.arrive wrong)).trans
      (other wrong rfl (fun o posts => ?_) (fun k removes => ?_))
    · cases posts.method
    · cases removes with
      | dropped asks => cases asks.method
      | cleared clears => cases clears.method

end Http.Server

end SoapGateway
