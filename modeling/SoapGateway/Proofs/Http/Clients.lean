import SoapGateway.Http.Clients
import SoapGateway.Proofs.Http.Acceptance
import SoapGateway.Proofs.Traffic.AfterDrop

/-!
# Many clients

What many clients do at once is traffic, so all that holds of traffic holds of them: also of a
client that has an entry dropped and then asks again.
-/
namespace SoapGateway.Http.Server

open Calendar (Instant)
open Traffic (Scene EndsAfter Fetches Honest)

variable {s : Server} {r : Request} {o : Operation}

/-- What an event can do to a scene. -/
inductive Effect (s : Server) (w : Scene) : Event → Scene → Prop
  | kept (r : Request) : Effect s w (.arrive r) w
  | dropped {r : Request} {o : Operation} (asks : r.AsksToDrop o) (fits : s.Fits r)
      (allowed : w.shelf.prohibits o = false) :
    Effect s w (.arrive r) { w with shelf := (w.shelf.invalidate o r.body).2 }
  | cleared {r : Request} (clears : s.Clears r) :
    Effect s w (.arrive r) { w with shelf := { w.shelf with cache := w.shelf.cache.clear.2 } }
  | running {r : Request} {o : Operation} (posts : r.Posts ("/" ++ o.name)) (fits : s.Fits r) :
    Effect s w (.arrive r) (w.start s.dispatcher o r.body .cached (s.context w.time r))
  | look (id : Nat) (arrival : Option Traffic.Arrival) :
    Effect s w (.look id arrival) (w.poll id arrival)
  | leave (id : Nat) : Effect s w (.leave id) (w.cancel id)
  | wait (ms : Nat) : Effect s w (.wait ms) { w with time := w.time + ms }
  | setClock (t : Instant) : Effect s w (.setClock t) { w with clock := t }

theorem serve_effect (s : Server) (w : Scene) (e : Event) : Effect s w e (s.serve w e) := by
  cases e with
  | arrive r =>
    have acceptance := s.accept_cases s.dispatcher w.shelf r
    rw [serve]
    generalize s.accept s.dispatcher w.shelf r = accepted at acceptance
    cases acceptance with
    | kept => exact .kept r
    | dropped asks fits allowed => exact .dropped asks fits allowed
    | cleared clears => exact .cleared clears
    | running posts fits => exact .running posts fits
  | look id arrival => exact .look id arrival
  | leave id => exact .leave id
  | wait ms => exact .wait ms
  | setClock t => exact .setClock t

/-- What clients do is traffic. -/
theorem Effect.plays {w w' : Scene} {e : Event} (effect : Effect s w e w') :
    ∃ acts, w' = w.play s.dispatcher acts := by
  cases effect with
  | kept => exact ⟨[], rfl⟩
  | @dropped r o => exact ⟨[.invalidate o r.body], rfl⟩
  | cleared => exact ⟨[.clear], rfl⟩
  | @running r o => exact ⟨[.start o r.body .cached (s.context w.time r)], rfl⟩
  | look id arrival => exact ⟨[.poll id arrival], rfl⟩
  | leave id => exact ⟨[.cancel id], rfl⟩
  | wait ms => exact ⟨[.wait ms], rfl⟩
  | setClock t => exact ⟨[.setClock t], rfl⟩

theorem serveAll_nil (s : Server) (w : Scene) : s.serveAll w [] = w := rfl

theorem serveAll_cons (s : Server) (w : Scene) (e : Event) (events : List Event) :
    s.serveAll w (e :: events) = s.serveAll (s.serve w e) events := rfl

theorem serveAll_plays (s : Server) (w : Scene) (events : List Event) :
    ∃ acts, s.serveAll w events = w.play s.dispatcher acts := by
  induction events generalizing w with
  | nil => exact ⟨[], rfl⟩
  | cons e events ih =>
    obtain ⟨first, one⟩ := (s.serve_effect w e).plays
    obtain ⟨rest, all⟩ := ih (s.serve w e)
    refine ⟨first ++ rest, ?_⟩
    rw [serveAll_cons, Scene.play_append, ← one, ← all]

/-- What holds of all runs of traffic holds of those that clients start. -/
theorem honest_serveAll (s : Server) (clock : Instant) (time : Nat) (events : List Event) :
    ∀ q ∈ (s.serveAll (s.opening clock time) events).runs, Honest s.dispatcher q := by
  obtain ⟨acts, play⟩ := s.serveAll_plays (s.opening clock time) events
  rw [play]
  exact Scene.play_each (Traffic.lasting_honest s.dispatcher) (fun q member => by cases member) acts

theorem serve_operation (posts : r.Posts ("/" ++ o.name)) (fits : s.Fits r) (w : Scene) :
    s.serve w (.arrive r) = w.start s.dispatcher o r.body .cached (s.context w.time r) := by
  rw [serve, accept_operation posts fits]

/-- A request that asks for nothing in particular, and finds nothing, starts the bare call of its
operation. -/
theorem serve_bare {w : Scene} (posts : r.Posts ("/" ++ o.name)) (fits : s.Fits r)
    (live : (s.context w.time r).isExpired w.time = false) (allowed : w.shelf.prohibits o = false)
    (parsed : o.parse s.dispatcher.codec.layouts r.body = .ok .empty)
    (missed : s.dispatcher.lookup w.shelf w.clock o r.body = none)
    (free : Text.occursIn Envelope.slotToken.toList
      (Xml.FlatElement.render ⟨o.name, s.dispatcher.codec.xmlns, []⟩) = false) :
    s.serve w (.arrive r) = { w with
      runs := w.runs ++ [.ofBegun o r.body .cached (s.context w.time r) w.clock
        (.calling (s.dispatcher.codec.bareCall o))] } := by
  rw [serve_operation posts fits]
  apply Scene.start_eq
  rw [live]
  exact Dispatcher.begin_bare allowed parsed missed free

theorem serve_withoutCache (posts : r.Posts (Route.withoutCachePath ++ o.name)) (fits : s.Fits r)
    (w : Scene) :
    s.serve w (.arrive r) = { w with shelf := Dispatcher.forgotten w.shelf o r.body } := by
  rw [serve, accept_withoutCache posts fits]

/-- A client has the result of an operation and a body dropped, is sent to the operation, and asks
it with the same body, while any other clients do what they like. Whatever payload it then receives
is what its own call or that of another client answered, which was started after the drop or was
still under way at the drop. -/
theorem reply_after_drop {clock : Instant} {time : Nat} {before between after : List Event}
    {first second : Request} (asks : first.Posts (Route.withoutCachePath ++ o.name))
    (fits : s.Fits first) (follows : second.Posts ("/" ++ o.name)) (fits' : s.Fits second)
    (same : second.body = first.body)
    (permitted : (s.serveAll (s.opening clock time) before).shelf.prohibits o = false) :
    let w₀ := s.serveAll (s.opening clock time) before
    let w₁ := s.serve w₀ (.arrive first)
    let w₂ := s.serveAll w₁ between
    let w := s.serveAll (s.serve w₂ (.arrive second)) after
    s.accept s.dispatcher w₀.shelf first =
      .answered (.temporaryRedirect ("/" ++ o.name)) w₁.shelf ∧
    w₁.shelf.cache.get? (o.cacheKey first.body) = none ∧
    ∃ run, w.runs[w₂.runs.length]? = some run ∧ run.operation = o ∧ run.body = first.body ∧
      ∀ id response, s.reply? id second run = some response →
        (∃ f : Failure, response = s.complete id second (.ofFailure f)) ∨
        ∃ f : Fetched run.operation, response =
            s.complete id second (.fetched f.payload.payload f.createdAt f.fromCache) ∧
          ∃ j q, w.runs[j]? = some q ∧
            Fetches s.dispatcher q run.operation run.body f.payload ∧ EndsAfter w₁ j := by
  intro w₀ w₁ w₂ w
  have dropped : w₁ = { w₀ with shelf := Dispatcher.forgotten w₀.shelf o first.body } :=
    serve_withoutCache asks fits w₀
  have started : s.serve w₂ (.arrive second) =
      w₂.start s.dispatcher o first.body .cached (s.context w₂.time second) := by
    rw [serve_operation follows fits', same]
  have absent : w₁.shelf.cache.get? (o.cacheKey first.body) = none := by
    rw [dropped, Dispatcher.forgotten_of_allowed permitted, Dispatcher.swept,
      Shelf.invalidate_cache, Cache.get?_erase, if_pos rfl]
  have honest : ∀ q ∈ w₁.runs, Honest s.dispatcher q := by
    rw [dropped]
    exact s.honest_serveAll clock time before
  obtain ⟨acts, meanwhile⟩ := s.serveAll_plays w₁ between
  obtain ⟨later, rest⟩ := s.serveAll_plays (s.serve w₂ (.arrive second)) after
  have whole : w = (w₂.start s.dispatcher o first.body .cached
      (s.context w₂.time second)).play s.dispatcher later := by
    rw [← started]
    exact rest
  have there := Scene.start_found s.dispatcher w₂ o first.body .cached (s.context w₂.time second)
  obtain ⟨run, found, goesOn⟩ := Scene.play_carries s.dispatcher _ later there
  have known : w.runs[w₂.runs.length]? = some run := by
    rw [whole]
    exact found
  refine ⟨?redirected, absent, run, known, ?sameOperation, ?sameBody, ?answer⟩
  case redirected => rw [accept_withoutCache asks fits, dropped]
  case sameOperation => rw [goesOn.operation, Traffic.Run.ofBegun_operation]
  case sameBody => rw [goesOn.body, Traffic.Run.ofBegun_body]
  case answer =>
    intro id response replied
    obtain ⟨⟨now, result⟩, ended, rfl⟩ := Option.map_eq_some_iff.mp replied
    cases result with
    | error f => exact .inl ⟨f, rfl⟩
    | ok f =>
      have origin := Traffic.fetched_after honest absent meanwhile found ended
      rw [← whole] at origin
      exact .inr ⟨f, rfl, origin⟩

/-- A client alone is answered by its own call. -/
theorem reply_after_drop_biCurBacket :
    let s : Server := {}
    let first : Request := ⟨.post, "/GetMethodDataWithoutCache/BiCurBacketXML", [], []⟩
    let second : Request := ⟨.post, "/BiCurBacketXML", [], []⟩
    let w := s.serveAll (s.serve (s.serve (s.opening 0 0) (.arrive first)) (.arrive second))
      [.look 0 (some { answer := .ok (Utf8.bytesOf "<BiCurBacket/>") })]
    ∃ (run : Traffic.Run) (f : Fetched run.operation) (j : Nat) (q : Traffic.Run),
      w.runs[0]? = some run ∧ s.reply? "a" second run =
        some (s.complete "a" second (.fetched f.payload.payload f.createdAt f.fromCache)) ∧
      w.runs[j]? = some q ∧ Fetches s.dispatcher q run.operation run.body f.payload := by
  intro s first second
  have asks : first.Posts (Route.withoutCachePath ++ Operation.biCurBacket.name) :=
    ⟨rfl, by decide +kernel⟩
  have follows : second.Posts ("/" ++ Operation.biCurBacket.name) := ⟨rfl, by decide +kernel⟩
  have fits : s.Fits first := fits_of_announced nofun (by decide) (by decide)
  have fits' : s.Fits second := fits_of_announced nofun (by decide) (by decide)
  have permitted : (s.opening 0 0).shelf.prohibits .biCurBacket = false := by decide +kernel
  have nothing : Dispatcher.forgotten s.shelf .biCurBacket [] = s.shelf := by decide +kernel
  have dropped : s.serve (s.opening 0 0) (.arrive first) = s.opening 0 0 := by
    have served := serve_withoutCache asks fits (s.opening 0 0)
    rw [served]
    exact congrArg (Scene.mk · 0 0 []) nothing
  have called : s.serve (s.opening 0 0) (.arrive second) = ⟨s.shelf, 0, 0,
      [.ofBegun .biCurBacket [] .cached (s.context 0 second) 0
        (.calling (s.dispatcher.codec.bareCall .biCurBacket))]⟩ :=
    serve_bare follows fits' (by decide +kernel) permitted (by decide +kernel) rfl
      (by decide +kernel)
  obtain ⟨_, _, run, found, _, _, replies⟩ :=
    @reply_after_drop s .biCurBacket 0 0 [] []
      [.look 0 (some { answer := .ok (Utf8.bytesOf "<BiCurBacket/>") })] first second
      asks fits follows fits' rfl permitted
  have fetched : (s.serveAll (s.serve (s.serve (s.opening 0 0) (.arrive first)) (.arrive second))
      [.look 0 (some { answer := .ok (Utf8.bytesOf "<BiCurBacket/>") })]).runs[0]?.any
        (fun r => r.ending.isSome && !r.isHit && !r.isFailed) = true := by
    rw [dropped, called]
    decide +kernel
  have first_run : (s.serve (s.opening 0 0) (.arrive first)).runs.length = 0 := by
    rw [dropped]
    rfl
  rw [serveAll_nil, serveAll_nil, first_run] at found
  rw [found, Option.any_some] at fetched
  simp only [Bool.and_eq_true, Bool.not_eq_true'] at fetched
  obtain ⟨now, g, ended, _⟩ := Traffic.Run.fetched_cases fetched.1.1 fetched.1.2 fetched.2
  have replied : s.reply? "a" second run =
      some (s.complete "a" second (.fetched g.payload.payload g.createdAt g.fromCache)) := by
    rw [reply?, ended]
    rfl
  rcases replies "a" _ replied with ⟨f, failed⟩ | ⟨f, same, j, q, there, fetches, _⟩
  · have status : 200 = 500 := congrArg Response.status failed
    cases status
  · exact ⟨run, f, j, q, found, replied.trans (congrArg some same), there, fetches⟩

/-- Two clients ask at once, and one is answered. While the call of the other is under way, a third
has the entry dropped, and before it asks again that call is answered too. What it receives is that
answer, and no call was started after the drop. -/
theorem reply_after_drop_overtaken :
    let s : Server := {}
    let first : Request := ⟨.post, "/GetMethodDataWithoutCache/BiCurBacketXML", [], []⟩
    let second : Request := ⟨.post, "/BiCurBacketXML", [], []⟩
    let arrival : Traffic.Arrival := { answer := .ok (Utf8.bytesOf "<BiCurBacket/>") }
    let w₀ := s.serve (s.serve (s.serve (s.opening 0 0) (.arrive second)) (.arrive second))
      (.look 1 (some arrival))
    let w₁ := s.serve w₀ (.arrive first)
    let w₂ := s.serve w₁ (.look 0 (some arrival))
    let w := s.serve w₂ (.arrive second)
    first.Posts (Route.withoutCachePath ++ Operation.biCurBacket.name) ∧ s.Fits first ∧
    second.Posts ("/" ++ Operation.biCurBacket.name) ∧ s.Fits second ∧
    w₀.shelf.prohibits .biCurBacket = false ∧
    w₀.shelf.cache.contains (Operation.biCurBacket.cacheKey first.body) = true ∧
    w₁.shelf.cache.contains (Operation.biCurBacket.cacheKey first.body) = false ∧
    ∃ (run : Traffic.Run) (f : Fetched run.operation), w.runs[w₂.runs.length]? = some run ∧
      (∀ id, s.reply? id second run =
        some (s.complete id second (.fetched f.payload.payload f.createdAt f.fromCache))) ∧
      ∀ j q, w₁.runs.length ≤ j → w.runs[j]? = some q →
        ¬ Fetches s.dispatcher q run.operation run.body f.payload := by
  intro s first second arrival
  have asks : first.Posts (Route.withoutCachePath ++ Operation.biCurBacket.name) :=
    ⟨rfl, by decide +kernel⟩
  have follows : second.Posts ("/" ++ Operation.biCurBacket.name) := ⟨rfl, by decide +kernel⟩
  have fits : s.Fits first := fits_of_announced nofun (by decide) (by decide)
  have fits' : s.Fits second := fits_of_announced nofun (by decide) (by decide)
  let waiting : Traffic.Run := .ofBegun .biCurBacket [] .cached (s.context 0 second) 0
    (.calling (s.dispatcher.codec.bareCall .biCurBacket))
  have called (runs : List Traffic.Run) : s.serve ⟨s.shelf, 0, 0, runs⟩ (.arrive second) =
      ⟨s.shelf, 0, 0, runs ++ [waiting]⟩ := by
    have live : (s.context 0 second).isExpired 0 = false := by decide +kernel
    have allowed : s.shelf.prohibits .biCurBacket = false := by decide +kernel
    have parsed : Operation.biCurBacket.parse s.dispatcher.codec.layouts [] = .ok .empty := by
      decide +kernel
    exact serve_bare (w := ⟨s.shelf, 0, 0, runs⟩) follows fits' live allowed parsed rfl
      (by decide +kernel)
  let w₀ : Scene := s.serve ⟨s.shelf, 0, 0, [waiting, waiting]⟩ (.look 1 (some arrival))
  let w₁ : Scene := { w₀ with shelf := Dispatcher.forgotten w₀.shelf .biCurBacket [] }
  let w₂ : Scene := s.serve w₁ (.look 0 (some arrival))
  let w : Scene := w₂.start s.dispatcher .biCurBacket [] .cached (s.context w₂.time second)
  have under_way : s.serve (s.serve (s.opening 0 0) (.arrive second)) (.arrive second) =
      ⟨s.shelf, 0, 0, [waiting, waiting]⟩ := (congrArg (s.serve · _) (called [])).trans (called _)
  have dropped : s.serve w₀ (.arrive first) = w₁ := serve_withoutCache asks fits w₀
  have asked : s.serve w₂ (.arrive second) = w := serve_operation follows fits' w₂
  have before : w₁.runs.length = 2 := by decide +kernel
  have after : w₂.runs.length = 2 := by decide +kernel
  have hit : w.runs[2]?.any Traffic.Run.isHit = true := by decide +kernel
  have quiet : (w.runs.drop 2).all (·.call.isNone) = true := by decide +kernel
  obtain ⟨run, found, answered⟩ := (Option.any_eq_true _ _).mp hit
  obtain ⟨now, f, ended, _⟩ := Traffic.Run.isHit_cases answered
  rw [List.all_eq_true] at quiet
  dsimp only
  rw [under_way, dropped, asked, after]
  refine ⟨asks, fits, follows, fits', by decide +kernel, by decide +kernel, by decide +kernel,
    run, f, found, ?_, ?_⟩
  · intro id
    rw [reply?, ended]
    rfl
  · intro j q new there fetches
    have later : q ∈ w.runs.drop 2 := by
      rw [before] at new
      apply List.mem_of_getElem? (i := j - 2)
      rw [List.getElem?_drop, Nat.add_sub_of_le new]
      exact there
    obtain ⟨_, call, _, _, made⟩ := fetches.call
    have noCall := quiet q later
    rw [made] at noCall
    cases noCall

end SoapGateway.Http.Server
