import SoapGateway.Proofs.Response.Sanitize
import SoapGateway.Proofs.Traffic.LastWriter

/-!
# Cleaned payloads

A payload is cleaned once, where the answer to a call is read. Whatever is given out later and
whatever is kept comes from there, so to clean it again would change nothing.
-/
namespace SoapGateway.Traffic

open Calendar (Instant)

variable {d : Dispatcher}

theorem Fetches.sanitized {q : Run} {o : Operation} {body : List UInt8}
    {payload : Response o.descriptor.response} (fetches : Fetches d q o body payload) :
    payload.sanitize = payload := by
  obtain ⟨_, raw, _, _, cleaned⟩ := fetches.answer
  rw [cleaned, raw.sanitize_sanitize]

theorem Origin.sanitized {q : Run} {o : Operation} {body : List UInt8}
    {payload : Response o.descriptor.response} {createdAt : Instant}
    (origin : Origin d q o body payload createdAt) : payload.sanitize = payload := by
  obtain ⟨_, raw, _, _, cleaned⟩ := origin.answer
  rw [cleaned, raw.sanitize_sanitize]

/-- What a run returns is clean, whether it was fetched or found in the cache. -/
theorem payload_sanitized {w : Scene} (coherent : Coherent d w) {r : Run} (member : r ∈ w.runs)
    (honest : Honest d r) {now : Instant} {f : Fetched r.operation}
    (ended : r.ending = some (now, .ok f)) : f.payload.sanitize = f.payload := by
  cases cached : f.fromCache with
  | false => exact (honest.fetched ended cached).sanitized
  | true =>
    obtain ⟨i, found⟩ := List.mem_iff_getElem?.mp member
    obtain ⟨_, _, _, _, origin, _⟩ := coherent.explained found ended cached
    exact origin.sanitized

/-- What is in the cache is clean, unless it is no response. -/
theorem entry_sanitized {w : Scene} (coherent : Coherent d w) {key : CacheKey} {o : Operation}
    {payload : Response o.descriptor.response} {createdAt : Instant}
    (entry : w.shelf.cache.get? key = some ⟨.response o payload, createdAt⟩) :
    payload.sanitize = payload := by
  rcases coherent.traced entry with foreign | ⟨_, _, o', payload', _, response, _, origin⟩
  · cases foreign
  · cases response
    exact origin.sanitized

/-- To clean a response of any operation keeps its rows and their order and cleans every text of
every row, and there is no other response of which this holds. A text is cleaned of the characters
at its ends that are white space or control characters: it can be cut in one way only between such
characters, and the middle is what is left. To clean a response twice is to clean it once. So is to
clean what a run has returned, or what runs have left in the cache, whatever has happened since the
cache was empty. -/
theorem payloads_are_sanitized :
    (∀ (o : Operation) (r r' : Response o.descriptor.response), r' = r.sanitize ↔
      r'.cells = r.cells.map (List.map (Prod.map id Text.clean))) ∧
    (∀ t : String, ∃ start rest, ∀ start' middle rest',
      Text.Split (fun c => Text.isBlank c || Text.isControl c) t.toList start' middle rest' ↔
        start' = start ∧ middle = (Text.clean t).toList ∧ rest' = rest) ∧
    (∀ (o : Operation) (r : Response o.descriptor.response),
      r.sanitize.sanitize = r.sanitize) ∧
    ∀ (d : Dispatcher) (capacity : Nat) (denied : DenyList) (clock : Instant) (time : Nat)
      (acts : List Act) (w : Scene), Scene.play d (.initial capacity denied clock time) acts = w →
      (∀ r ∈ w.runs, ∀ (now : Instant) (f : Fetched r.operation), r.ending = some (now, .ok f) →
        f.payload.sanitize = f.payload) ∧
      ∀ (key : CacheKey) (o : Operation) (payload : Response o.descriptor.response)
        (createdAt : Instant), w.shelf.cache.get? key = some ⟨.response o payload, createdAt⟩ →
        payload.sanitize = payload := by
  refine ⟨fun o r r' => r.eq_sanitize_iff r', Text.clean_split, fun o r => r.sanitize_sanitize, ?_⟩
  intro d capacity denied clock time acts w played
  have coherent : Coherent d w := by
    rw [← played]
    exact (coherent_initial d capacity denied clock time).play acts
  refine ⟨fun r member now f ended => ?_, fun key o payload createdAt entry =>
    entry_sanitized coherent entry⟩
  obtain ⟨i, found⟩ := List.mem_iff_getElem?.mp member
  rw [← played] at found
  exact payload_sanitized coherent member (honest_play d capacity denied clock time acts found)
    ended

/-- A padded figure is given out clean, at first and then out of the cache. -/
theorem payloads_are_sanitized_biCurBacket :
    let d : Dispatcher := { ttl := 60000000 }
    let answer := Utf8.bytesOf "<BiCurBacket><BC><USD> 0.55&#133;&#7; </USD></BC></BiCurBacket>"
    let acts : List Act := [.start .biCurBacket [] .cached {},
      .poll 0 (some { answer := .ok answer }), .start .biCurBacket [] .cached {}]
    let payload : Response Operation.biCurBacket.descriptor.response :=
      .rows [⟨["", "0.55", ""], rfl⟩]
    (Scene.play d (.initial 0 {} 0 0) acts).shelf.cache.get? ⟨"BiCurBacketXML", ""⟩ =
        some ⟨.response .biCurBacket payload, 0⟩ ∧ payload.sanitize = payload ∧
      ∃ (r : Run) (now : Instant) (f : Fetched r.operation),
        (Scene.play d (.initial 0 {} 0 0) acts).runs[1]? = some r ∧
        r.ending = some (now, .ok f) ∧ f.fromCache = true ∧ f.payload.sanitize = f.payload := by
  intro d answer acts payload
  have begun : d.begin ⟨.empty 0, {}⟩ 0 false .biCurBacket [] .cached =
      (⟨.empty 0, {}⟩, .calling (d.codec.bareCall .biCurBacket)) :=
    Dispatcher.begin_bare (by decide +kernel) (by decide +kernel) rfl (by decide +kernel)
  have started : Scene.play d (.initial 0 {} 0 0) acts = Scene.play d _ (acts.drop 1) :=
    Scene.play_start (w := .initial 0 {} 0 0) begun
  have entry : (Scene.play d (.initial 0 {} 0 0) acts).shelf.cache.get? ⟨"BiCurBacketXML", ""⟩ =
      some ⟨.response .biCurBacket payload, 0⟩ := by
    rw [started]
    decide +kernel
  have hit : (Scene.play d (.initial 0 {} 0 0) acts).runs[1]?.any Run.isHit = true := by
    rw [started]
    decide +kernel
  obtain ⟨r, found, answered⟩ := (Option.any_eq_true _ _).mp hit
  obtain ⟨now, f, ended, cached⟩ := Run.isHit_cases answered
  obtain ⟨_, _, _, all⟩ := payloads_are_sanitized
  obtain ⟨returned, kept⟩ := all d 0 {} 0 0 acts _ rfl
  exact ⟨entry, kept _ _ payload 0 entry, r, now, f, found, ended, cached,
    returned r (List.mem_of_getElem? found) now f ended⟩

end SoapGateway.Traffic
