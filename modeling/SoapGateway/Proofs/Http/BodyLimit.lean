import SoapGateway.Proofs.Http.Effects
import SoapGateway.Settings.Rule

/-!
# The limit on bodies

A request to an operation is refused for its length exactly if its body, or the length that it
announces, is beyond the configured limit, or if the body is beyond what the server reads at most.
That last bound is not configured, so a higher limit is without effect.
-/
namespace SoapGateway.Http

open Traffic (Scene)

/-- A request to one of the two paths of an operation. -/
def Request.Addresses (r : Request) (o : Operation) : Prop :=
  r.Posts ("/" ++ o.name) ∨ r.AsksToDrop o

namespace Server

variable {s : Server} {r : Request} {o : Operation} {w : Scene}

/-- A request that is answered with 413 and changes nothing. -/
structure Refuses (s : Server) (w : Scene) (r : Request) : Prop where
  answered : ∃ text, s.accept s.dispatcher w.shelf r = .answered (.plain 413 text) w.shelf
  status : ∀ freshId response, s.Answers w.shelf r freshId response → response.status = 413
  unchanged : s.serve w (.arrive r) = w

/-- A request for which the dispatcher runs the operation on the body, or drops what it has for the
body, and which is not answered with 413. -/
structure Takes (s : Server) (w : Scene) (r : Request) (o : Operation) : Prop where
  runs : r.Posts ("/" ++ o.name) →
    s.accept s.dispatcher w.shelf r = .running o ∧
    s.serve w (.arrive r) = w.start s.dispatcher o r.body .cached (s.context w.time r)
  drops : r.AsksToDrop o →
    s.accept s.dispatcher w.shelf r =
      .answered (.temporaryRedirect ("/" ++ o.name)) (Dispatcher.forgotten w.shelf o r.body) ∧
    s.serve w (.arrive r) = { w with shelf := Dispatcher.forgotten w.shelf o r.body }
  status : ∀ freshId response, s.Answers w.shelf r freshId response → response.status ≠ 413

/-- The announced length of a request, if it has one, is between its length and the limit. -/
def AnnouncesSoundly (s : Server) (r : Request) : Prop :=
  ∀ n, r.announcedLength? = some n →
    r.body.length ≤ n ∧ n ≤ s.settings.security.maxBodySize

theorem fits_iff :
    s.Fits r ↔ r.body.length ≤ s.settings.security.maxBodySize ∧ s.AnnouncesSoundly r ∧
      r.body.length ≤ bufferLimit := by
  unfold Fits AnnouncesSoundly bodyLimit?
  cases length : r.announcedLength? with
  | none => simp
  | some n =>
    dsimp only
    by_cases beyond : s.settings.security.maxBodySize < n
    · rw [if_pos beyond]
      refine iff_of_false (fun ⟨_, fits, _⟩ => nomatch fits) fun ⟨_, sound, _⟩ => ?_
      exact Nat.not_lt.mpr (sound n rfl).2 beyond
    · rw [if_neg beyond]
      constructor
      · rintro ⟨_, ⟨⟩, within, read⟩
        obtain ⟨short, announced⟩ := Nat.le_min.mp within
        refine ⟨short, ?_, read⟩
        rintro _ ⟨⟩
        exact ⟨announced, Nat.not_lt.mp beyond⟩
      · rintro ⟨short, sound, read⟩
        exact ⟨_, rfl, Nat.le_min.mpr ⟨short, (sound n rfl).1⟩, read⟩

/-- A request to an operation that does not fit is refused. -/
theorem accept_unfit (addresses : r.Addresses o) (unfit : ¬ s.Fits r) (d : Dispatcher)
    (shelf : Shelf) : ∃ text, s.accept d shelf r = .answered (.plain 413 text) shelf := by
  rw [accept]
  cases known : s.bodyLimit? r with
  | none => exact ⟨_, rfl⟩
  | some limit =>
    have long : min limit bufferLimit < r.body.length := by
      by_contra within
      exact unfit (fits_of_within known within)
    refine ⟨"Failed to buffer the request body: length limit exceeded", ?_⟩
    rcases addresses with posts | asks
    · have route : s.route? r = some (.operation o) := by
        rw [route?, posts.target, Route.find?_operation]
      dsimp only
      rw [route]
      simp [Route.isAdmin, Route.accepts, posts.method, perform, long, tooLong]
    · obtain ⟨segment, target, single, decoded⟩ := asks.target
      have route : s.route? r = some (.withoutCache segment) := by
        rw [route?, target, Route.find?_segment _ (nonempty_of_segmentText? decoded) single]
      dsimp only
      rw [route]
      simp [Route.isAdmin, Route.accepts, asks.method, perform, forget, decoded, long, tooLong]

theorem refuses_of_unfit (addresses : r.Addresses o) (unfit : ¬ s.Fits r) (w : Scene) :
    s.Refuses w r := by
  obtain ⟨text, refused⟩ := accept_unfit addresses unfit s.dispatcher w.shelf
  refine ⟨⟨text, refused⟩, fun freshId response answers => ?_, by rw [serve, refused]⟩
  cases answers with
  | atOnce accepted =>
    rw [refused] at accepted
    cases accepted
    rfl
  | byRun accepted =>
    rw [refused] at accepted
    cases accepted

theorem takes_of_fits (addresses : r.Addresses o) (fits : s.Fits r) (w : Scene) :
    s.Takes w r o := by
  refine ⟨fun posts => ⟨accept_operation posts fits _ _, serve_operation posts fits w⟩,
    fun asks => ⟨accept_drop asks fits _ _, by rw [serve, accept_drop asks fits]⟩,
    fun freshId response answers => ?_⟩
  cases answers with
  | atOnce accepted =>
    rcases addresses with posts | asks
    · rw [accept_operation posts fits] at accepted
      cases accepted
    · rw [accept_drop asks fits, temporaryRedirect_name] at accepted
      cases accepted
      simp [complete]
  | byRun accepted replied =>
    rcases reply_status replied with ok | failed
    · simp [ok]
    · simp [failed]

/-- A body that is longer than the configured limit is refused, on either path of any operation. One
that is not is taken as it is, unless it is longer than what the server reads at most: that bound
holds whatever is configured. Requests that announce a length which is none of a body within the
limit are refused for that. -/
theorem body_limit_effective (addresses : r.Addresses o) (w : Scene) :
    (s.settings.security.maxBodySize < r.body.length → s.Refuses w r) ∧
    (r.body.length ≤ s.settings.security.maxBodySize → s.AnnouncesSoundly r →
      (r.body.length ≤ bufferLimit → s.Takes w r o) ∧
      (bufferLimit < r.body.length → s.Refuses w r)) ∧
    (¬ s.AnnouncesSoundly r → s.Refuses w r) := by
  refine ⟨fun long => ?_, fun short sound => ⟨fun read => ?_, fun unread => ?_⟩, fun unsound => ?_⟩
  · exact refuses_of_unfit addresses (fun fits => by have := (fits_iff.mp fits).1; omega) w
  · exact takes_of_fits addresses (fits_iff.mpr ⟨short, sound, read⟩) w
  · exact refuses_of_unfit addresses (fun fits => by have := (fits_iff.mp fits).2.2; omega) w
  · exact refuses_of_unfit addresses (fun fits => unsound (fits_iff.mp fits).2.1) w

/-- With a limit of three octets three are taken and four refused. -/
theorem body_limit_effective_three :
    let s : Server := { settings := { security := { maxBodySize := 3 } } }
    let ask (body : List UInt8) : Request := ⟨.post, "/BiCurBacketXML", [], body⟩
    let drop (body : List UInt8) : Request :=
      ⟨.post, "/GetMethodDataWithoutCache/BiCurBacketXML", [], body⟩
    s.Takes {} (ask [0x7B, 0x7D, 0x20]) .biCurBacket ∧
      s.Refuses {} (drop [0x7B, 0x7D, 0x20, 0x20]) := by
  intro s ask drop
  have path : pathOf "/BiCurBacketXML" = ("/" ++ Operation.biCurBacket.name).toList := by
    decide +kernel
  have dropPath : pathOf "/GetMethodDataWithoutCache/BiCurBacketXML" =
      (Route.withoutCachePath ++ Operation.biCurBacket.name).toList := by
    decide +kernel
  have asks (body : List UInt8) : (ask body).Addresses .biCurBacket := .inl ⟨rfl, path⟩
  have drops (body : List UInt8) : (drop body).Addresses .biCurBacket :=
    .inr (Request.Posts.asksToDrop ⟨rfl, dropPath⟩)
  obtain ⟨_, taken, _⟩ := body_limit_effective (s := s) (asks [0x7B, 0x7D, 0x20]) {}
  obtain ⟨refused, _⟩ := body_limit_effective (s := s) (drops [0x7B, 0x7D, 0x20, 0x20]) {}
  exact ⟨(taken (by decide) nofun).1 (by decide), refused (by decide)⟩

/-- A limit of three million octets is accepted, and a body of two mebibytes and an octet is
refused with it. -/
theorem body_limit_ignored :
    let s : Server := { settings := { security := { maxBodySize := 3000000 } } }
    let r : Request := ⟨.post, "/BiCurBacketXML", [], List.replicate 2097153 0x20⟩
    s.settings.violations = [] ∧ r.Posts ("/" ++ Operation.biCurBacket.name) ∧
      r.body.length ≤ s.settings.security.maxBodySize ∧ r.announcedLength? = none ∧
      ∀ w : Scene, ∃ text,
        s.accept s.dispatcher w.shelf r = .answered (.plain 413 text) w.shelf := by
  intro s r
  have posts : r.Posts ("/" ++ Operation.biCurBacket.name) := ⟨rfl, by decide +kernel⟩
  have size : r.body.length = 2097153 := List.length_replicate
  refine ⟨by decide +kernel, posts, by rw [size]; decide, by decide +kernel, fun w => ?_⟩
  refine accept_unfit (.inl posts) (fun fits => ?_) s.dispatcher w.shelf
  have read := (fits_iff.mp fits).2.2
  rw [size] at read
  exact absurd read (by decide)

end Server

end SoapGateway.Http
