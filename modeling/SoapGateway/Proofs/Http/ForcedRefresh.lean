import SoapGateway.Proofs.Http.Server

/-!
# Two ways to a forced refresh

A client that posts to the path for dropping a result is sent back to the operation, and posts there
again. What it is answered in the end, and what the gateway has done by then, is what a refresh by
the dispatcher comes to.
-/
namespace SoapGateway

namespace Dispatcher

/-- A refresh is an ordinary run on a shelf that has forgotten the entry. -/
theorem run_fresh (d : Dispatcher) (w : Session) (o : Operation) (body : List UInt8)
    (wait : SoapRequest → Awaited) :
    d.run w false o body .fresh wait =
      d.run { w with shelf := forgotten w.shelf o body } false o body .cached wait := by
  rw [run, run, begin_fresh]

end Dispatcher

namespace Stagecraft

/-- A rehearsed refresh is an ordinary run once the entry has been forgotten. -/
theorem play_fresh (w : Stagecraft) (o : Operation) (body : List UInt8) {c : Context}
    (live : c.isExpired w.time = false) :
    w.play [⟨o, body, .fresh, c, .waiting⟩] =
      { w with shelf := Dispatcher.forgotten w.shelf o body }.play
        [⟨o, body, .cached, c, .waiting⟩] := by
  have anew := play_single
    { w with shelf := Dispatcher.forgotten w.shelf o body } o body .cached live
  rw [play_single w o body .fresh live, anew, alone, Dispatcher.run_fresh]
  rfl

end Stagecraft

namespace Http.Server

variable {s : Server} {w : Stagecraft} {o : Operation} {r : Request}

theorem rehearse_withoutCache (posts : r.Posts (Route.withoutCachePath ++ o.name))
    (fits : s.Fits r) (id : String) :
    s.rehearse id w r =
      (s.complete id r (.temporaryRedirect ("/" ++ o.name)),
        { w with shelf := Dispatcher.forgotten w.shelf o r.body }) := by
  rw [rehearse, accept_withoutCache posts fits]

theorem rehearse_operation (posts : r.Posts ("/" ++ o.name)) (fits : s.Fits r)
    (live : (s.context w.time r).isExpired w.time = false) (id : String) :
    ∃ w' result, w.play [⟨o, r.body, .cached, s.context w.time r, .waiting⟩] = (w', [result]) ∧
      s.rehearse id w r = (s.complete id r (ofResult result), w') := by
  have played := Stagecraft.play_single w o r.body .cached live
  refine ⟨_, _, played, ?_⟩
  rw [rehearse, accept_operation posts fits]
  dsimp only
  rw [played]
  rfl

/-- Posting to the path that drops the result of an operation and then, as the answer says, to the
operation itself ends as a refresh does: with its answer, after the same calls, and with the same
cache, deny-list, clock and time. -/
theorem forced_refresh_agrees (s : Server) (w : Stagecraft) (o : Operation)
    {first second : Request} (id₁ id₂ : String)
    (asks : first.Posts (Route.withoutCachePath ++ o.name))
    (follows : second.Posts ("/" ++ o.name)) (same : second.body = first.body)
    (fits : s.Fits first) (fits' : s.Fits second)
    (live : (s.context w.time second).isExpired w.time = false) :
    let (redirect, w₁) := s.rehearse id₁ w first
    let (response, w₂) := s.rehearse id₂ w₁ second
    let (refreshed, results) :=
      w.play [⟨o, first.body, .fresh, s.context w.time second, .waiting⟩]
    redirect = s.complete id₁ first ⟨307, [Response.header "location" ("/" ++ o.name)], []⟩ ∧
      w₂ = refreshed ∧
      ∃ result, results = [result] ∧ response = s.complete id₂ second (ofResult result) := by
  rw [rehearse_withoutCache asks fits, temporaryRedirect_name]
  dsimp only
  obtain ⟨w', result, played, answered⟩ := rehearse_operation
    (w := { w with shelf := Dispatcher.forgotten w.shelf o first.body }) follows fits' live id₂
  rw [same] at played
  rw [answered, Stagecraft.play_fresh w o first.body live, played]
  exact ⟨rfl, rfl, result, rfl, rfl⟩

theorem forced_refresh_agrees_biCurBacket :
    let s : Server := {}
    let old : CacheEntry Stored := ⟨.foreign, 3⟩
    let w : Stagecraft := {
      dispatcher := s.dispatcher
      script := [{ delay := 20, answer := .ok (Utf8.bytesOf "<BiCurBacket/>") }]
      shelf := ⟨⟨1, [(Operation.biCurBacket.cacheKey [], old)]⟩, {}⟩
      clock := 5 }
    let first : Request := ⟨.post, "/GetMethodDataWithoutCache/BiCurBacketXML", [], [0x78]⟩
    let second : Request := ⟨.post, "/BiCurBacketXML?again", [], [0x78]⟩
    let (redirect, w₁) := s.rehearse "a" w first
    let (response, w₂) := s.rehearse "b" w₁ second
    let (refreshed, results) :=
      w.play [⟨.biCurBacket, [0x78], .fresh, s.context w.time second, .waiting⟩]
    redirect = s.complete "a" first ⟨307, [Response.header "location" "/BiCurBacketXML"], []⟩ ∧
      w₂ = refreshed ∧
      ∃ result, results = [result] ∧ response = s.complete "b" second (ofResult result) := by
  intro s old w first second
  have asks : first.Posts (Route.withoutCachePath ++ Operation.biCurBacket.name) :=
    ⟨rfl, by decide +kernel⟩
  have follows : second.Posts ("/" ++ Operation.biCurBacket.name) := ⟨rfl, by decide +kernel⟩
  have fits : s.Fits first := fits_of_announced nofun (by decide) (by decide)
  have fits' : s.Fits second := fits_of_announced nofun (by decide) (by decide)
  exact forced_refresh_agrees s w .biCurBacket "a" "b" asks follows rfl fits fits' (by decide)

end Http.Server

end SoapGateway
