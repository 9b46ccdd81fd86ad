import SoapGateway.Proofs.Dispatcher
import SoapGateway.Rehearsal
import SoapGateway.Session

/-!
# Rehearsals of one run

A rehearsal of a single run is the whole run: the script and the context say how the wait for its
call ends, and the virtual time moves to that moment.
-/
namespace SoapGateway

open Calendar (Instant)

/-- A context that has not expired drives work to its end, or up to the deadline before it. -/
theorem Context.drive_cases {c : Context} {now : Nat} (live : c.isExpired now = false) (ms : Nat) :
    (∃ d, c.deadline = some d ∧ now < d ∧ d ≤ now + ms ∧ c.drive now ms = (false, d)) ∨
    ((∀ d, c.deadline = some d → now + ms < d) ∧ c.isExpired (now + ms) = false ∧
      c.drive now ms = (true, now + ms)) := by
  have active : c.cancelled = false := (Bool.or_eq_false_iff.mp live).1
  cases limit : c.deadline with
  | none =>
    refine .inr ⟨by simp, ?_, ?_⟩
    · simp [isExpired, isOver, active, limit]
    · simp [drive, live, limit]
  | some d =>
    have ahead : now < d := by simpa [isExpired, isOver, active, limit] using live
    by_cases reached : d ≤ now + ms
    · exact .inl ⟨d, rfl, ahead, reached, by simp [drive, live, limit, reached]⟩
    · refine .inr ⟨?_, ?_, ?_⟩
      · rintro _ ⟨rfl⟩
        exact Nat.not_le.mp reached
      · simp [isExpired, isOver, active, limit, Nat.not_le.mp reached]
      · simp [drive, live, limit, reached]

/-- The outcome of a call that ends as a reply says. -/
def Reply.outcome (reply : Reply) : CallOutcome :=
  match reply.answer with
  | .ok body => .answered body
  | .error fault => .failed fault

namespace Stagecraft

variable {w w' : Stagecraft} {r r' : Run} {o : Operation} {c : Context}

/-- The reply to the next call. -/
def nextReply (w : Stagecraft) : Reply := w.script.reply w.calls

/-- What comes of the wait for the next call. -/
def awaited (w : Stagecraft) (c : Context) : Awaited :=
  if (c.drive w.time w.nextReply.delay).1 then
    ⟨w.nextReply.outcome, w.nextReply.clock.apply w.clock, w.nextReply.cancels⟩
  else ⟨.expired, w.clock, true⟩

/-- The surroundings after a run that was alone. -/
def afterRun (w : Stagecraft) (c : Context) (served : Served o) : Stagecraft :=
  { w with
    shelf := served.after.shelf
    clock := served.after.clock
    time := if served.calls = [] then w.time else (c.drive w.time w.nextReply.delay).2
    calls := w.calls + served.calls.length
    sent := w.sent ++ served.calls
    cancelled := false }

theorem conclude_eq (w : Stagecraft) (r : Run) (outcome : CallOutcome) :
    w.conclude r outcome =
      let ended := Dispatcher.finish w.shelf w.clock (w.expired r) r.operation r.body outcome
      ({ w with shelf := ended.1 }, { r with stage := .done (Result.answer ended.2) }) := rfl

/-- The end of a call moves the clock and may cancel the run before it is finished. -/
theorem deliver_eq (w : Stagecraft) (r : Run) (reply : Reply) :
    w.deliver r reply =
      let expired := w.cancelled || reply.cancels || r.context.isExpired w.time
      let clock := reply.clock.apply w.clock
      let ended := Dispatcher.finish w.shelf clock expired r.operation r.body reply.outcome
      ({ w with shelf := ended.1, clock := clock, cancelled := w.cancelled || reply.cancels },
        { r with stage := .done (Result.answer ended.2) }) := rfl

/-- A run that makes its call, which ends at once. -/
theorem poll_call {body : List UInt8} {mode : Mode} {shelf : Shelf} {call : SoapRequest}
    (live : w.expired ⟨o, body, mode, c, .waiting⟩ = false)
    (begun : w.dispatcher.begin w.shelf w.clock false o body mode = (shelf, .calling call))
    (atOnce : w.nextReply.delay = 0) :
    w.poll ⟨o, body, mode, c, .waiting⟩ =
      { w with shelf := shelf, calls := w.calls + 1, sent := w.sent ++ [call] }.deliver
        ⟨o, body, mode, c, .waiting⟩ w.nextReply := by
  rw [nextReply] at atOnce
  simp [poll, live, begun, nextReply, atOnce]

/-- A run that makes its call and waits for its end. -/
theorem poll_call_later {body : List UInt8} {mode : Mode} {shelf : Shelf} {call : SoapRequest}
    (live : w.expired ⟨o, body, mode, c, .waiting⟩ = false)
    (begun : w.dispatcher.begin w.shelf w.clock false o body mode = (shelf, .calling call))
    (later : w.nextReply.delay ≠ 0) :
    w.poll ⟨o, body, mode, c, .waiting⟩ =
      ({ w with shelf := shelf, calls := w.calls + 1, sent := w.sent ++ [call] },
        ⟨o, body, mode, c, .calling w.nextReply (w.time + w.nextReply.delay)⟩) := by
  rw [nextReply] at later
  simp [poll, live, begun, nextReply, later]

/-- A waiting run that loses its context. -/
theorem poll_expired {reply : Reply} {wake : Nat} (waits : r.stage = .calling reply wake)
    (ended : w.expired r = true) : w.poll r = w.conclude r .expired := by
  simp [poll, waits, ended]

/-- A waiting run whose call ends. -/
theorem poll_arrived {reply : Reply} {wake : Nat} (waits : r.stage = .calling reply wake)
    (live : w.expired r = false) (due : wake ≤ w.time) : w.poll r = w.deliver r reply := by
  simp [poll, waits, live, due]

theorem settle_of_done {result : Except Failure Answer} (polled : w.poll r = (w', r'))
    (done : r'.stage = .done result) (n : Nat) : settle (n + 1) w [r] = (w', [r']) := by
  have idle : nextMoment r' = none := by rw [nextMoment, done]
  simp [settle, pollAll, polled, idle]

theorem settle_of_moment (polled : w.poll r = (w', r')) (active : w'.cancelled = false)
    {moment : Nat} (next : nextMoment r' = some moment) (n : Nat) :
    settle (n + 1) w [r] = settle n { w' with time := max w'.time moment } [r'] := by
  simp [settle, pollAll, polled, next, active]

/-- A run that is done the first time it is looked at. -/
theorem play_of_done {result : Except Failure Answer} (active : w.cancelled = false)
    (polled : w.poll r = (w', r')) (done : r'.stage = .done result) :
    w.play [r] = ({ w' with cancelled := false }, [result]) := by
  have anew : { w with cancelled := false } = w := by rw [← active]
  unfold play
  rw [anew, List.length_singleton, settle_of_done polled done]
  simp [resultOf, done]

/-- A run that is done the second time it is looked at. -/
theorem play_of_moment {w'' : Stagecraft} {r'' : Run} {moment : Nat}
    {result : Except Failure Answer} (active : w.cancelled = false)
    (polled : w.poll r = (w', r')) (still : w'.cancelled = false)
    (next : nextMoment r' = some moment)
    (again : { w' with time := max w'.time moment }.poll r' = (w'', r''))
    (done : r''.stage = .done result) :
    w.play [r] = ({ w'' with cancelled := false }, [result]) := by
  have anew : { w with cancelled := false } = w := by rw [← active]
  unfold play
  rw [anew, List.length_singleton, settle_of_moment polled still next, settle_of_done again done]
  simp [resultOf, done]

/-- The run of an operation when nothing else goes on. -/
def alone (w : Stagecraft) (o : Operation) (body : List UInt8) (mode : Mode) (c : Context) :
    Served o :=
  w.dispatcher.run ⟨w.shelf, w.clock⟩ false o body mode fun _ => w.awaited c

section

variable {body : List UInt8} {mode : Mode} {shelf : Shelf} {call : SoapRequest}

theorem not_expired (active : w.cancelled = false) (live : c.isExpired w.time = false)
    (stage : Stage) : w.expired ⟨o, body, mode, c, stage⟩ = false := by
  rw [expired, active, live]
  rfl

theorem play_finished {result : Result o} (active : w.cancelled = false)
    (live : c.isExpired w.time = false)
    (begun : w.dispatcher.begin w.shelf w.clock false o body mode = (shelf, .finished result)) :
    w.play [⟨o, body, mode, c, .waiting⟩] =
      (w.afterRun c (w.alone o body mode c), [(w.alone o body mode c).result.answer]) := by
  have polled : w.poll ⟨o, body, mode, c, .waiting⟩ =
      ({ w with shelf := shelf }, ⟨o, body, mode, c, .done result.answer⟩) := by
    simp [poll, not_expired active live, begun]
  rw [play_of_done active polled rfl, alone, Dispatcher.run, begun]
  simp [afterRun]

/-- The deadline comes before the call ends, or just then. -/
theorem play_interrupted {d : Nat} (active : w.cancelled = false)
    (live : c.isExpired w.time = false)
    (begun : w.dispatcher.begin w.shelf w.clock false o body mode = (shelf, .calling call))
    (limit : c.deadline = some d) (ahead : w.time < d) (reached : d ≤ w.time + w.nextReply.delay)
    (driven : c.drive w.time w.nextReply.delay = (false, d)) :
    w.play [⟨o, body, mode, c, .waiting⟩] =
      (w.afterRun c (w.alone o body mode c), [(w.alone o body mode c).result.answer]) := by
  have waited : w.awaited c = ⟨.expired, w.clock, true⟩ := by
    rw [awaited, driven]
    rfl
  have ended : c.isExpired d = true := by simp [Context.isExpired, Context.isOver, limit]
  -- The next round is at the deadline, where the run is found expired before its call can end.
  have moment : max w.time (min d (w.time + w.nextReply.delay)) = d := by omega
  have polled := poll_call_later (not_expired active live .waiting) begun (by omega)
  have again := poll_expired
    (w := { w with shelf := shelf, calls := w.calls + 1, sent := w.sent ++ [call], time := d })
    (r := ⟨o, body, mode, c, .calling w.nextReply (w.time + w.nextReply.delay)⟩)
    rfl (by rw [expired, ended, Bool.or_true])
  rw [play_of_moment active polled active (by rw [nextMoment, limit])
    (by rw [moment, again, conclude_eq]) rfl, alone, Dispatcher.run, begun]
  simp [afterRun, waited, driven, expired, ended]

/-- The call ends before the deadline. -/
theorem play_arrived (active : w.cancelled = false) (live : c.isExpired w.time = false)
    (begun : w.dispatcher.begin w.shelf w.clock false o body mode = (shelf, .calling call))
    (early : ∀ d, c.deadline = some d → w.time + w.nextReply.delay < d)
    (still : c.isExpired (w.time + w.nextReply.delay) = false)
    (driven : c.drive w.time w.nextReply.delay = (true, w.time + w.nextReply.delay)) :
    w.play [⟨o, body, mode, c, .waiting⟩] =
      (w.afterRun c (w.alone o body mode c), [(w.alone o body mode c).result.answer]) := by
  have unexpired : w.expired ⟨o, body, mode, c, .waiting⟩ = false :=
    not_expired active live .waiting
  have waited : w.awaited c =
      ⟨w.nextReply.outcome, w.nextReply.clock.apply w.clock, w.nextReply.cancels⟩ := by
    rw [awaited, driven]
    rfl
  -- A call without delay ends in the round that makes it, and no second round is needed.
  by_cases atOnce : w.nextReply.delay = 0
  · have now : w.time + w.nextReply.delay = w.time := by omega
    have polled := poll_call unexpired begun atOnce
    rw [deliver_eq] at polled
    rw [play_of_done active polled rfl, alone, Dispatcher.run, begun]
    rw [now] at driven
    simp [afterRun, waited, driven, live, active]
  · have next : nextMoment
          ⟨o, body, mode, c, .calling w.nextReply (w.time + w.nextReply.delay)⟩ =
        some (w.time + w.nextReply.delay) := by
      unfold nextMoment
      cases limit : c.deadline with
      | none => rfl
      | some d => exact congrArg some (Nat.min_eq_right (Nat.le_of_lt (early d limit)))
    have moment : max w.time (w.time + w.nextReply.delay) = w.time + w.nextReply.delay := by omega
    have polled := poll_call_later unexpired begun atOnce
    have again := poll_arrived
      (w := { w with
        shelf := shelf, calls := w.calls + 1, sent := w.sent ++ [call]
        time := w.time + w.nextReply.delay })
      (r := ⟨o, body, mode, c, .calling w.nextReply (w.time + w.nextReply.delay)⟩)
      rfl (by rw [expired, active, still]; rfl) (Nat.le_refl _)
    rw [play_of_moment active polled active next (by rw [moment, again, deliver_eq]) rfl, alone,
      Dispatcher.run, begun]
    simp [afterRun, waited, driven, still, active]

end

theorem play_active (active : w.cancelled = false) (o : Operation) (body : List UInt8)
    (mode : Mode) (live : c.isExpired w.time = false) :
    w.play [⟨o, body, mode, c, .waiting⟩] =
      (w.afterRun c (w.alone o body mode c), [(w.alone o body mode c).result.answer]) := by
  cases begun : w.dispatcher.begin w.shelf w.clock false o body mode with
  | mk shelf b =>
    cases b with
    | finished result => exact play_finished active live begun
    | calling call =>
      rcases Context.drive_cases live w.nextReply.delay with
        ⟨d, limit, ahead, reached, driven⟩ | ⟨early, still, driven⟩
      · exact play_interrupted active live begun limit ahead reached driven
      · exact play_arrived active live begun early still driven

/-- A rehearsal of one run is the whole run. -/
theorem play_single (w : Stagecraft) (o : Operation) (body : List UInt8) (mode : Mode)
    (live : c.isExpired w.time = false) :
    w.play [⟨o, body, mode, c, .waiting⟩] =
      (w.afterRun c (w.alone o body mode c), [(w.alone o body mode c).result.answer]) :=
  play_active (w := { w with cancelled := false }) rfl o body mode live

end Stagecraft

end SoapGateway
