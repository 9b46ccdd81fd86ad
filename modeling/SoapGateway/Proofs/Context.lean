import SoapGateway.Context.Use

/-!
# A context expires once and for all

A context and its copy are one handle (`Shared`), and every step keeps it so. What a history did to
the token of the context is told by its steps alone (`play_lost`), and time only goes forward, so
the context is expired from the first cancellation or from its deadline on. `drive_outcome` says
when a run comes to its end and when it is given up.
-/
namespace SoapGateway

namespace Context

/-- The deadline that a number of timeouts leave: the last one counts whose moment the clock can
show. -/
def deadline? (timeouts : List (Nat × Nat)) : Option Nat :=
  ((timeouts.filter fun t => decide ((t.1 + t.2) / 1000 ≤ lastSecond)).getLast?).map
    fun t => t.1 + t.2

theorem withTimeouts_cons (c : Context) (t : Nat × Nat) (timeouts : List (Nat × Nat)) :
    c.withTimeouts (t :: timeouts) = (c.withTimeout t.1 t.2).withTimeouts timeouts := rfl

theorem cancelled_withTimeouts (c : Context) (timeouts : List (Nat × Nat)) :
    (c.withTimeouts timeouts).cancelled = c.cancelled := by
  induction timeouts generalizing c with
  | nil => rfl
  | cons t timeouts ih =>
    rw [withTimeouts_cons, ih, withTimeout]
    split <;> rfl

theorem deadline_withTimeouts (c : Context) (timeouts : List (Nat × Nat)) :
    (c.withTimeouts timeouts).deadline = (deadline? timeouts).or c.deadline := by
  induction timeouts generalizing c with
  | nil => rfl
  | cons t timeouts ih =>
    rw [withTimeouts_cons, ih, withTimeout, deadline?, deadline?, List.filter_cons]
    by_cases near : (t.1 + t.2) / 1000 ≤ lastSecond
    · rw [if_pos near, if_pos (decide_eq_true near), List.getLast?_cons]
      cases (timeouts.filter fun t => decide ((t.1 + t.2) / 1000 ≤ lastSecond)).getLast? <;> rfl
    · rw [if_neg near, if_neg (by simp [near])]

theorem isExpired_iff (c : Context) (now : Nat) :
    c.isExpired now = true ↔ c.cancelled = true ∨ ∃ d, c.deadline = some d ∧ d ≤ now := by
  rw [isExpired, Bool.or_eq_true, isOver]
  cases c.deadline <;> simp

/-- How a run ends: with its work or without it, and when. -/
structure Outcome (c : Context) (now ms : Nat) (finished : Bool) (later : Nat) : Prop where
  /-- Work comes to its end if the context is not expired and the work takes less time than is
  left. -/
  finishes : finished = true ↔ c.isExpired now = false ∧ ∀ d, c.deadline = some d → ms < d - now
  /-- Then all of its time is taken. -/
  whole : finished = true → later = now + ms
  /-- A context that is expired drives nothing. -/
  idle : c.isExpired now = true → later = now
  /-- Work that is given up is given up at the deadline. -/
  given : finished = false → c.isExpired now = false → c.deadline = some later

theorem drive_outcome (c : Context) (now ms : Nat) :
    c.Outcome now ms (c.drive now ms).1 (c.drive now ms).2 := by
  rw [drive]
  by_cases expired : c.isExpired now = true
  · rw [if_pos expired]
    exact ⟨by simp [expired], nofun, fun _ => rfl, by simp [expired]⟩
  · rw [if_neg expired]
    have live : c.isExpired now = false := Bool.eq_false_iff.mpr expired
    cases given : c.deadline with
    | none => exact ⟨by simp [live, given], fun _ => rfl, by simp [live], nofun⟩
    | some d =>
      have ahead : now < d := by
        apply Nat.lt_of_not_le
        intro past
        exact expired ((isExpired_iff c now).mpr (.inr ⟨d, given, past⟩))
      dsimp only
      by_cases late : d ≤ now + ms
      · rw [if_pos late]
        exact ⟨by simp [live, given]; omega, nofun, by simp [live], fun _ _ => given⟩
      · rw [if_neg late]
        exact ⟨by simp [live, given]; omega, fun _ => rfl, by simp [live], nofun⟩

theorem Outcome.now_le {c : Context} {now ms later : Nat} {finished : Bool}
    (outcome : c.Outcome now ms finished later) : now ≤ later := by
  cases finished with
  | true =>
    have whole := outcome.whole rfl
    omega
  | false =>
    by_cases expired : c.isExpired now = true
    · exact Nat.le_of_eq (outcome.idle expired).symm
    · have live : c.isExpired now = false := Bool.eq_false_iff.mpr expired
      apply Nat.le_of_not_lt
      intro past
      exact expired ((isExpired_iff c now).mpr
        (.inr ⟨later, outcome.given rfl live, Nat.le_of_lt past⟩))

end Context

namespace Lifetime

variable {α : Type} {l : Lifetime} {d : Option Nat}

/-- The context and its copy have the same token and the same deadline. -/
structure Shared (l : Lifetime) (d : Option Nat) : Prop where
  token : ∀ h, (l.handle h).token = []
  deadline : ∀ h, (l.handle h).deadline = d

theorem shared_lifetime (c : Context) (now : Nat) : (c.lifetime now).Shared c.deadline :=
  ⟨fun h => by cases h <;> rfl, fun h => by cases h <;> rfl⟩

/-- Nothing but its own cancellation takes the token of the context. -/
theorem Shared.isCancelled_iff (shared : l.Shared d) (h : Holder) :
    l.isCancelled (l.handle h).token = true ↔ [] ∈ l.cancelled := by
  rw [isCancelled, shared.token, List.any_eq_true]
  constructor
  · rintro ⟨t, member, above⟩
    rw [List.isPrefixOf_iff_prefix, List.prefix_nil] at above
    rwa [above] at member
  · intro member
    exact ⟨[], member, rfl⟩

theorem Shared.isExpired_iff (shared : l.Shared d) (h : Holder) :
    l.isExpired h = true ↔ [] ∈ l.cancelled ∨ ∃ t, d = some t ∧ t ≤ l.now := by
  have deadline : (l.view h).deadline = d := shared.deadline h
  have token : (l.view h).cancelled = true ↔ [] ∈ l.cancelled := shared.isCancelled_iff h
  rw [isExpired, Context.isExpired_iff, deadline, token]

/-- Whether a step of a history, with what it came to, cancelled the context itself. -/
def Cancels : Step α × Report α → Prop
  | (.cancel _, _) => True
  | (.run _ _ _ true, ⟨some (.ok _), _⟩) => True
  | _ => False

theorem drive_cases (l : Lifetime) (h : Holder) (ms : Nat) (output : α) (cancels : Bool) :
    ∃ later, (l.view h).Outcome l.now ms true later ∧
        l.drive h ms output cancels =
          (.ok output, { (if cancels then l.cancel h else l) with now := later }) ∨
      (l.view h).Outcome l.now ms false later ∧
        l.drive h ms output cancels = (.error .expired, { l with now := later }) := by
  have outcome := (l.view h).drive_outcome l.now ms
  refine ⟨((l.view h).drive l.now ms).2, ?_⟩
  rw [drive]
  cases finished : ((l.view h).drive l.now ms).1 with
  | true =>
    rw [finished] at outcome
    exact .inl ⟨outcome, by simp [finished]⟩
  | false =>
    rw [finished] at outcome
    exact .inr ⟨outcome, by simp [finished]⟩

theorem handle_act (l : Lifetime) (step : Step α) (h : Holder) :
    (l.act step).2.handle h = l.handle h := by
  cases step with
  | cancel _ | cancelChild _ _ | wait _ => cases h <;> rfl
  | run by_ ms output cancels =>
    obtain ⟨later, ⟨_, driven⟩ | ⟨_, driven⟩⟩ := l.drive_cases by_ ms output cancels
    · rw [act, driven]
      cases cancels <;> cases h <;> rfl
    · rw [act, driven]
      cases h <;> rfl

theorem now_act (l : Lifetime) (step : Step α) : l.now ≤ (l.act step).2.now := by
  cases step with
  | cancel _ | cancelChild _ _ => exact Nat.le_refl _
  | wait ms => exact Nat.le_add_right _ _
  | run by_ ms output cancels =>
    obtain ⟨later, ⟨outcome, driven⟩ | ⟨outcome, driven⟩⟩ := l.drive_cases by_ ms output cancels
    · rw [act, driven]
      exact outcome.now_le
    · rw [act, driven]
      exact outcome.now_le

theorem Shared.act (shared : l.Shared d) (step : Step α) : (l.act step).2.Shared d :=
  ⟨fun h => by rw [handle_act, shared.token], fun h => by rw [handle_act, shared.deadline]⟩

/-- The token of the context is lost to its own cancellation only, never to that of a child. -/
theorem Shared.lost_act (shared : l.Shared d) (step : Step α) (expired : Holder → Bool) :
    [] ∈ (l.act step).2.cancelled ↔
      [] ∈ l.cancelled ∨ Cancels (step, ⟨(l.act step).1, expired⟩) := by
  cases step with
  | cancel h =>
    change [] ∈ (l.handle h).token :: l.cancelled ↔ _
    simp [shared.token, Cancels]
  | cancelChild h index =>
    change [] ∈ ((l.handle h).token ++ [index]) :: l.cancelled ↔ _
    simp [shared.token, Cancels]
  | wait ms => exact (or_iff_left id).symm
  | run h ms output cancels =>
    obtain ⟨later, ⟨_, driven⟩ | ⟨_, driven⟩⟩ := l.drive_cases h ms output cancels
    · rw [Lifetime.act, driven]
      cases cancels with
      | true =>
        change [] ∈ (l.handle h).token :: l.cancelled ↔ _
        simp [shared.token, Cancels]
      | false => exact (or_iff_left id).symm
    · rw [Lifetime.act, driven]
      cases cancels <;> exact (or_iff_left id).symm

theorem play_cons (l : Lifetime) (step : Step α) (steps : List (Step α)) :
    l.play (step :: steps) = ((step, (l.perform step).1) :: ((l.act step).2.play steps).1,
      ((l.act step).2.play steps).2) := rfl

theorem Shared.play (shared : l.Shared d) (steps : List (Step α)) :
    (l.play steps).2.Shared d := by
  induction steps generalizing l with
  | nil => exact shared
  | cons step steps ih => exact ih (shared.act step)

theorem now_play (l : Lifetime) (steps : List (Step α)) : l.now ≤ (l.play steps).2.now := by
  induction steps generalizing l with
  | nil => exact Nat.le_refl _
  | cons step steps ih => exact Nat.le_trans (l.now_act step) (ih _)

/-- A history tells whether the token of the context is lost. -/
theorem Shared.lost_play (shared : l.Shared d) (steps : List (Step α)) :
    [] ∈ (l.play steps).2.cancelled ↔ [] ∈ l.cancelled ∨ ∃ e ∈ (l.play steps).1, Cancels e := by
  induction steps generalizing l with
  | nil => simp [Lifetime.play]
  | cons step steps ih =>
    have first := shared.lost_act step (l.act step).2.isExpired
    change [] ∈ ((l.act step).2.play steps).2.cancelled ↔ _
    rw [ih (shared.act step), first, play_cons, or_assoc]
    simp only [List.mem_cons, exists_eq_or_imp]
    rfl

theorem Shared.expired_play (shared : l.Shared d) {h : Holder} (expired : l.isExpired h = true)
    (steps : List (Step α)) (h' : Holder) : (l.play steps).2.isExpired h' = true := by
  rw [(shared.play steps).isExpired_iff, shared.lost_play]
  rcases (shared.isExpired_iff h).mp expired with lost | ⟨t, deadline, past⟩
  · exact .inl (.inl lost)
  · exact .inr ⟨t, deadline, Nat.le_trans past (l.now_play steps)⟩

end Lifetime

namespace Context

open Lifetime (Cancels Step)

variable {α : Type}

/-- Take a context with any timeouts, a copy of it, and any history of cancellations of either, of
tokens below them, of waits and of runs. The context and its copy agree on whether they are expired:
they are, from the first cancellation of one of them or from the deadline on, and a cancelled child
does not count. Once they are, they stay so. A run comes to its end, with the output of its work, if
the context is not expired and the work takes less time than is left, whether or not the work
cancels the context as it ends; any other run reports that the context is expired, at once if it was
so before and at the deadline if not. -/
theorem expires_for_good (timeouts : List (Nat × Nat)) (start : Nat)
    (history future : List (Step α)) :
    let fresh := (({} : Context).withTimeouts timeouts).lifetime start
    let log := (fresh.play history).1
    let l := (fresh.play history).2
    (∀ h, l.isExpired h = true ↔
      (∃ e ∈ log, Cancels e) ∨ ∃ d, deadline? timeouts = some d ∧ d ≤ l.now) ∧
    (∀ h h', l.isExpired h = true → (l.play future).2.isExpired h' = true) ∧
    ∀ h ms (output : α) cancels,
      let driven := l.drive h ms output cancels
      (driven.1 = .ok output ↔
        l.isExpired h = false ∧ ∀ d, deadline? timeouts = some d → ms < d - l.now) ∧
      (driven.1 = .ok output ∧ driven.2.now = l.now + ms ∨
        driven.1 = .error .expired ∧
          if l.isExpired h then driven.2.now = l.now
          else deadline? timeouts = some driven.2.now) := by
  intro fresh log l
  have deadline : (({} : Context).withTimeouts timeouts).deadline = deadline? timeouts := by
    rw [deadline_withTimeouts]
    exact Option.or_none
  have cancelled : [] ∉ fresh.cancelled := by
    change [] ∉ if (({} : Context).withTimeouts timeouts).cancelled then _ else _
    rw [cancelled_withTimeouts]
    exact List.not_mem_nil
  have shared : fresh.Shared (deadline? timeouts) := deadline ▸ Lifetime.shared_lifetime _ start
  have later : l.Shared (deadline? timeouts) := shared.play history
  refine ⟨?_, ?_, ?_⟩
  · intro h
    rw [later.isExpired_iff, shared.lost_play, or_iff_right cancelled]
  · intro h h' expired
    exact later.expired_play expired future h'
  · intro h ms output cancels
    have own : (l.view h).deadline = deadline? timeouts := later.deadline h
    obtain ⟨t, ⟨outcome, driven⟩ | ⟨outcome, driven⟩⟩ := l.drive_cases h ms output cancels
    · have finishes := outcome.finishes
      rw [own] at finishes
      rw [driven]
      exact ⟨iff_of_true rfl (finishes.mp rfl), .inl ⟨rfl, outcome.whole rfl⟩⟩
    · have finishes := outcome.finishes
      rw [own] at finishes
      rw [driven]
      refine ⟨iff_of_false nofun fun both => Bool.noConfusion (finishes.mpr both), .inr ⟨rfl, ?_⟩⟩
      by_cases expired : l.isExpired h = true
      · rw [if_pos expired]
        exact outcome.idle expired
      · rw [if_neg expired, ← own]
        exact outcome.given rfl (Bool.eq_false_iff.mpr expired)

/-- A deadline at twenty milliseconds that a timeout out of reach leaves alone, and a cancelled
child: work of nineteen milliseconds comes to its end, one more is too many, and the context stays
expired. -/
theorem expires_for_good_twenty :
    let timeouts := [(0, 20), (0, 18446744073709551615000)]
    let history : List (Step Nat) :=
      [.cancelChild .copy 0, .run .owner 19 7 false, .run .copy 1 8 true]
    let future : List (Step Nat) := [.wait 5, .cancelChild .owner 1]
    let fresh := (({} : Context).withTimeouts timeouts).lifetime 0
    let l := (fresh.play history).2
    deadline? timeouts = some 20 ∧ l.now = 20 ∧ l.isExpired .copy = true ∧
      (l.play future).2.isExpired .owner = true := by
  intro timeouts history future fresh l
  have expired : l.isExpired .copy = true := by decide
  exact ⟨by decide, by decide, expired,
    (expires_for_good timeouts 0 history future).2.1 .copy .owner expired⟩

end Context

end SoapGateway
