import Mathlib.Data.List.Basic
import SoapGateway.Shutdown.Use

/-!
# The signal as a broadcast channel

A broadcast channel numbers its messages in the order in which they are sent and keeps the newest
of them, as many as it has room for. Every receiver has the number of the message that it gets next.
Where that one is kept no more, the receiver learns how many it has missed and goes on with the
oldest that is kept. The shutdown signal is such a channel with room for one message. A message that
is sent while nobody is there counts here like any other; nobody can tell.
-/
namespace SoapGateway

/-- A channel, with room for `capacity` messages. -/
structure Broadcast (capacity : Nat) where
  /-- Number of messages sent so far. -/
  sent : Nat := 0
  /-- The number of the message that each receiver gets next, or `none` once it is gone. -/
  cursors : List (Option Nat) := []

namespace Broadcast

open Shutdown (Step Report)

variable {capacity : Nat}

/-- The oldest message that is kept, or the next one to be sent if there is none. -/
def oldest (c : Broadcast capacity) : Nat := c.sent - capacity

/-- Lets a receiver take a message. -/
def receive (c : Broadcast capacity) (index : Nat) : Option Received × Broadcast capacity :=
  match (c.cursors[index]?).join with
  | none => (none, c)
  | some next =>
    if next = c.sent then (some .empty, c)
    else if c.oldest ≤ next then
      (some .signal, { c with cursors := c.cursors.set index (some (next + 1)) })
    else
      (some (.lagged (c.oldest - next)),
        { c with cursors := c.cursors.set index (some c.oldest) })

/-- What one step does. -/
def perform (c : Broadcast capacity) : Step → Report × Broadcast capacity
  | .subscribe =>
    (.subscribed c.cursors.length, { c with cursors := c.cursors ++ [some c.sent] })
  | .trigger => (.triggered, { c with sent := c.sent + 1 })
  | .drop index =>
    (.dropped (c.cursors[index]?).join.isSome, { c with cursors := c.cursors.set index none })
  | .receive index =>
    let (received, c) := c.receive index
    (.received received, c)

/-- What any number of steps do. -/
def run (c : Broadcast capacity) (steps : List Step) :
    List (Step × Report) × Broadcast capacity :=
  Step.inTurn perform c steps

end Broadcast

namespace Shutdown

variable {s : Shutdown} {c : Broadcast 1}

/-- For every receiver as many signals wait as have been sent from its next message on. -/
structure Mirrors (s : Shutdown) (c : Broadcast 1) : Prop where
  receivers : s.receivers = c.cursors.map (Option.map (c.sent - ·))
  /-- No receiver is ahead of what is sent. -/
  behind : ∀ next, some next ∈ c.cursors → next ≤ c.sent

namespace Mirrors

theorem pending? (mirrors : s.Mirrors c) (i : Nat) :
    s.pending? i = ((c.cursors[i]?).join).map (c.sent - ·) := by
  rw [Shutdown.pending?, mirrors.receivers, List.getElem?_map]
  rcases c.cursors[i]? with _ | _ | next <;> rfl

theorem subscribe (mirrors : s.Mirrors c) :
    s.subscribe.2.Mirrors { c with cursors := c.cursors ++ [some c.sent] } where
  receivers := by simp [Shutdown.subscribe, mirrors.receivers]
  behind next member := by
    rcases List.mem_append.mp member with old | new
    · exact mirrors.behind next old
    · cases List.mem_singleton.mp new
      exact Nat.le_refl _

theorem trigger (mirrors : s.Mirrors c) :
    s.trigger.Mirrors { c with sent := c.sent + 1 } where
  receivers := by
    rw [Shutdown.trigger, mirrors.receivers, List.map_map]
    refine List.map_congr_left fun cursor member => ?_
    cases cursor with
    | none => rfl
    | some next =>
      have behind := mirrors.behind next member
      simp only [Function.comp, Option.map_some, Option.some.injEq]
      omega
  behind next member := Nat.le_succ_of_le (mirrors.behind next member)

/-- A receiver is gone, or has got to another message. -/
theorem set (mirrors : s.Mirrors c) (i : Nat) (cursor : Option Nat)
    (behind : ∀ next, cursor = some next → next ≤ c.sent) :
    (Shutdown.mk (s.receivers.set i (cursor.map (c.sent - ·)))).Mirrors
      { c with cursors := c.cursors.set i cursor } where
  receivers := by simp [mirrors.receivers, List.map_set]
  behind next member := by
    rcases List.mem_or_eq_of_mem_set member with old | new
    · exact mirrors.behind next old
    · exact behind next new.symm

theorem receive (mirrors : s.Mirrors c) (i : Nat) :
    (s.receive i).1 = (c.receive i).1 ∧ (s.receive i).2.Mirrors (c.receive i).2 := by
  rw [Shutdown.receive, mirrors.pending?, Broadcast.receive]
  cases there : (c.cursors[i]?).join with
  | none => exact ⟨rfl, mirrors⟩
  | some next =>
    have behind := mirrors.behind next (List.mem_of_getElem? (Option.join_eq_some_iff.mp there))
    have oldest : c.oldest = c.sent - 1 := rfl
    dsimp only [Option.map_some]
    -- As many signals wait as lie between the next message and the last one sent.
    obtain waits | waits | ⟨more, waits⟩ :
        c.sent - next = 0 ∨ c.sent - next = 1 ∨ ∃ more, c.sent - next = more + 2 := by
      by_cases few : c.sent - next < 2
      · omega
      · exact .inr (.inr ⟨c.sent - next - 2, by omega⟩)
    · rw [if_pos (by omega), waits]
      obtain ⟨inside, own⟩ := List.getElem?_eq_some_iff.mp (Option.join_eq_some_iff.mp there)
      have kept := mirrors.set i c.cursors[i] (by simp [own, behind])
      rw [List.set_getElem_self, own, Option.map_some, waits] at kept
      exact ⟨rfl, kept⟩
    · rw [if_neg (by omega), if_pos (by omega), waits]
      have taken := mirrors.set i (some (next + 1)) (by simp; omega)
      rw [Option.map_some, show c.sent - (next + 1) = 0 by omega] at taken
      exact ⟨rfl, taken⟩
    · rw [if_neg (by omega), if_neg (by omega), waits]
      have taken := mirrors.set i (some c.oldest) (by simp [oldest])
      rw [Option.map_some, show c.sent - c.oldest = 1 by omega] at taken
      refine ⟨?_, taken⟩
      rw [show c.oldest - next = more + 1 by omega]
      rfl

/-- Every step is reported alike. -/
theorem perform (mirrors : s.Mirrors c) (step : Step) :
    (s.perform step).1 = (c.perform step).1 ∧ (s.perform step).2.Mirrors (c.perform step).2 := by
  cases step with
  | subscribe =>
    refine ⟨congrArg Report.subscribed ?_, mirrors.subscribe⟩
    rw [mirrors.receivers, List.length_map]
  | trigger => exact ⟨rfl, mirrors.trigger⟩
  | drop i =>
    refine ⟨congrArg Report.dropped ?_, mirrors.set i none nofun⟩
    rw [mirrors.pending?, Option.isSome_map]
  | receive i =>
    obtain ⟨same, after⟩ := mirrors.receive i
    exact ⟨congrArg Report.received same, after⟩

theorem run (mirrors : s.Mirrors c) (steps : List Step) :
    (s.run steps).1 = (c.run steps).1 ∧ (s.run steps).2.Mirrors (c.run steps).2 := by
  induction steps generalizing s c with
  | nil => exact ⟨rfl, mirrors⟩
  | cons step steps ih =>
    obtain ⟨report, next⟩ := mirrors.perform step
    obtain ⟨log, last⟩ := ih next
    refine ⟨?_, last⟩
    change (step, (s.perform step).1) :: ((s.perform step).2.run steps).1 =
      (step, (c.perform step).1) :: ((c.perform step).2.run steps).1
    rw [report, log]

end Mirrors

end Shutdown

end SoapGateway
