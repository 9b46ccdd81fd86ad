import Mathlib.Data.List.Induction
import SoapGateway.Proofs.Shutdown.Broadcast

/-!
# No shutdown signal is lost silently

A receiver learns of a signal by getting it, or by being told how many it has missed. One step keeps
the balance for each receiver that is there (`perform_accounts`), and so do any number of them
(`run_accounts`): what the receiver knows of and what waits for it grow by one with each signal, and
what it takes goes from the one to the other. `since?` says where in a sequence of steps the balance
of a receiver begins.
-/
namespace SoapGateway

/-- How many signals a receiver learns of at once: the one that it gets, or those that it missed. -/
def Received.signals : Received → Nat
  | signal => 1
  | empty => 0
  | lagged missed => missed

theorem Received.message_eq_empty_iff (r : Received) : r.message = "channel empty" ↔ r = empty := by
  cases r with
  | signal => exact iff_of_false (by change "signal" ≠ _; decide) nofun
  | empty => exact iff_of_true rfl rfl
  | lagged missed =>
    refine iff_of_false (fun same => ?_) nofun
    change "channel lagged by " ++ Text.ofNat missed = _ at same
    have letters := congrArg (·.toList.take 9) same
    simp [String.toList_append] at letters

namespace Shutdown

variable {s : Shutdown} {i j n : Nat} {step : Step}

theorem take_accounts (n : Nat) : (take n).1.signals + (take n).2 = n := by
  match n with
  | 0 => rfl
  | 1 => rfl
  | n + 2 => simp [take, Received.signals]

theorem pending?_subscribe (s : Shutdown) (i : Nat) :
    s.subscribe.2.pending? i = if i = s.receivers.length then some 0 else s.pending? i := by
  rw [subscribe, pending?, pending?, List.getElem?_append]
  split
  · next inside => rw [if_neg (Nat.ne_of_lt inside)]
  · next outside =>
    by_cases last : i = s.receivers.length
    · simp [last]
    · rw [if_neg last, List.getElem?_eq_none (by simp; omega), List.getElem?_eq_none (by omega)]

theorem pending?_trigger (s : Shutdown) (i : Nat) :
    s.trigger.pending? i = (s.pending? i).map (· + 1) := by
  rw [trigger, pending?, pending?, List.getElem?_map]
  rcases s.receivers[i]? with _ | _ | n <;> rfl

theorem pending?_set (s : Shutdown) (j i : Nat) (v : Option Nat) :
    (Shutdown.mk (s.receivers.set j v)).pending? i =
      if i = j then (if j < s.receivers.length then v else none) else s.pending? i := by
  rw [pending?, pending?, List.getElem?_set]
  by_cases own : i = j
  · subst own
    by_cases inside : i < s.receivers.length <;> simp [inside]
  · simp [own, Ne.symm own]

theorem pending?_drop (s : Shutdown) (j i : Nat) :
    (s.drop j).2.pending? i = if i = j then none else s.pending? i := by
  rw [drop, pending?_set, ite_self]

theorem lt_of_pending? {n : Nat} (waits : s.pending? i = some n) : i < s.receivers.length := by
  by_contra outside
  rw [pending?, List.getElem?_eq_none (by omega)] at waits
  cases waits

theorem receive_eq (s : Shutdown) (j : Nat) :
    (s.receive j).1 = (s.pending? j).map fun n => (take n).1 := by
  rw [receive]
  cases s.pending? j <;> rfl

theorem pending?_receive (s : Shutdown) (j i : Nat) :
    (s.receive j).2.pending? i =
      if i = j then (s.pending? i).map fun n => (take n).2 else s.pending? i := by
  rw [receive]
  cases waits : s.pending? j with
  | none =>
    by_cases own : i = j
    · rw [if_pos own, own]
      exact waits.trans (by rw [waits]; rfl)
    · rw [if_neg own]
  | some n =>
    change (Shutdown.mk (s.receivers.set j (some (take n).2))).pending? i = _
    rw [pending?_set, if_pos (lt_of_pending? waits)]
    by_cases own : i = j
    · rw [if_pos own, if_pos own, own, waits]
      rfl
    · rw [if_neg own, if_neg own]

/-- What a step tells the receiver numbered `i`. -/
def answer? (i : Nat) : Step × Report → Option Received
  | (.receive j, .received r) => if j = i then r else none
  | _ => none

/-- What the receiver numbered `i` gets, in order. -/
def answers (i : Nat) (log : List (Step × Report)) : List Received := log.filterMap (answer? i)

/-- The signals that are reported as missed. -/
def missed : List Received → Nat
  | [] => 0
  | .lagged n :: rest => n + missed rest
  | _ :: rest => missed rest

/-- The signals that a receiver knows of by what it got. -/
def known (got : List Received) : Nat := got.count .signal + missed got

theorem known_cons (r : Received) (got : List Received) :
    known (r :: got) = r.signals + known got := by
  cases r <;> simp [known, missed, Received.signals] <;> omega

theorem known_answers_cons (i : Nat) (entry : Step × Report) (log : List (Step × Report)) :
    known (answers i (entry :: log)) = known (answer? i entry).toList + known (answers i log) := by
  rw [answers, List.filterMap_cons]
  cases answer? i entry with
  | none => simp [known, missed, answers]
  | some r =>
    simp only [Option.toList, known_cons]
    simp [known, missed, answers]

/-- What one step adds to what a receiver knows of, and to what waits for it. -/
theorem perform_accounts (waits : s.pending? i = some n) (stays : step ≠ .drop i) :
    ∃ m, (s.perform step).2.pending? i = some m ∧
      known (answer? i (step, (s.perform step).1)).toList + m = n + [step].count .trigger := by
  cases step with
  | subscribe =>
    have there := lt_of_pending? waits
    refine ⟨n, ?_, by simp [answer?, known, missed]⟩
    change s.subscribe.2.pending? i = some n
    rw [pending?_subscribe, if_neg (Nat.ne_of_lt there), waits]
  | trigger =>
    refine ⟨n + 1, ?_, by simp [answer?, known, missed]⟩
    change s.trigger.pending? i = some (n + 1)
    rw [pending?_trigger, waits]
    rfl
  | drop j =>
    have other : i ≠ j := fun same => stays (same ▸ rfl)
    refine ⟨n, ?_, by simp [answer?, known, missed]⟩
    change (s.drop j).2.pending? i = some n
    rw [pending?_drop, if_neg other, waits]
  | receive j =>
    change ∃ m, (s.receive j).2.pending? i = some m ∧
      known (answer? i (.receive j, .received (s.receive j).1)).toList + m = _
    rw [pending?_receive, receive_eq, answer?]
    by_cases own : i = j
    · subst own
      refine ⟨(take n).2, by rw [if_pos rfl, waits]; rfl, ?_⟩
      rw [if_pos rfl, waits, Option.map_some, Option.toList, known_cons]
      simpa [known, missed] using take_accounts n
    · refine ⟨n, by rw [if_neg own, waits], ?_⟩
      simp [Ne.symm own, known, missed]

theorem run_nil (s : Shutdown) : s.run [] = ([], s) := rfl

theorem run_cons (s : Shutdown) (step : Step) (steps : List Step) :
    s.run (step :: steps) =
      ((step, (s.perform step).1) :: ((s.perform step).2.run steps).1,
        ((s.perform step).2.run steps).2) := rfl

theorem run_append (s : Shutdown) (first rest : List Step) :
    s.run (first ++ rest) =
      ((s.run first).1 ++ ((s.run first).2.run rest).1, ((s.run first).2.run rest).2) := by
  induction first generalizing s with
  | nil => rfl
  | cons step first ih => rw [List.cons_append, run_cons, ih, run_cons, List.cons_append]

/-- As long as a receiver is there, every signal is known to it or waits for it. -/
theorem run_accounts {steps : List Step} (waits : s.pending? i = some n)
    (stays : .drop i ∉ steps) :
    ∃ m, (s.run steps).2.pending? i = some m ∧
      known (answers i (s.run steps).1) + m = n + steps.count .trigger := by
  induction steps generalizing s n with
  | nil => exact ⟨n, waits, by simp [run_nil, answers, known, missed]⟩
  | cons step steps ih =>
    rw [List.mem_cons, not_or] at stays
    obtain ⟨m, after, first⟩ := perform_accounts waits (Ne.symm stays.1)
    obtain ⟨k, last, rest⟩ := ih after stays.2
    refine ⟨k, last, ?_⟩
    rw [run_cons, known_answers_cons, List.count_cons]
    rw [List.count_singleton] at first
    omega

/-- There is a place for everyone who has ever subscribed. -/
theorem length_run (s : Shutdown) (steps : List Step) :
    (s.run steps).2.receivers.length = s.receivers.length + steps.count .subscribe := by
  induction steps generalizing s with
  | nil => rfl
  | cons step steps ih =>
    rw [run_cons, ih, List.count_cons]
    cases step with
    | subscribe => simp [perform, subscribe]; omega
    | trigger => simp [perform, trigger]
    | drop j => simp [perform, drop]
    | receive j =>
      simp only [perform, receive]
      cases s.pending? j <;> simp

/-- Nobody answers before the subscription. -/
theorem answers_early {steps : List Step}
    (early : s.receivers.length + steps.count .subscribe ≤ i) :
    answers i (s.run steps).1 = [] := by
  induction steps generalizing s with
  | nil => rfl
  | cons step steps ih =>
    have size := length_run s [step]
    rw [run_cons, run_nil, List.count_singleton] at size
    rw [List.count_cons] at early
    have absent : s.pending? i = none := by
      rw [pending?, List.getElem?_eq_none (by omega)]
      rfl
    have silent : answer? i (step, (s.perform step).1) = none := by
      cases step with
      | receive j =>
        change answer? i (.receive j, .received (s.receive j).1) = none
        rw [answer?, receive_eq]
        split
        · next own => rw [own, absent]; rfl
        · rfl
      | subscribe | trigger | drop => rfl
    rw [run_cons, answers, List.filterMap_cons, silent]
    exact ih (by simp only [size] at *; omega)

/-- A receiver that does not ask gets nothing. -/
theorem answers_silent {steps : List Step} (silent : .receive i ∉ steps) :
    answers i (s.run steps).1 = [] := by
  induction steps generalizing s with
  | nil => rfl
  | cons step steps ih =>
    rw [List.mem_cons, not_or] at silent
    have nothing : answer? i (step, (s.perform step).1) = none := by
      cases step with
      | receive j =>
        have other : ¬ j = i := fun same => silent.1 (same ▸ rfl)
        exact if_neg other
      | subscribe | trigger | drop => rfl
    rw [run_cons, answers, List.filterMap_cons, nothing]
    exact ih silent.2

/-- Who is gone does not come back. -/
theorem pending?_run_gone {steps : List Step} (inside : i < s.receivers.length)
    (gone : s.pending? i = none) : (s.run steps).2.pending? i = none := by
  induction steps generalizing s with
  | nil => exact gone
  | cons step steps ih =>
    have size := length_run s [step]
    rw [run_cons, run_nil] at size
    rw [run_cons]
    refine ih (by simp only [size]; omega) ?_
    cases step with
    | subscribe =>
      change s.subscribe.2.pending? i = none
      rw [pending?_subscribe, if_neg (Nat.ne_of_lt inside), gone]
    | trigger =>
      change s.trigger.pending? i = none
      rw [pending?_trigger, gone]
      rfl
    | drop j =>
      change (s.drop j).2.pending? i = none
      rw [pending?_drop, gone, ite_self]
    | receive j =>
      change (s.receive j).2.pending? i = none
      rw [pending?_receive, gone]
      exact ite_self _

/-- The steps since the receiver numbered `i` has subscribed, if it has. -/
def since? (i : Nat) : List Step → Option (List Step)
  | [] => none
  | step :: rest =>
    if step = .subscribe then
      match i with
      | 0 => some rest
      | i + 1 => since? i rest
    else since? i rest

theorem since?_eq_some {steps later : List Step} (found : since? i steps = some later) :
    ∃ before, steps = before ++ .subscribe :: later ∧ before.count .subscribe = i := by
  induction steps generalizing i with
  | nil => cases found
  | cons step steps ih =>
    unfold since? at found
    split at found
    · next own =>
      subst own
      cases i with
      | zero =>
        cases found
        exact ⟨[], rfl, rfl⟩
      | succ i =>
        obtain ⟨before, rfl, number⟩ := ih found
        exact ⟨.subscribe :: before, rfl, by simp [number]⟩
    · next other =>
      obtain ⟨before, rfl, number⟩ := ih found
      exact ⟨step :: before, rfl, by simp [other, number]⟩

theorem exists_since? {steps : List Step} (subscribed : i < steps.count .subscribe) :
    ∃ later, since? i steps = some later := by
  induction steps generalizing i with
  | nil => cases subscribed
  | cons step steps ih =>
    unfold since?
    split
    · next own =>
      cases i with
      | zero => exact ⟨steps, rfl⟩
      | succ i =>
        rw [own, List.count_cons_self] at subscribed
        exact ih (by omega)
    · next other =>
      rw [List.count_cons_of_ne other] at subscribed
      exact ih subscribed

/-- The numbers of the receivers that have subscribed and have not been dropped since. -/
def listening (steps : List Step) : List Nat :=
  (List.range (steps.count .subscribe)).filter fun i =>
    (since? i steps).any fun later => !later.contains (.drop i)

/-- A receiver has nothing to take when it has just subscribed. -/
theorem pending?_subscribed {before : List Step} (number : before.count .subscribe = i) :
    (run {} (before ++ [.subscribe])).2.pending? i = some 0 := by
  have size := length_run {} before
  rw [number] at size
  rw [run_append]
  change (run {} before).2.subscribe.2.pending? i = some 0
  rw [pending?_subscribe, size]
  simp

/-- All that a receiver has learnt since it subscribed, unless it was dropped. -/
theorem accounts_since {steps later : List Step} (found : since? i steps = some later)
    (stays : .drop i ∉ later) :
    ∃ waiting, (run {} steps).2.pending? i = some waiting ∧
      known (answers i (run {} steps).1) + waiting = later.count .trigger := by
  obtain ⟨before, rfl, number⟩ := since?_eq_some found
  have opened := pending?_subscribed number
  obtain ⟨waiting, waits, total⟩ := run_accounts opened stays
  have parts : before ++ .subscribe :: later = (before ++ [.subscribe]) ++ later := by simp
  have early : answers i (run {} (before ++ [.subscribe])).1 = [] := by
    have silent : answers i (run {} before).1 = [] := answers_early (by simp [number])
    rw [answers] at silent ⊢
    rw [run_append, List.filterMap_append, silent]
    rfl
  refine ⟨waiting, ?_, ?_⟩
  · rw [parts, run_append]
    exact waits
  · rw [parts, run_append, answers, List.filterMap_append]
    change known (answers i _ ++ answers i _) + _ = _
    rw [early]
    simpa using total

theorem dropped_since {steps later : List Step} (found : since? i steps = some later)
    (dropped : .drop i ∈ later) : (run {} steps).2.pending? i = none := by
  obtain ⟨before, rfl, number⟩ := since?_eq_some found
  obtain ⟨first, rest, rfl⟩ := List.append_of_mem dropped
  have parts : before ++ .subscribe :: (first ++ .drop i :: rest) =
      (before ++ .subscribe :: first ++ [.drop i]) ++ rest := by simp
  rw [parts, run_append]
  refine pending?_run_gone ?_ ?_
  · rw [length_run]
    simp
    omega
  · rw [run_append]
    change ((run {} _).2.drop i).2.pending? i = none
    rw [pending?_drop, if_pos rfl]

theorem receiverCount_eq (s : Shutdown) :
    s.receiverCount =
      ((List.range s.receivers.length).filter fun i => (s.pending? i).isSome).length := by
  obtain ⟨receivers⟩ := s
  induction receivers using List.reverseRecOn with
  | nil => rfl
  | append_singleton receivers last ih =>
    -- The last one does not change what waits for those before it.
    have before : ∀ i ∈ List.range receivers.length,
        ((Shutdown.mk (receivers ++ [last])).pending? i).isSome =
          ((Shutdown.mk receivers).pending? i).isSome := by
      intro i inside
      rw [pending?, pending?, List.getElem?_append_left (List.mem_range.mp inside)]
    rw [receiverCount] at ih ⊢
    rw [List.countP_append, ih, List.length_append, List.length_singleton, List.range_succ,
      List.filter_append, List.length_append, List.filter_congr before]
    congr 1
    rw [List.countP_singleton, List.filter_singleton, pending?, List.getElem?_concat_length]
    cases last <;> rfl

/-- The receivers that are counted are those that listen. -/
theorem receiverCount_run (steps : List Step) :
    (run {} steps).2.receiverCount = (listening steps).length := by
  rw [receiverCount_eq, length_run, listening]
  change ((List.range (0 + _)).filter _).length = _
  rw [Nat.zero_add]
  congr 1
  refine List.filter_congr fun i inside => ?_
  obtain ⟨later, found⟩ := exists_since? (List.mem_range.mp inside)
  rw [found, Option.any_some]
  by_cases dropped : .drop i ∈ later
  · simp [dropped_since found dropped, dropped]
  · obtain ⟨waiting, waits, _⟩ := accounts_since found dropped
    simp [waits, dropped]

theorem receive_eq_empty_iff (waits : s.pending? i = some n) :
    (s.receive i).1.map Received.message = some "channel empty" ↔ n = 0 := by
  rw [receive_eq, waits, Option.map_some, Option.map_some, Option.some.injEq,
    Received.message_eq_empty_iff]
  match n with
  | 0 => simp [take]
  | 1 => simp [take]
  | n + 2 => simp [take]

/-- After a report of missed signals one more is there, whatever others do in between. -/
theorem signal_after_lag {between : List Step}
    (lagged : (s.receive i).1 = some (.lagged n)) (quiet : .trigger ∉ between)
    (stays : .drop i ∉ between) (silent : .receive i ∉ between) :
    (((s.receive i).2.run between).2.receive i).1 = some .signal := by
  have after := pending?_receive s i i
  rw [if_pos rfl] at after
  rw [receive_eq] at lagged
  cases waits : s.pending? i with
  | none => simp [waits] at lagged
  | some waiting =>
    rw [waits] at lagged after
    match waiting with
    | 0 => simp [take] at lagged
    | 1 => simp [take] at lagged
    | more + 2 =>
      obtain ⟨left, still, total⟩ := run_accounts after stays
      rw [answers_silent silent, List.count_eq_zero_of_not_mem quiet] at total
      have one : left = 1 := by simpa [known, missed, take] using total
      rw [receive_eq, still, one]
      rfl

/-- Whatever waits is taken in two goes. -/
theorem pending?_received_twice (waits : s.pending? i = some n) :
    (s.run [.receive i, .receive i]).2.pending? i = some 0 := by
  change (s.receive i).2.receive i |>.2.pending? i = some 0
  rw [pending?_receive, pending?_receive, if_pos rfl, if_pos rfl, waits]
  match n with
  | 0 => rfl
  | 1 => rfl
  | n + 2 => rfl

/-- A receiver is told of every signal that is sent while it listens. Whatever the steps, they are
reported as by a broadcast channel with room for one message; the receivers that are counted are
those that have subscribed and have not been dropped since. For each of them the signals that it
got, those that it was told it had missed, and those that wait for it are together as many as have
been sent since it subscribed. It finds the channel empty when none waits and only then, gets a signal
after any report of missed ones, and has nothing left to take after two more goes. -/
theorem signals_accounted (steps : List Step) :
    (run {} steps).1 = (Broadcast.run ({} : Broadcast 1) steps).1 ∧
    (run {} steps).2.receiverCount = (listening steps).length ∧
    ∀ i later, since? i steps = some later → .drop i ∉ later →
      ∃ waiting, (run {} steps).2.pending? i = some waiting ∧
        (answers i (run {} steps).1).count .signal + missed (answers i (run {} steps).1) +
          waiting = later.count .trigger ∧
        (((run {} steps).2.receive i).1.map Received.message = some "channel empty" ↔
          waiting = 0) ∧
        (∀ n, ((run {} steps).2.receive i).1 = some (.lagged n) →
          ∀ between, .trigger ∉ between → .drop i ∉ between → .receive i ∉ between →
            ((((run {} steps).2.receive i).2.run between).2.receive i).1 = some .signal) ∧
        ((run {} steps).2.run [.receive i, .receive i]).2.pending? i = some 0 := by
  have mirrors : Mirrors {} ({} : Broadcast 1) := ⟨rfl, nofun⟩
  refine ⟨(mirrors.run steps).1, receiverCount_run steps, ?_⟩
  intro i later found stays
  obtain ⟨waiting, waits, total⟩ := accounts_since found stays
  exact ⟨waiting, waits, total, receive_eq_empty_iff waits,
    fun _ lagged _ => signal_after_lag lagged, pending?_received_twice waits⟩

/-- Four signals are sent after the first receiver has subscribed. It is told that it missed two of
them, two wait for it, and after the next report of a missed one it gets the newest, although
somebody subscribes in between and asks. -/
theorem signals_accounted_missed :
    ∃ s log, run {} [.trigger, .subscribe, .subscribe, .trigger, .trigger, .trigger, .receive 0,
        .drop 1, .trigger] = (log, s) ∧
      s.receiverCount = 1 ∧ answers 0 log = [.lagged 2] ∧ s.pending? 0 = some 2 ∧
      (s.receive 0).1 = some (.lagged 1) ∧
      (((s.receive 0).2.run [.subscribe, .receive 2]).2.receive 0).1 = some .signal := by
  refine ⟨_, _, rfl, ?_⟩
  obtain ⟨_, listeners, each⟩ := signals_accounted [.trigger, .subscribe, .subscribe, .trigger,
    .trigger, .trigger, .receive 0, .drop 1, .trigger]
  obtain ⟨waiting, waits, total, _, signal, _⟩ := each 0 _ rfl (by decide)
  have two : waiting = 2 := by
    have told : 0 + 2 + waiting = 4 := total
    omega
  exact ⟨listeners, rfl, two ▸ waits, rfl,
    signal 1 rfl [.subscribe, .receive 2] (by decide) (by decide) (by decide)⟩

end Shutdown

end SoapGateway
