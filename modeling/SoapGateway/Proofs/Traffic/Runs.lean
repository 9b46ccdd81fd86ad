import SoapGateway.Proofs.Dispatcher
import SoapGateway.Traffic

/-!
# How runs go on

A run keeps its number. What was asked never changes, a run that waits may end once, with a result
that does not come out of the cache, and after its end only its context can still be cancelled.
-/
namespace SoapGateway.Traffic

open Calendar (Instant)

@[simp] theorem Run.ofBegun_operation (o : Operation) (body : List UInt8) (mode : Mode)
    (context : Context) (now : Instant) (b : Begun o) :
    (Run.ofBegun o body mode context now b).operation = o := by
  cases b <;> rfl

@[simp] theorem Run.ofBegun_body (o : Operation) (body : List UInt8) (mode : Mode)
    (context : Context) (now : Instant) (b : Begun o) :
    (Run.ofBegun o body mode context now b).body = body := by
  cases b <;> rfl

@[simp] theorem Run.ofBegun_mode (o : Operation) (body : List UInt8) (mode : Mode)
    (context : Context) (now : Instant) (b : Begun o) :
    (Run.ofBegun o body mode context now b).mode = mode := by
  cases b <;> rfl

theorem Run.isHit_cases {r : Run} (hit : r.isHit = true) :
    ∃ now f, r.ending = some (now, .ok f) ∧ f.fromCache = true := by
  unfold isHit at hit
  split at hit
  · next now f ended => exact ⟨now, f, ended, hit⟩
  · cases hit

theorem Run.isFailed_cases {r : Run} (failed : r.isFailed = true) :
    ∃ now f, r.ending = some (now, .error f) := by
  unfold isFailed at failed
  split at failed
  · next now f ended => exact ⟨now, f, ended⟩
  · cases failed

/-- A run that has ended, neither out of the cache nor in failure, has fetched what it returns. -/
theorem Run.fetched_cases {r : Run} (ended : r.ending.isSome = true) (missed : r.isHit = false)
    (sound : r.isFailed = false) :
    ∃ now f, r.ending = some (now, .ok f) ∧ f.fromCache = false := by
  unfold isHit at missed
  unfold isFailed at sound
  cases ending : r.ending with
  | none =>
    rw [ending] at ended
    cases ended
  | some ending' =>
    obtain ⟨now, result⟩ := ending'
    rw [ending] at missed sound
    cases result with
    | error f => cases sound
    | ok f => exact ⟨now, f, rfl, missed⟩

/-- What can become of a run later. -/
inductive Later (r : Run) : Run → Prop
  | stays (c : Context) : Later r { r with context := c }
  | ends (c : Context) (outcome : CallOutcome) (now : Instant) (result : Result r.operation)
      (stored : Option Instant) (waiting : r.isWaiting = true)
      (fetched : ∀ f, result = .ok f → f.fromCache = false) :
    Later r { r with context := c, outcome := some outcome, ending := some (now, result), stored }

namespace Later

variable {r r' r'' : Run}

theorem refl (r : Run) : Later r r := .stays r.context

theorem operation (later : Later r r') : r'.operation = r.operation := by
  cases later <;> rfl

theorem body (later : Later r r') : r'.body = r.body := by
  cases later <;> rfl

theorem mode (later : Later r r') : r'.mode = r.mode := by
  cases later <;> rfl

theorem idle (later : Later r r') (idle : r.isWaiting = false) :
    ∃ c, r' = { r with context := c } := by
  cases later with
  | stays c => exact ⟨c, rfl⟩
  | ends _ _ _ _ _ waiting =>
    rw [waiting] at idle
    cases idle

/-- A run that waits has waited ever since it is there. -/
theorem waiting (later : Later r r') (waits : r'.isWaiting = true) :
    r.isWaiting = true := by
  cases later with
  | stays c => exact waits
  | ends => simp [Run.isWaiting] at waits

theorem trans (first : Later r r') (second : Later r' r'') : Later r r'' := by
  cases first with
  | stays c =>
    cases second with
    | stays c' => exact .stays c'
    | ends c' outcome now result stored waiting fetched =>
      exact ends (r := r) c' outcome now result stored waiting fetched
  | ends c outcome now result stored waiting fetched =>
    obtain ⟨c', rfl⟩ := second.idle (by simp [Run.isWaiting])
    exact .ends c' outcome now result stored waiting fetched

end Later

/-- Every run goes on under its number. -/
def Carries (runs runs' : List Run) : Prop :=
  ∀ ⦃j : Nat⦄ ⦃q : Run⦄, runs[j]? = some q → ∃ q', runs'[j]? = some q' ∧ Later q q'

namespace Carries

theorem refl (runs : List Run) : Carries runs runs :=
  fun _ q found => ⟨q, found, .refl q⟩

theorem trans {runs runs' runs'' : List Run} (first : Carries runs runs')
    (second : Carries runs' runs'') : Carries runs runs'' := by
  intro j q found
  obtain ⟨q', found', later⟩ := first found
  obtain ⟨q'', found'', later'⟩ := second found'
  exact ⟨q'', found'', later.trans later'⟩

theorem length_le {runs runs' : List Run} (carries : Carries runs runs') :
    runs.length ≤ runs'.length := by
  by_contra shorter
  obtain ⟨q', found, _⟩ := carries (List.getElem?_eq_getElem (Nat.lt_of_not_le shorter))
  rw [List.getElem?_eq_none (Nat.le_refl _)] at found
  cases found

theorem append (runs more : List Run) : Carries runs (runs ++ more) := by
  intro j q found
  have inside := (List.getElem?_eq_some_iff.mp found).1
  exact ⟨q, by rw [List.getElem?_append_left inside, found], .refl q⟩

theorem set {runs : List Run} {id : Nat} {r r' : Run} (found : runs[id]? = some r)
    (later : Later r r') : Carries runs (runs.set id r') := by
  intro j q found'
  by_cases same : j = id
  · subst same
    rw [found, Option.some.injEq] at found'
    subst found'
    exact ⟨r', List.getElem?_set_self (List.getElem?_eq_some_iff.mp found).1, later⟩
  · exact ⟨q, by rw [List.getElem?_set_ne (Ne.symm same), found'], .refl q⟩

end Carries

theorem getElem?_snoc {α : Type} {l : List α} {a b : α} {i : Nat}
    (found : (l ++ [a])[i]? = some b) : l[i]? = some b ∨ (i = l.length ∧ b = a) := by
  by_cases inside : i < l.length
  · rw [List.getElem?_append_left inside] at found
    exact .inl found
  · have last := (List.getElem?_eq_some_iff.mp found).1
    rw [List.length_append, List.length_singleton] at last
    obtain rfl : i = l.length := by omega
    rw [List.getElem?_concat_length, Option.some.injEq] at found
    exact .inr ⟨rfl, found.symm⟩

namespace Scene

variable {d : Dispatcher} {w : Scene}

theorem play_cons (d : Dispatcher) (w : Scene) (a : Act) (acts : List Act) :
    w.play d (a :: acts) = (w.step d a).play d acts := rfl

theorem start_eq {s : Shelf} {o : Operation} {body : List UInt8} {mode : Mode} {context : Context}
    {b : Begun o}
    (begun : d.begin w.shelf w.clock (context.isExpired w.time) o body mode = (s, b)) :
    w.start d o body mode context =
      { w with shelf := s, runs := w.runs ++ [.ofBegun o body mode context w.clock b] } := by
  rw [start, begun]

/-- A run that is started is there under the next number. -/
theorem start_found (d : Dispatcher) (w : Scene) (o : Operation) (body : List UInt8)
    (mode : Mode) (context : Context) :
    (w.start d o body mode context).runs[w.runs.length]? =
      some (.ofBegun o body mode context w.clock
        (d.begin w.shelf w.clock (context.isExpired w.time) o body mode).2) :=
  List.getElem?_concat_length

theorem play_start {s : Shelf} {o : Operation} {body : List UInt8} {mode : Mode} {context : Context}
    {b : Begun o} {acts : List Act}
    (begun : d.begin w.shelf w.clock (context.isExpired w.time) o body mode = (s, b)) :
    w.play d (.start o body mode context :: acts) =
      Scene.play d { w with
        shelf := s, runs := w.runs ++ [.ofBegun o body mode context w.clock b] } acts := by
  rw [play_cons, step, start_eq begun]

theorem play_append (d : Dispatcher) (w : Scene) (before after : List Act) :
    w.play d (before ++ after) = (w.play d before).play d after :=
  List.foldl_append

theorem play_split (d : Dispatcher) (w : Scene) (before : List Act) (a : Act) (after : List Act) :
    w.play d (before ++ a :: after) = ((w.play d before).step d a).play d after := by
  rw [play_append, play_cons]

/-- How the end of a run comes out. -/
theorem settle_cases (w : Scene) (id : Nat) (r : Run) (outcome : CallOutcome) :
    ∃ shelf result, Dispatcher.Finish w.shelf w.clock r.operation r.body
        (r.context.isExpired w.time) outcome shelf result ∧
      w.settle id r outcome =
        { w with shelf, runs := w.runs.set id (r.settled outcome shelf w.clock result) } :=
  ⟨_, _, Dispatcher.finish_cases w.shelf w.clock (r.context.isExpired w.time) r.operation r.body
    outcome, rfl⟩

/-- A look at a run does nothing, or ends a run that waits: with a lost context before its call can
end, or with what its call answers. -/
theorem poll_cases (w : Scene) (id : Nat) (arrival : Option Arrival) :
    w.poll id arrival = w ∨
    ∃ (r : Run) (c : Context) (time : Nat) (outcome : CallOutcome), w.runs[id]? = some r ∧
      r.isWaiting = true ∧
      w.poll id arrival = { w with time }.settle id { r with context := c } outcome := by
  unfold poll
  split
  · exact .inl rfl
  · next r found =>
    split
    · next waiting =>
      split
      · exact .inr ⟨r, r.context, w.time, .expired, found, waiting, rfl⟩
      · split
        · exact .inl rfl
        · next a => exact .inr ⟨r, _, w.time + a.elapsed, a.outcome, found, waiting, rfl⟩
    · exact .inl rfl

theorem cancel_shelf (w : Scene) (id : Nat) : (w.cancel id).shelf = w.shelf := by
  unfold cancel
  split <;> rfl

theorem later_settled {r : Run} {s s' : Shelf} {now : Instant} {expired : Bool} {c : Context}
    {outcome : CallOutcome} {result : Result r.operation} (waiting : r.isWaiting = true)
    (finish : Dispatcher.Finish s now r.operation r.body expired outcome s' result) :
    Later r ({ r with context := c }.settled outcome s' now result) := by
  refine .ends c outcome now result _ waiting fun f ok => ?_
  rw [ok] at finish
  exact finish.fetched

theorem step_carries (d : Dispatcher) (w : Scene) (a : Act) :
    Carries w.runs (w.step d a).runs := by
  cases a with
  | start o body mode context => exact .append _ _
  | poll id arrival =>
    rcases w.poll_cases id arrival with same | ⟨r, c, time, outcome, found, waiting, settled⟩
    · rw [step, same]
      exact .refl _
    · obtain ⟨shelf, result, finish, settle⟩ :=
        settle_cases { w with time } id { r with context := c } outcome
      rw [step, settled, settle]
      exact .set found (later_settled waiting finish)
  | cancel id =>
    rw [step, cancel]
    split
    · exact .refl _
    · next found => exact .set found (.stays _)
  | plant key t =>
    rw [step, plant]
    split <;> exact .refl _
  | wait => exact .refl _
  | setClock => exact .refl _
  | invalidate => exact .refl _
  | clear => exact .refl _
  | deny => exact .refl _

theorem play_carries (d : Dispatcher) (w : Scene) (acts : List Act) :
    Carries w.runs (w.play d acts).runs := by
  induction acts generalizing w with
  | nil => exact .refl _
  | cons a acts ih => exact (step_carries d w a).trans (ih (w.step d a))

end Scene

end SoapGateway.Traffic
