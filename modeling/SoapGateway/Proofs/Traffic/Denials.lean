import SoapGateway.Proofs.DenyList
import SoapGateway.Proofs.Session.Accounts
import SoapGateway.Proofs.Traffic.Invariants
import SoapGateway.Proofs.Traffic.Stores

/-!
# Denials

A name that is denied stays denied. A run of a denied operation ends where it starts, without a look
at the cache and without a call. A run of any other operation is never refused for its name, even if
the name is denied while its call is under way.
-/
namespace SoapGateway

open Calendar (Instant)

namespace Dispatcher

variable {d : Dispatcher} {s s' : Shelf} {now : Instant} {o : Operation} {body : List UInt8}
  {mode : Mode}

/-- How a denied operation is answered. -/
def refusal (expired : Bool) (o : Operation) : Failure :=
  if expired then .expired else .prohibited o.name

/-- A denied operation is refused whatever else the shelf holds, and the shelf stays. -/
theorem begin_denied (denied : s.prohibits o = true) (d : Dispatcher) (now : Instant)
    (expired : Bool) (body : List UInt8) (mode : Mode) :
    d.begin s now expired o body mode = (s, .finished (.error (refusal expired o))) := by
  cases expired with
  | true => exact (Beginning.expired mode).begin_eq
  | false => exact (Beginning.prohibited mode denied).begin_eq

/-- A run that has made its call is not refused for its name. -/
theorem Accounted.not_prohibited {f : Failure} (accounted : Accounted o (.error f) 1)
    (name : String) : f.root ≠ .prohibited name := by
  cases accounted <;> nofun

/-- A run that ends before its call is refused for its name only if that is denied. -/
theorem Beginning.denied_of_prohibited {expired : Bool} {f : Failure} {name : String}
    (begun : Beginning d s now o body expired mode s' (.finished (.error f)))
    (refused : f.root = .prohibited name) : s.prohibits o = true := by
  cases begun with
  | expired => cases refused
  | prohibited _ denied => exact denied
  | refused _ parsed => cases Request.parse_error parsed <;> cases refused
  | unwritten _ parsed _ encoded =>
    cases Codec.encode_error parsed encoded
    cases refused

end Dispatcher

namespace Traffic

theorem Later.call {r r' : Run} (later : Later r r') : r'.call = r.call := by
  cases later <;> rfl

/-- Whether a run was refused for the name of its operation. -/
def Run.IsRefused (r : Run) : Prop :=
  ∃ now f name, r.ending = some (now, .error f) ∧ f.root = .prohibited name

/-- A run that has made its call is never refused for its name. -/
theorem lasting_called (d : Dispatcher) :
    Lasting d fun r => r.call.isSome = true → ¬ r.IsRefused where
  begun {s s' now o body expired mode b} context begun called := by
    rintro ⟨now, f, name, ended, refused⟩
    cases b with
    | finished result => cases called
    | calling call => cases ended
  context c kept := kept
  settled {r s s' now expired outcome result} kept waiting finish _ := by
    rintro ⟨now, f, name, ended, refused⟩
    have failed : result = .error f := (Prod.mk.inj (Option.some.inj ended)).2
    rw [failed] at finish
    exact finish.accounted.not_prohibited name refused

namespace Scene

variable {d : Dispatcher} {w : Scene} {o : Operation}

/-- The scene with another cache. -/
def withCache (w : Scene) (cache : Cache Stored) : Scene :=
  { w with shelf := { w.shelf with cache } }

/-- Nothing but a denial changes what is denied. -/
theorem step_denied {a : Act} (other : ∀ name, a ≠ .deny name) :
    (w.step d a).shelf.denied = w.shelf.denied := by
  cases a with
  | start o body mode context =>
    have begun := Dispatcher.begin_cases d w.shelf w.clock (context.isExpired w.time) o body mode
    exact begun.denied_eq
  | poll id arrival =>
    rcases w.poll_cases id arrival with same | ⟨r, c, time, outcome, _, _, settled⟩
    · rw [step, same]
    · obtain ⟨shelf, result, finish, settle⟩ :=
        settle_cases { w with time } id { r with context := c } outcome
      rw [step, settled, settle]
      exact finish.denied_eq
  | cancel id => rw [step, cancel_shelf]
  | plant key t =>
    rw [step, plant]
    split <;> rfl
  | deny name => exact absurd rfl (other name)
  | invalidate => rfl
  | clear => rfl
  | wait => rfl
  | setClock => rfl

/-- The denied names are those of the beginning and those that were denied since. -/
theorem contains_play (d : Dispatcher) (w : Scene) (acts : List Act) (name : String) :
    (w.play d acts).shelf.denied.contains name = true ↔
      w.shelf.denied.contains name = true ∨ .deny name ∈ acts := by
  induction acts generalizing w with
  | nil => simp [play]
  | cons a acts ih =>
    rw [play_cons, ih, List.mem_cons]
    by_cases denial : ∃ name', a = .deny name'
    · obtain ⟨name', rfl⟩ := denial
      rw [step, DenyList.contains_add, Act.deny.injEq, or_assoc, or_left_comm]
    · have other : ∀ name', a ≠ .deny name' := fun name' same => denial ⟨name', same⟩
      rw [step_denied other, or_iff_right (other name).symm]

/-- A run of a denied operation is refused where it starts. -/
theorem start_denied (denied : w.shelf.prohibits o = true) (d : Dispatcher) (body : List UInt8)
    (mode : Mode) (context : Context) :
    w.start d o body mode context = { w with
      runs := w.runs ++ [.ofBegun o body mode context w.clock
        (.finished (.error (Dispatcher.refusal (context.isExpired w.time) o)))] } :=
  start_eq (Dispatcher.begin_denied denied ..)

/-- A run is refused for its name only if that was denied when it started. -/
theorem denied_of_isRefused {body : List UInt8} {mode : Mode} {context : Context}
    {after : List Act} {r : Run} (each : ∀ q ∈ w.runs, q.call.isSome = true → ¬ q.IsRefused)
    (found : ((w.start d o body mode context).play d after).runs[w.runs.length]? = some r)
    (refused : r.IsRefused) : w.shelf.prohibits o = true := by
  have begun := Dispatcher.begin_cases d w.shelf w.clock (context.isExpired w.time) o body mode
  have there := start_found d w o body mode context
  have later := later_of_play there found
  generalize (d.begin w.shelf w.clock (context.isExpired w.time) o body mode).2 = b at begun later
  cases b with
  | finished result =>
    obtain ⟨c, rfl⟩ := later.idle rfl
    obtain ⟨now, f, name, ended, prohibited⟩ := refused
    have failed : result = .error f := (Prod.mk.inj (Option.some.inj ended)).2
    rw [failed] at begun
    exact begun.denied_of_prohibited prohibited
  | calling call =>
    have called : r.call.isSome = true := by
      rw [later.call]
      rfl
    have started := step_each (lasting_called d) each (.start o body mode context)
    have kept := play_each (lasting_called d) started after
    exact absurd refused (kept r (List.mem_of_getElem? found) called)

/-- A look at a run that has ended does nothing. -/
theorem poll_ended {id : Nat} {r : Run} (found : w.runs[id]? = some r)
    (ended : r.ending.isSome = true) (arrival : Option Arrival) : w.poll id arrival = w := by
  have idle : r.isWaiting = false := by
    rw [Run.isWaiting, Option.isNone_eq_false_iff.mpr ended, Bool.and_false]
  rw [poll, found]
  dsimp only
  rw [if_neg (Bool.not_eq_true _ ▸ idle)]

/-- At every moment the denied names are those of the configured list and those that were denied
since, and they stay denied whatever happens later. A run of a denied operation, a refresh or not,
is answered with the bare refusal where it starts. It makes no call, does the same whatever the
cache holds, leaves the cache as it is, and nothing comes of it later. A run of an operation that is
not denied when it starts is never refused for its name. -/
theorem denial_is_final (d : Dispatcher) (capacity : Nat) (list : String) (clock : Instant)
    (time : Nat) (before after : List Act) (o : Operation) (body : List UInt8) (mode : Mode)
    (context : Context) :
    let w := (initial capacity (.ofText list) clock time).play d before
    let w' := (w.start d o body mode context).play d after
    (∀ name, w.shelf.denied.contains name = true ↔
      name ∈ Text.words list ∨ .deny name ∈ before) ∧
    (∀ name, w.shelf.denied.contains name = true → w'.shelf.denied.contains name = true) ∧
    ∃ r, w'.runs[w.runs.length]? = some r ∧ r.operation = o ∧ r.body = body ∧ r.mode = mode ∧
      (w.shelf.denied.contains o.name = true →
        r.call = none ∧
        r.ending =
          some (w.clock, .error (Dispatcher.refusal (context.isExpired w.time) o)) ∧
        (∀ cache, (w.withCache cache).start d o body mode context =
          (w.start d o body mode context).withCache cache) ∧
        ∀ arrival, w'.poll w.runs.length arrival = w') ∧
      (w.shelf.denied.contains o.name = false → ¬ r.IsRefused) := by
  intro w w'
  have there := start_found d w o body mode context
  obtain ⟨r, found, later⟩ := play_carries d _ after there
  refine ⟨?names, ?stays, r, found, ?operation, ?body, ?mode, ?denied, ?permitted⟩
  case names =>
    intro name
    rw [contains_play]
    exact or_congr_left (DenyList.contains_ofText list name)
  case stays =>
    intro name denied
    have started : (w.start d o body mode context).shelf.denied.contains name = true :=
      (contains_play d w [.start o body mode context] name).mpr (.inl denied)
    exact (contains_play d _ after name).mpr (.inl started)
  case operation => rw [later.operation, Run.ofBegun_operation]
  case body => rw [later.body, Run.ofBegun_body]
  case mode => rw [later.mode, Run.ofBegun_mode]
  case denied =>
    intro denied
    have refused := Dispatcher.begin_denied denied d w.clock (context.isExpired w.time) body mode
    rw [refused] at later
    obtain ⟨c, rfl⟩ := later.idle rfl
    refine ⟨rfl, rfl, fun cache => ?_, poll_ended found rfl⟩
    rw [start_denied denied, start_denied (w := w.withCache cache) denied]
    rfl
  case permitted =>
    intro permitted refused
    have nobody : ∀ q ∈ (initial capacity (.ofText list) clock time).runs,
        q.call.isSome = true → ¬ q.IsRefused := by
      intro q member
      cases member
    have denied := denied_of_isRefused (play_each (lasting_called d) nobody before) found refused
    rw [Shelf.prohibits, permitted] at denied
    cases denied

/-- A refresh of an operation on the list is refused, and keeps the answer when it is looked at
later. A call goes on whose operation is denied while it is under way. -/
theorem denial_is_final_biCurBacket :
    let d : Dispatcher := { ttl := 60000000 }
    let entry : Act := .plant (Operation.biCurBacket.cacheKey []) 3
    let during : List Act := [.deny "MainInfoXML", .poll 0 (some { answer := .ok [] })]
    let w := (initial 0 (.ofText "DVXML BiCurBacketXML") 0 0).play d [entry]
    w.shelf.denied.contains "BiCurBacketXML" = true ∧
    w.shelf.denied.contains "MainInfoXML" = false ∧
    (∃ r, ((w.start d .biCurBacket [] .fresh {}).play d during).runs[0]? = some r ∧
      r.call = none ∧ r.ending = some (0, .error (.prohibited "BiCurBacketXML"))) ∧
    ∃ r, ((w.start d .mainInfo [] .cached {}).play d during).runs[0]? = some r ∧
      ¬ r.IsRefused := by
  intro d entry during w
  have denied : w.shelf.denied.contains "BiCurBacketXML" = true := by decide +kernel
  have permitted : w.shelf.denied.contains "MainInfoXML" = false := by decide +kernel
  obtain ⟨_, _, r, found, _, _, _, refused, _⟩ :=
    denial_is_final d 0 "DVXML BiCurBacketXML" 0 0 [entry] during .biCurBacket [] .fresh {}
  obtain ⟨_, _, r', found', _, _, _, _, goesOn⟩ :=
    denial_is_final d 0 "DVXML BiCurBacketXML" 0 0 [entry] during .mainInfo [] .cached {}
  obtain ⟨uncalled, ended, _⟩ := refused denied
  exact ⟨denied, permitted, ⟨r, found, uncalled, ended⟩, r', found', goesOn permitted⟩

end Scene

end Traffic

end SoapGateway
