import SoapGateway.Proofs.Dispatcher
import SoapGateway.Session

/-!
# Whole runs

A run with nothing else going on ends before its call, or makes the one call and ends after it. What
it does to the cache outside its own key is nothing.
-/
namespace SoapGateway.Dispatcher

open Calendar (Instant)

variable {d : Dispatcher} {w : Session} {expired : Bool} {o : Operation} {body : List UInt8}
  {mode : Mode} {wait : SoapRequest → Awaited} {served : Served o}

/-- How a whole run can come out. -/
inductive Course (d : Dispatcher) (w : Session) (expired : Bool) (o : Operation)
    (body : List UInt8) (mode : Mode) (wait : SoapRequest → Awaited) : Served o → Prop
  | short {shelf : Shelf} {result : Result o}
      (begun : Beginning d w.shelf w.clock o body expired mode shelf (.finished result)) :
    Course d w expired o body mode wait ⟨⟨shelf, w.clock⟩, [], result⟩
  | long {shelf shelf' : Shelf} {call : SoapRequest} {result : Result o}
      (begun : Beginning d w.shelf w.clock o body expired mode shelf (.calling call))
      (finish : Finish shelf (wait call).clock o body (wait call).expired (wait call).outcome
        shelf' result) :
    Course d w expired o body mode wait ⟨⟨shelf', (wait call).clock⟩, [call], result⟩

theorem run_cases (d : Dispatcher) (w : Session) (expired : Bool) (o : Operation)
    (body : List UInt8) (mode : Mode) (wait : SoapRequest → Awaited) :
    Course d w expired o body mode wait (d.run w expired o body mode wait) := by
  have begun := begin_cases d w.shelf w.clock expired o body mode
  unfold run
  split
  · next eq =>
    rw [eq] at begun
    exact .short begun
  · next eq =>
    rw [eq] at begun
    exact .long begun (finish_cases _ _ _ _ _ _)

/-- A run that ends before its call is the first half alone. -/
theorem run_of_beginning {shelf : Shelf} {result : Result o}
    (begun : Beginning d w.shelf w.clock o body expired mode shelf (.finished result)) :
    d.run w expired o body mode wait = ⟨⟨shelf, w.clock⟩, [], result⟩ := by
  rw [run, begun.begin_eq]

/-- A run that makes its call goes on with what has come of the wait. -/
theorem run_of_calling {shelf : Shelf} {call : SoapRequest}
    (begun : Beginning d w.shelf w.clock o body expired mode shelf (.calling call)) :
    d.run w expired o body mode wait =
      let (shelf', result) :=
        finish shelf (wait call).clock (wait call).expired o body (wait call).outcome
      ⟨⟨shelf', (wait call).clock⟩, [call], result⟩ := by
  rw [run, begun.begin_eq]

theorem swept_denied (s : Shelf) (o : Operation) (body : List UInt8) (mode : Mode) :
    (swept s o body mode).denied = s.denied := by
  cases mode <;> rfl

/-- A sweep leaves other keys alone. -/
theorem get?_swept {s : Shelf} {k : CacheKey} (other : k ≠ o.cacheKey body) (mode : Mode) :
    (swept s o body mode).cache.get? k = s.cache.get? k := by
  cases mode with
  | cached => rfl
  | fresh => rw [swept, Shelf.invalidate_cache, Cache.get?_erase, if_neg other]

theorem Beginning.shelf_cases {s s' : Shelf} {now : Instant} {b : Begun o}
    (begun : Beginning d s now o body expired mode s' b) :
    s' = s ∨ s' = swept s o body mode := by
  cases begun with
  | expired => exact .inl rfl
  | prohibited => exact .inl rfl
  | refused => exact .inr rfl
  | hit => exact .inl rfl
  | unwritten => exact .inr rfl
  | calling => exact .inr rfl

theorem Finish.shelf_cases {s s' : Shelf} {now : Instant} {outcome : CallOutcome}
    {result : Result o} (finish : Finish s now o body expired outcome s' result) :
    s' = s ∨ ∃ r, s' = s.store o body r now := by
  cases finish with
  | failed => exact .inl rfl
  | late => exact .inl rfl
  | done => exact .inr ⟨_, rfl⟩

/-- The first half of a run denies nothing and permits nothing. -/
theorem Beginning.denied_eq {s s' : Shelf} {now : Instant} {b : Begun o}
    (begun : Beginning d s now o body expired mode s' b) : s'.denied = s.denied := by
  rcases begun.shelf_cases with rfl | rfl
  · rfl
  · exact swept_denied s o body mode

theorem Beginning.closed {P : Cache Stored → Prop} {s s' : Shelf} {now : Instant} {b : Begun o}
    (begun : Beginning d s now o body expired mode s' b) (closed : Cache.Closed P)
    (holds : P s.cache) : P s'.cache := by
  rcases begun.shelf_cases with rfl | rfl
  · exact holds
  · cases mode with
    | cached => exact holds
    | fresh => exact closed.erase (o.cacheKey body) holds

theorem Finish.closed {P : Cache Stored → Prop} {s s' : Shelf} {now : Instant}
    {outcome : CallOutcome} {result : Result o}
    (finish : Finish s now o body expired outcome s' result) (closed : Cache.Closed P)
    (holds : P s.cache) : P s'.cache := by
  rcases finish.shelf_cases with rfl | ⟨r, rfl⟩
  · exact holds
  · unfold Shelf.store
    split
    · next stored => exact closed.put holds stored
    · exact holds

end SoapGateway.Dispatcher

namespace SoapGateway.Shelf

variable {s : Shelf} {o : Operation} {body : List UInt8}

theorem store_denied (s : Shelf) (o : Operation) (body : List UInt8)
    (r : Response o.descriptor.response) (now : Calendar.Instant) :
    (s.store o body r now).denied = s.denied := by
  rcases s.store_cases o body r now with same | ⟨denied, _⟩
  · rw [same]
  · exact denied

/-- A store leaves other keys alone. -/
theorem get?_store_other {k : CacheKey} (other : k ≠ o.cacheKey body)
    (r : Response o.descriptor.response) (now : Calendar.Instant) :
    (s.store o body r now).cache.get? k = s.cache.get? k := by
  rcases s.store_cases o body r now with same | ⟨_, keys⟩
  · rw [same]
  · rw [keys, if_neg other]

/-- A response is stored unless its key is new and the cache full. -/
theorem get?_store (room : ¬ s.cache.Refuses (o.cacheKey body))
    (r : Response o.descriptor.response) (now : Calendar.Instant) :
    (s.store o body r now).cache.get? (o.cacheKey body) = some ⟨.response o r, now⟩ := by
  have stored := Cache.put_ok room ⟨.response o r, now⟩
  have shown := Cache.get?_put stored (o.cacheKey body)
  rw [if_pos rfl] at shown
  rw [store, stored]
  exact shown

theorem store_full (absent : s.cache.get? (o.cacheKey body) = none) (full : s.cache.IsFull)
    (r : Response o.descriptor.response) (now : Calendar.Instant) : s.store o body r now = s := by
  rw [store, Cache.put_full absent full]

end SoapGateway.Shelf

namespace SoapGateway.Dispatcher

/-- The end of a run denies nothing and permits nothing. -/
theorem Finish.denied_eq {s s' : Shelf} {now : Calendar.Instant} {o : Operation}
    {body : List UInt8} {expired : Bool} {outcome : CallOutcome} {result : Result o}
    (finish : Finish s now o body expired outcome s' result) : s'.denied = s.denied := by
  rcases finish.shelf_cases with rfl | ⟨r, rfl⟩
  · rfl
  · exact s.store_denied o body r now

end SoapGateway.Dispatcher

namespace SoapGateway.Dispatcher.Course

variable {d : Dispatcher} {w : Session} {expired : Bool} {o : Operation} {body : List UInt8}
  {mode : Mode} {wait : SoapRequest → Awaited} {served : Served o}

/-- What a run leaves is the shelf it found, or a swept one, with or without a response stored. -/
theorem shelf_cases (course : Course d w expired o body mode wait served) :
    ∃ shelf, (shelf = w.shelf ∨ shelf = swept w.shelf o body mode) ∧
      (served.after.shelf = shelf ∨
        ∃ r, served.after.shelf = shelf.store o body r served.after.clock) := by
  cases course with
  | short begun => exact ⟨_, begun.shelf_cases, .inl rfl⟩
  | long begun finish => exact ⟨_, begun.shelf_cases, finish.shelf_cases⟩

/-- A run denies nothing and permits nothing. -/
theorem denied (course : Course d w expired o body mode wait served) :
    served.after.shelf.denied = w.shelf.denied := by
  cases course with
  | short begun => exact begun.denied_eq
  | long begun finish => exact finish.denied_eq.trans begun.denied_eq

/-- What no use of the cache breaks, no run breaks. -/
theorem closed {P : Cache Stored → Prop} (course : Course d w expired o body mode wait served)
    (closed : Cache.Closed P) (holds : P w.shelf.cache) : P served.after.shelf.cache := by
  cases course with
  | short begun => exact begun.closed closed holds
  | long begun finish => exact finish.closed closed (begun.closed closed holds)

/-- A run leaves other keys alone. -/
theorem get?_other (course : Course d w expired o body mode wait served) {k : CacheKey}
    (other : k ≠ o.cacheKey body) :
    served.after.shelf.cache.get? k = w.shelf.cache.get? k := by
  obtain ⟨shelf, first, second⟩ := course.shelf_cases
  have kept : shelf.cache.get? k = w.shelf.cache.get? k := by
    rcases first with rfl | rfl
    · rfl
    · exact get?_swept other mode
  rcases second with same | ⟨r, stored⟩
  · rw [same, kept]
  · rw [stored, Shelf.get?_store_other other, kept]

end SoapGateway.Dispatcher.Course
