/-!
# Results that may fail

Where a result was changed or used for another one, and what came of it is known, so is what it was.
-/
namespace SoapGateway

variable {α β ε : Type} {r : Except ε α}

theorem map_eq_ok {f : α → β} {y : β} (mapped : r.map f = .ok y) : ∃ x, r = .ok x ∧ f x = y := by
  cases r with
  | error _ => cases mapped
  | ok x => exact ⟨x, rfl, Except.ok.inj mapped⟩

theorem map_eq_error {f : α → β} {e : ε} (mapped : r.map f = .error e) : r = .error e := by
  cases r with
  | error _ =>
    cases mapped
    rfl
  | ok _ => cases mapped

theorem bind_eq_ok {f : α → Except ε β} {y : β} (bound : r.bind f = .ok y) :
    ∃ x, r = .ok x ∧ f x = .ok y := by
  cases r with
  | error _ => cases bound
  | ok x => exact ⟨x, rfl, bound⟩

end SoapGateway
