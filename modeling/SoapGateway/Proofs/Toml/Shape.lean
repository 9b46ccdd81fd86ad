import SoapGateway.Toml.Shape

/-!
# Records are filled member by member

What a record takes from a table depends on the members that its fields know, each on its own. The
fields of a record that is part of another one can be seen as fields of the whole.
-/
namespace SoapGateway.Toml.RecordField

variable {σ τ : Type} {fields : List (RecordField σ)} {s : σ} {members : List (String × Value)}
  {name : String} {v : Value}

theorem putMembers_unknown (unknown : fields.find? (fun f => f.name == name) = none) :
    putMembers fields s ((name, v) :: members) = putMembers fields s members := by
  rw [putMembers, unknown]

theorem putMembers_known {f : RecordField σ}
    (found : fields.find? (fun f => f.name == name) = some f) {s' : σ} (fits : f.put s v = .ok s') :
    putMembers fields s ((name, v) :: members) = putMembers fields s' members := by
  rw [putMembers, found]
  dsimp only
  rw [fits]

/-- A member that no field knows makes no difference. -/
theorem putMembers_filter {p : String × Value → Bool}
    (passed : ∀ m, p m = false → fields.find? (fun f => f.name == m.1) = none)
    (s : σ) (members : List (String × Value)) :
    putMembers fields s (members.filter p) = putMembers fields s members := by
  induction members generalizing s with
  | nil => rfl
  | cons m members ih =>
    cases kept : p m with
    | false => rw [List.filter_cons_of_neg (by simp [kept]), ih, putMembers_unknown (passed m kept)]
    | true =>
      rw [List.filter_cons_of_pos kept, putMembers, putMembers]
      cases fields.find? (fun f => f.name == m.1) with
      | none => exact ih s
      | some f =>
        dsimp only
        cases f.put s m.2 with
        | error e => rfl
        | ok s' => exact ih s'

/-- Values that each field takes alike make no difference. -/
theorem putMembers_map {alike : String → Value → Value}
    (same : ∀ f ∈ fields, ∀ s v, f.put s (alike f.name v) = f.put s v)
    (s : σ) (members : List (String × Value)) :
    putMembers fields s (members.map fun m => (m.1, alike m.1 m.2)) =
      putMembers fields s members := by
  induction members generalizing s with
  | nil => rfl
  | cons m members ih =>
    rw [List.map_cons, putMembers, putMembers]
    cases found : fields.find? (fun f => f.name == m.1) with
    | none => exact ih s
    | some f =>
      have named := List.find?_some found
      dsimp only
      rw [← beq_iff_eq.mp named, same f (List.mem_of_find?_eq_some found)]
      cases f.put s m.2 with
      | error e => rfl
      | ok s' => exact ih s'

/-- A part of a record that can be taken out and put back. -/
structure IsPart (get : σ → τ) (put : σ → τ → σ) : Prop where
  get_put : ∀ s t, get (put s t) = t
  put_put : ∀ s t u, put (put s t) u = put s u
  put_get : ∀ s, put s (get s) = s

/-- A field of a part as a field of the whole. -/
def within (get : σ → τ) (put : σ → τ → σ) (f : RecordField τ) : RecordField σ :=
  ⟨f.name, fun s v => (f.put (get s) v).map (put s)⟩

/-- To fill a part is to fill the whole through the fields of the part. -/
theorem putMembers_within {get : σ → τ} {put : σ → τ → σ} (part : IsPart get put)
    (fields : List (RecordField τ)) (s : σ) (members : List (String × Value)) :
    (putMembers fields (get s) members).map (put s) =
      putMembers (fields.map (within get put)) s members := by
  induction members generalizing s with
  | nil => simp [putMembers, Except.map, part.put_get]
  | cons m members ih =>
    have found : (fields.map (within get put)).find? (fun f => f.name == m.1) =
        (fields.find? fun f => f.name == m.1).map (within get put) := by
      rw [List.find?_map]
      rfl
    rw [putMembers, putMembers, found]
    cases fields.find? (fun f => f.name == m.1) with
    | none => exact ih s
    | some f =>
      cases taken : f.put (get s) m.2 with
      | error e => simp [within, taken, Except.map]
      | ok t =>
        have next := ih (put s t)
        have same : put (put s t) = put s := funext (part.put_put s t)
        rw [part.get_put, same] at next
        simpa [within, taken, Except.map] using next

end SoapGateway.Toml.RecordField
