import SoapGateway.Json.Grammar

/-!
# The grammar is unambiguous

The next character decides how to go on: a document is told from the others by its first one, and a
further part from the end by what comes after the gap.
-/
namespace SoapGateway.Json

/-- A text ends at one place and has one meaning. -/
theorem Spells.unique {s t t' rest rest' : List Char} (spells : Spells s t rest)
    (other : Spells s t' rest') : t = t' ∧ rest = rest' := by
  induction spells generalizing t' with
  | done =>
    cases other with
    | done => exact ⟨rfl, rfl⟩
    | more next => cases next
  | more next _ ih =>
    cases other with
    | done => cases next
    | more next' spells' =>
      obtain ⟨rfl, rfl⟩ := Prod.mk.inj (Option.some.inj (next.symm.trans next'))
      obtain ⟨rfl, rfl⟩ := ih spells'
      exact ⟨rfl, rfl⟩

/-- Only a comma is passed over before a part. -/
theorem part?_unless_comma {first : Bool} {s t rest : List Char} {c : Char}
    (next : part? first s = some t) (front : afterGap s = c :: rest) (other : c ≠ ',') :
    t = c :: rest := by
  cases first with
  | true => exact (Option.some.inj next).symm.trans front
  | false =>
    rw [part?, if_neg Bool.false_ne_true, front] at next
    simp [other] at next

theorem not_begins_bracket {s rest : List Char} {v : Value} : ¬ Begins (']' :: s) v rest := by
  intro begins
  cases begins with
  | word next => cases next

mutual

/-- Characters begin with one document at most, which ends at one place. -/
theorem Begins.unique {s rest rest' : List Char} {v v' : Value} (begins : Begins s v rest)
    (other : Begins s v' rest') : v = v' ∧ rest = rest' := by
  cases begins with
  | word next =>
    -- No word begins with the mark of a text, an array or an object.
    cases other with
    | word next' => exact Prod.mk.inj (Option.some.inj (next.symm.trans next'))
    | text => cases next
    | array => cases next
    | object => cases next
  | text spells =>
    cases other with
    | word next' => cases next'
    | text spells' =>
      obtain ⟨rfl, rfl⟩ := spells.unique spells'
      exact ⟨rfl, rfl⟩
  | array items =>
    cases other with
    | word next' => cases next'
    | array items' =>
      obtain ⟨rfl, rfl⟩ := items.unique items'
      exact ⟨rfl, rfl⟩
  | object members =>
    cases other with
    | word next' => cases next'
    | object members' =>
      obtain ⟨rfl, rfl⟩ := members.unique members'
      exact ⟨rfl, rfl⟩

theorem Lists.unique {first : Bool} {s rest rest' : List Char} {items items' : List Value}
    (listed : Lists first s items rest) (other : Lists first s items' rest') :
    items = items' ∧ rest = rest' := by
  cases listed with
  | done closed =>
    cases other with
    | done closed' => exact ⟨rfl, (List.cons.inj (closed.symm.trans closed')).2⟩
    | more next' item' _ =>
      rw [part?_unless_comma next' closed (by decide)] at item'
      exact absurd item' not_begins_bracket
  | more next item others =>
    cases other with
    | done closed' =>
      rw [part?_unless_comma next closed' (by decide)] at item
      exact absurd item not_begins_bracket
    | more next' item' others' =>
      obtain rfl := Option.some.inj (next.symm.trans next')
      obtain ⟨rfl, rfl⟩ := item.unique item'
      obtain ⟨rfl, rfl⟩ := others.unique others'
      exact ⟨rfl, rfl⟩

theorem Binds.unique {first : Bool} {s rest rest' : List Char}
    {members members' : List (String × Value)} (bound : Binds first s members rest)
    (other : Binds first s members' rest') : members = members' ∧ rest = rest' := by
  cases bound with
  | done closed =>
    cases other with
    | done closed' => exact ⟨rfl, (List.cons.inj (closed.symm.trans closed')).2⟩
    | more next' => cases part?_unless_comma next' closed (by decide)
  | more next spells colon value others =>
    cases other with
    | done closed' => cases part?_unless_comma next closed' (by decide)
    | more next' spells' colon' value' others' =>
      obtain rfl := (List.cons.inj (Option.some.inj (next.symm.trans next'))).2
      obtain ⟨rfl, rfl⟩ := spells.unique spells'
      obtain rfl := (List.cons.inj (colon.symm.trans colon')).2
      obtain ⟨rfl, rfl⟩ := value.unique value'
      obtain ⟨rfl, rfl⟩ := others.unique others'
      exact ⟨rfl, rfl⟩

end

/-- A text is one document at most. -/
theorem IsDocument.unique {s : List Char} {v v' : Value} (document : IsDocument s v)
    (other : IsDocument s v') : v = v' := by
  obtain ⟨_, begins, _⟩ := document
  obtain ⟨_, begins', _⟩ := other
  exact (begins.unique begins').1

end SoapGateway.Json
