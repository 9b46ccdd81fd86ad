import SoapGateway.Proofs.Xml.Pieces

/-!
# Records of any content

What a record holds once it has been read from siblings: for each of its fields the one element with
the name of the field, or the one run of such elements, and nothing where there is none. A second
element or run makes the reading fail, and what has no field makes no difference.
-/
namespace SoapGateway.Xml

open Cursor (before)

variable {α : Type} {limit : Nat} {trim : Bool} {name : List Char} {es : List Event}

/-- A reader in front of what is left of siblings, of which it has taken the first elements. -/
def Took (limit : Nat) (name : List Char) (es : List Event) (o : Outline)
    (taken : List (List Char × Outline)) (c : Cursor) : Prop :=
  ∃ (left : Outline) (trim : Bool), c = left.reader limit trim name es ∧
    o.elements = taken ++ left.elements ∧ left.spread.length < o.spread.length

/-- What a field reader makes of the elements that it takes: all have the name of the first. -/
def FieldReader.Takes (field : FieldReader α) (limit : Nat)
    (means : List (List Char × Outline) → α → Prop) : Prop :=
  ∀ o trim name es parent tag inner rest x c, Outline.next trim o = .ok (.start tag inner rest) →
    o.spread.length < limit → field.ofElements parent (o.reader limit trim name es) = .ok (x, c) →
    ∃ taken, means taken x ∧ Took limit name es o taken c ∧
      ∀ e ∈ taken, tagName e.1 = tagName tag

/-- What the field `key` holds after siblings have been read: what it held before if none of them
has its name, else what all that have it mean. -/
def Gains (means : List (List Char × Outline) → α → Prop) (key : String) (o : Outline)
    (fields parts : Fields α) : Prop :=
  (o.named key = [] ∧ parts.lookup key = fields.lookup key) ∨
    (fields.lookup key = none ∧ ∃ x, parts.lookup key = some x ∧ means (o.named key) x)

theorem named_eq (key : String) (tag : List Char) :
    (localName (tagName tag) == key.toList) = (String.ofList (localName (tagName tag)) == key) := by
  rw [Bool.eq_iff_iff, beq_iff_eq, beq_iff_eq]
  constructor
  · intro same
    rw [same, String.ofList_toList]
  · rintro rfl
    rw [String.toList_ofList]

theorem named_append {key : String} {o left : Outline} {taken : List (List Char × Outline)}
    (elements : o.elements = taken ++ left.elements) :
    o.named key = taken.filter (fun e => String.ofList (localName (tagName e.1)) == key) ++
      left.named key := by
  rw [Outline.named, elements, List.filter_append]
  simp only [named_eq, Outline.named]

/-- Siblings without an element of the name, in front of others. -/
theorem Gains.skip {means : List (List Char × Outline) → α → Prop} {key : String}
    {o left : Outline} {taken : List (List Char × Outline)} {fields parts : Fields α}
    (gains : Gains means key left fields parts) (elements : o.elements = taken ++ left.elements)
    (other : ∀ e ∈ taken, String.ofList (localName (tagName e.1)) ≠ key) :
    Gains means key o fields parts := by
  have nothing : taken.filter (fun e => String.ofList (localName (tagName e.1)) == key) = [] := by
    rw [List.filter_eq_nil_iff]
    intro e member same
    exact other e member (beq_iff_eq.mp same)
  have named : o.named key = left.named key := by
    rw [named_append elements, nothing, List.nil_append]
  rw [Gains, named]
  exact gains

/-- Elements that a field is read from, in front of siblings that have none of its name. -/
theorem Gains.take {means : List (List Char × Outline) → α → Prop} {key : String}
    {o left : Outline} {taken : List (List Char × Outline)} {fields parts : Fields α} {x : α}
    (gains : Gains means key left ((key, x) :: fields) parts) (fresh : fields.lookup key = none)
    (elements : o.elements = taken ++ left.elements) (meant : means taken x)
    (own : ∀ e ∈ taken, String.ofList (localName (tagName e.1)) = key) :
    Gains means key o fields parts := by
  have all : taken.filter (fun e => String.ofList (localName (tagName e.1)) == key) = taken := by
    rw [List.filter_eq_self]
    intro e member
    exact beq_iff_eq.mpr (own e member)
  rcases gains with ⟨none, kept⟩ | ⟨missing, _⟩
  · have named : o.named key = taken := by
      rw [named_append elements, all, none, List.append_nil]
    rw [List.lookup_cons_self] at kept
    exact .inr ⟨fresh, x, kept, named ▸ meant⟩
  · rw [List.lookup_cons_self] at missing
    cases missing

theorem lookup_cons_ne {key other : String} (differs : other ≠ key) (x : α) (fields : Fields α) :
    ((key, x) :: fields).lookup other = fields.lookup other := by
  rw [List.lookup_cons, beq_eq_false_iff_ne.mpr differs]

theorem lookup_of_onlyOnce {fields : Fields α} {key : String}
    (once : onlyOnce fields key = .ok ()) : fields.lookup key = none := by
  rw [onlyOnce] at once
  split at once
  · cases once
  · next missing => exact Option.not_isSome_iff_eq_none.mp missing

/-- What content is read into, if it is read: the reader has passed the end tag around it, and every
field holds what all elements of its name mean. -/
theorem readContent_ok {keys : List String} {field : FieldReader α}
    {means : List (List Char × Outline) → α → Prop} (takes : field.Takes limit means)
    (textless : textKey ∉ keys) {parent : List Char} {o : Outline} {fields parts : Fields α}
    {n : Nat} {c : Cursor} (enough : o.spread.length < n) (room : o.spread.length < limit)
    (read : readContent keys field parent fields n (o.reader limit trim name es) =
      .ok (parts, c)) :
    c = before limit true es ∧ ∀ key ∈ keys, Gains means key o fields parts := by
  induction n generalizing o fields trim with
  | zero => exact absurd enough (Nat.not_lt_zero _)
  | succ n ih =>
    rw [readContent.eq_def] at read
    dsimp only at read
    have met := @Outline.reader_meets limit trim name es o room
    generalize (o.reader _ _ _ _).next = answer at met read
    cases met with
    | fault => cases read
    | stop _ childless =>
      cases read
      have none (key : String) : o.named key = [] := by
        rw [Outline.named, childless, List.filter_nil]
      exact ⟨rfl, fun key _ => .inl ⟨none key, rfl⟩⟩
    | @text s rest _ elements shorter =>
      dsimp only at read
      rw [if_neg textless] at read
      obtain ⟨passed, gains⟩ := ih (by omega) (by omega) read
      have same : o.elements = [] ++ rest.elements := elements
      exact ⟨passed, fun key member => (gains key member).skip same (by simp)⟩
    | @start tag inner rest ahead elements shorter =>
      dsimp only at read
      split at read
      · next known =>
        split at read
        · cases read
        · next once =>
          have fresh := lookup_of_onlyOnce once
          split at read
          · cases read
          · next x c' taking =>
            obtain ⟨taken, meant, ⟨left, trim', rfl, elements, shorter⟩, run⟩ :=
              takes o trim name es parent tag inner rest x c' ahead room taking
            obtain ⟨passed, gains⟩ := ih (by omega) (by omega) read
            have own : ∀ e ∈ taken, String.ofList (localName (tagName e.1)) =
                String.ofList (localName (tagName tag)) := by
              intro e member
              rw [run e member]
            refine ⟨passed, fun key member => ?_⟩
            -- The field has its value now: another element of its name would have been refused.
            by_cases asked : String.ofList (localName (tagName tag)) = key
            · subst asked
              exact (gains _ member).take fresh elements meant own
            · have other : ∀ e ∈ taken, String.ofList (localName (tagName e.1)) ≠ key :=
                fun e inside same => asked ((own e inside).symm.trans same)
              have rest := (gains key member).skip elements other
              rwa [Gains, lookup_cons_ne (Ne.symm asked)] at rest
      · next unknown =>
        split at read
        · cases read
        · next c' skipped =>
          have roomInner : inner.spread.length < limit := by omega
          obtain ⟨trim', rfl⟩ := Outline.skipElement_reader roomInner skipped
          obtain ⟨passed, gains⟩ := ih (o := rest) (by omega) (by omega) read
          have behind : o.elements = [(tag, inner)] ++ rest.elements := elements
          refine ⟨passed, fun key member => (gains key member).skip behind ?_⟩
          intro e inside same
          obtain rfl := List.mem_singleton.mp inside
          exact unknown (same ▸ member)

/-! Fields. -/

/-- A field of text takes one element and is the text of it. -/
theorem textField_takes : textField.Takes limit fun taken s =>
    ∃ tag inner u, taken = [(tag, inner)] ∧ inner.Spells u ∧ s = String.ofList u := by
  intro o trim name es parent tag inner rest s c ahead room read
  obtain ⟨⟨u, c'⟩, taken, same⟩ := map_eq_ok read
  obtain ⟨rfl, rfl⟩ := Prod.mk.inj same
  obtain ⟨spells, rfl⟩ := Outline.elementText_reader ahead room taken
  obtain ⟨elements, shorter⟩ := Outline.next_leaves ahead
  refine ⟨[(tag, inner)], ⟨tag, inner, u, rfl, spells, rfl⟩,
    ⟨rest, true, rfl, elements, by omega⟩, ?_⟩
  intro e member
  rw [List.mem_singleton.mp member]

/-- What is read of an element whose start tag has been taken: the reader passes its end tag, and
the value is what stands in the element. -/
def ReadsInside (row : List Char → Cursor → Except ContentFault (α × Cursor)) (limit : Nat)
    (means : Outline → α → Prop) : Prop :=
  ∀ (tag : List Char) (inner : Outline) (es : List Event) (x : α) (c : Cursor),
    inner.spread.length < limit → row tag (inner.reader limit true (tagName tag) es) = .ok (x, c) →
      c = before limit true es ∧ means inner x

/-- Elements with their records, in order. -/
def Lists (means : Outline → α → Prop) (taken : List (List Char × Outline)) (xs : List α) : Prop :=
  List.Forall₂ (fun e x => means e.2 x) taken xs

section Run

variable {row : List Char → Cursor → Except ContentFault (α × Cursor)} {means : Outline → α → Prop}
  {record : String} {own parent : List Char} {acc all : List α} {n : Nat} {c : Cursor}

/-- A run takes an element of its name, and goes on behind it. -/
theorem readRun_start {o inner rest : Outline} {tag : List Char}
    (reads : ReadsInside row limit means) (room : o.spread.length < limit)
    (ahead : o.next trim = .ok (.start tag inner rest)) (same : tagName tag = own)
    (read : readRun record row own parent acc (n + 1) (o.reader limit trim name es) =
      .ok (all, c)) :
    ∃ x, means inner x ∧
      readRun record row own parent (x :: acc) n (rest.reader limit true name es) =
        .ok (all, c) := by
  have length := (Outline.next_leaves ahead).2
  rw [readRun.eq_def] at read
  dsimp only at read
  rw [Outline.next_reader o room, ahead] at read
  dsimp only [Outline.Ahead.answer] at read
  rw [if_pos same] at read
  split at read
  · cases read
  · next x c' taking =>
    obtain ⟨rfl, meant⟩ := reads tag inner (rest.spread ++ .stop name :: es) x c' (by omega) taking
    exact ⟨x, meant, read⟩

/-- What has come of a run of records in front of siblings: it has taken elements of its name, and
has a record for each behind those it had. -/
def Ran (limit : Nat) (name : List Char) (es : List Event) (means : Outline → α → Prop)
    (own : List Char) (acc : List α) (o : Outline) (all : List α) (c : Cursor) : Prop :=
  ∃ taken xs, all = acc.reverse ++ xs ∧ Lists means taken xs ∧ (∀ e ∈ taken, tagName e.1 = own) ∧
    ∃ (left : Outline) (trim : Bool), c = left.reader limit trim name es ∧
      o.elements = taken ++ left.elements ∧ left.spread.length ≤ o.spread.length

theorem ran_none (o : Outline) :
    Ran limit name es means own acc o acc.reverse (o.reader limit trim name es) :=
  ⟨[], [], (List.append_nil _).symm, .nil, by simp, o, trim, rfl, rfl, Nat.le_refl _⟩

theorem Ran.more {o inner rest : Outline} {tag : List Char} {x : α}
    (ran : Ran limit name es means own (x :: acc) rest all c) (meant : means inner x)
    (same : tagName tag = own) (elements : o.elements = (tag, inner) :: rest.elements)
    (shorter : rest.spread.length ≤ o.spread.length) : Ran limit name es means own acc o all c := by
  obtain ⟨taken, xs, rfl, lists, names, left, trim, rfl, behind, length⟩ := ran
  refine ⟨(tag, inner) :: taken, x :: xs, by simp, .cons meant lists,
    List.forall_mem_cons.mpr ⟨same, names⟩, left, trim, rfl, ?_, length.trans shorter⟩
  rw [elements, behind]
  rfl

/-- A run of records takes elements of one name, and has a record for each. -/
theorem readRun_ok {o : Outline} (reads : ReadsInside row limit means)
    (enough : o.spread.length < n) (room : o.spread.length < limit)
    (read : readRun record row own parent acc n (o.reader limit trim name es) = .ok (all, c)) :
    Ran limit name es means own acc o all c := by
  induction n generalizing o acc trim with
  | zero => exact absurd enough (Nat.not_lt_zero _)
  | succ n ih =>
    have started := read
    rw [readRun.eq_def] at read
    dsimp only at read
    have met := @Outline.reader_meets limit trim name es o room
    generalize (o.reader _ _ _ _).next = answer at met read
    cases met with
    | fault => cases read
    | stop =>
      cases read
      exact ran_none o
    | text => cases read
    | @start tag inner rest ahead elements shorter =>
      by_cases same : tagName tag = own
      · obtain ⟨x, meant, later⟩ := readRun_start reads room ahead same started
        exact (ih (by omega) (by omega) later).more meant same elements (by omega)
      · dsimp only at read
        rw [if_neg same] at read
        cases read
        exact ran_none o

/-- A field of records takes a run of elements, and has a record for each. -/
theorem runField_takes (record : String) (reads : ReadsInside row limit means) :
    (runField record row).Takes limit (Lists means) := by
  intro o trim name es parent tag inner rest xs c ahead room read
  obtain ⟨elements, shorter⟩ := Outline.next_leaves ahead
  rw [runField] at read
  dsimp only at read
  rw [Outline.next_reader o room, ahead, Outline.limit_reader] at read
  dsimp only [Outline.Ahead.answer] at read
  obtain ⟨n, rfl⟩ : ∃ n, limit = n + 1 := ⟨limit - 1, by omega⟩
  obtain ⟨x, meant, later⟩ := readRun_start reads room ahead rfl read
  obtain ⟨taken, xs, rfl, lists, names, left, trim', rfl, behind, length⟩ :=
    readRun_ok reads (by omega) (by omega) later
  refine ⟨(tag, inner) :: taken, .cons meant lists, ⟨left, trim', rfl, ?_, by omega⟩,
    List.forall_mem_cons.mpr ⟨rfl, names⟩⟩
  rw [elements, behind]
  rfl

end Run

/-! Records. -/

/-- Attributes make no difference where no field has the name of one. -/
theorem readAttributes_plain {keys : List String} {field : FieldReader α}
    {attrs : List (Except AttributeFault Attribute)} {fields parts : Fields α}
    (plain : ∀ key ∈ keys, isName key.toList = true)
    (read : readAttributes keys field fields attrs = .ok parts) : parts = fields := by
  induction attrs with
  | nil => exact (Except.ok.inj read).symm
  | cons a attrs ih =>
    cases a with
    | error f => cases read
    | ok a =>
      have foreign : String.ofList ('@' :: attributeKey a.name) ∉ keys := by
        intro member
        have named := plain _ member
        rw [String.toList_ofList, isName, Bool.and_eq_true] at named
        exact absurd named.1 (by decide)
      rw [readAttributes, if_neg foreign] at read
      exact ih read

/-- What a record is read into, once its start tag has been taken. -/
theorem readFields_ok {keys : List String} {field : FieldReader α}
    {means : List (List Char × Outline) → α → Prop} (takes : field.Takes limit means)
    (plain : ∀ key ∈ keys, isName key.toList = true)
    {tag : List Char} {inner : Outline} {parts : Fields α} {c : Cursor}
    (room : inner.spread.length < limit)
    (read : readFields keys field tag (inner.reader limit true (tagName tag) es) =
      .ok (parts, c)) :
    c = before limit true es ∧ ∀ key ∈ keys, Gains means key inner [] parts := by
  rw [readFields] at read
  split at read
  · cases read
  · next fields attributes =>
    obtain rfl := readAttributes_plain plain attributes
    rw [Outline.limit_reader] at read
    have textless : textKey ∉ keys := fun member => absurd (plain _ member) (by decide)
    exact readContent_ok takes textless room room read

end SoapGateway.Xml
