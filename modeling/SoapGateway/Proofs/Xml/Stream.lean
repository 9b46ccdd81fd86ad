import SoapGateway.Proofs.Text.Blank
import SoapGateway.Proofs.Xml.Events
import SoapGateway.Xml.Locate

/-!
# Reading on

An event is read from the text that it covers and from nothing after it: whatever follows, it stays
what it is. Only a piece of text may grow, and only where it is the last. So the events up to any
markup are those of every longer document as well, whether or not the rest can be read, and a part
of a document is read alone as it is read in its place, as long as it closes no element around it.
-/
namespace SoapGateway.Xml

/-! Markup. -/

/-- What stands between the angle brackets of an event, as far as the event tells. -/
def Event.Encloses (e : Event) (content : List Char) : Prop :=
  match e with
  | .text _ => False
  | .start tag => content = tag
  | .empty tag => content = tag ++ ['/']
  | _ => True

theorem cutTag_ok {quote : Option Char} {acc s content rest : List Char}
    (cut : cutTag quote acc s = some (content, rest)) :
    ∃ read, content = acc.reverse ++ read ∧ s = read ++ '>' :: rest ∧
      ∀ v, cutTag quote acc (read ++ '>' :: v) = some (content, v) := by
  induction s generalizing quote acc with
  | nil => cases cut
  | cons c s ih =>
    -- One more character is taken, wherever the next one is looked for.
    have more {quote' : Option Char} (cut : cutTag quote' (c :: acc) s = some (content, rest))
        (step : ∀ v, cutTag quote acc (c :: v) = cutTag quote' (c :: acc) v) :
        ∃ read, content = acc.reverse ++ read ∧ c :: s = read ++ '>' :: rest ∧
          ∀ v, cutTag quote acc (read ++ '>' :: v) = some (content, v) := by
      obtain ⟨read, shape, split, stable⟩ := ih cut
      refine ⟨c :: read, by simp [shape], by rw [split]; rfl, fun v => ?_⟩
      rw [List.cons_append, step, stable]
    cases quote with
    | some q => exact more cut fun v => rfl
    | none =>
      rw [cutTag] at cut
      split at cut
      · next closing =>
        cases cut
        refine ⟨[], by simp, by simp [closing], fun v => ?_⟩
        rw [List.nil_append, cutTag]
        exact if_pos rfl
      · next unclosed =>
        refine more cut fun v => ?_
        rw [cutTag]
        exact if_neg unclosed

theorem cutWhere_ok {closes : List Char → Bool} {acc s content rest : List Char}
    (cut : cutWhere closes acc s = some (content, rest)) :
    ∃ read, content = acc.reverse ++ read ∧ s = read ++ '>' :: rest ∧
      ∀ v, cutWhere closes acc (read ++ '>' :: v) = some (content, v) := by
  induction s generalizing acc with
  | nil => cases cut
  | cons c s ih =>
    rw [cutWhere] at cut
    split at cut
    · next closing =>
      cases cut
      refine ⟨[], by simp, by simp [closing.1], fun v => ?_⟩
      rw [List.nil_append, cutWhere, if_pos ⟨rfl, closing.2⟩]
    · next unclosed =>
      obtain ⟨read, shape, split, stable⟩ := ih cut
      refine ⟨c :: read, by simp [shape], by rw [split]; rfl, fun v => ?_⟩
      rw [List.cons_append, cutWhere, if_neg unclosed, stable]

/-- A cut at a closing bracket, which is found again whatever stands behind it. -/
def Cuts (cut : List Char → Option (List Char × List Char)) : Prop :=
  ∀ s content rest, cut s = some (content, rest) →
    s = content ++ '>' :: rest ∧ ∀ v, cut (content ++ '>' :: v) = some (content, v)

theorem cuts_tag : Cuts (cutTag none []) := by
  intro s content rest cut
  obtain ⟨_, rfl, split, stable⟩ := cutTag_ok cut
  exact ⟨split, stable⟩

theorem cuts_where (closes : List Char → Bool) : Cuts (cutWhere closes []) := by
  intro s content rest cut
  obtain ⟨_, rfl, split, stable⟩ := cutWhere_ok cut
  exact ⟨split, stable⟩

/-- A cut lies behind what has no closing bracket in it. -/
theorem cut_behind {start s content rest : List Char} (plain : '>' ∉ start)
    (split : start ++ s = content ++ '>' :: rest) : ∃ inside, content = start ++ inside := by
  rcases List.append_eq_append_iff.mp split with ⟨w, rfl, _⟩ | ⟨w, rfl, tail⟩
  · exact ⟨w, rfl⟩
  · cases w with
    | nil => exact ⟨[], by simp⟩
    | cons c w =>
      obtain rfl : '>' = c := (List.cons.inj tail).1
      exact absurd (by simp) plain

/-- How markup is read, whatever stands behind it. -/
def ReadsAs (s : List Char) (e : Event) : Prop :=
  ∃ content rest, s = content ++ '>' :: rest ∧ e.Encloses content ∧
    ∀ v, markup (content ++ '>' :: v) = ⟨.ok e, content ++ ['>'], v⟩

/-- Markup that is told by its beginning and read off its cut. -/
theorem Cuts.readsAs {cut : List Char → Option (List Char × List Char)}
    {start s content rest : List Char} {e : Event} (cuts : Cuts cut) (plain : '>' ∉ start)
    (found : cut (start ++ s) = some (content, rest)) (encloses : e.Encloses content)
    (reads : ∀ w v, cut (start ++ w) = some (content, v) →
      markup (start ++ w) = ⟨.ok e, content ++ ['>'], v⟩) : ReadsAs (start ++ s) e := by
  obtain ⟨split, stable⟩ := cuts _ content rest found
  refine ⟨content, rest, split, encloses, fun v => ?_⟩
  obtain ⟨inside, shape⟩ := cut_behind plain split
  have again := stable v
  rw [shape, List.append_assoc] at again ⊢
  rw [← shape] at again
  rw [reads _ v again, shape]

theorem readsAs_comment {s : List Char} {e : Event} (ok : (bang ('!' :: '-' :: s)).event = .ok e) :
    ReadsAs ('!' :: '-' :: s) e := by
  simp only [bang, List.drop_one, List.tail_cons] at ok
  split at ok
  · cases ok
  · next content rest cut =>
    split at ok
    · next opening =>
      cases ok
      have plain : '>' ∉ ['!', '-'] := by decide
      refine (cuts_where closesComment).readsAs plain cut trivial fun w v again => ?_
      simp only [List.cons_append, List.nil_append] at again ⊢
      simp only [markup, bang, List.drop_one, List.tail_cons, again, if_pos opening]
    · cases ok

theorem readsAs_cdata {s : List Char} {e : Event} (ok : (bang ('!' :: '[' :: s)).event = .ok e) :
    ReadsAs ('!' :: '[' :: s) e := by
  simp only [bang, List.drop_one, List.tail_cons] at ok
  split at ok
  · cases ok
  · next content rest cut =>
    split at ok
    · next opening =>
      cases ok
      have plain : '>' ∉ ['!', '['] := by decide
      refine (cuts_where closesCdata).readsAs plain cut trivial fun w v again => ?_
      simp only [List.cons_append, List.nil_append] at again ⊢
      simp only [markup, bang, List.drop_one, List.tail_cons, again, if_pos opening]
    · cases ok

theorem readsAs_doctype {d : Char} {s : List Char} {e : Event} (comment : d ≠ '-') (cdata : d ≠ '[')
    (ok : (bang ('!' :: d :: s)).event = .ok e) : ReadsAs ('!' :: d :: s) e := by
  simp only [bang, List.drop_one, List.tail_cons] at ok
  split at ok
  · next letter =>
    split at ok
    · cases ok
    · next content rest cut =>
      split at ok
      · cases ok
      · next keyword =>
        split at ok
        · cases ok
        · next named =>
          cases ok
          have plain : '>' ∉ ['!', d] := by
            rcases letter with rfl | rfl <;> decide
          refine (cuts_where closesDoctype).readsAs plain cut trivial fun w v again => ?_
          simp only [List.cons_append, List.nil_append] at again ⊢
          simp only [markup, bang, List.drop_one, List.tail_cons, if_pos letter, again,
            if_neg keyword, if_neg named]
  · cases ok

theorem readsAs_of_bang {s : List Char} {e : Event} (ok : (bang ('!' :: s)).event = .ok e) :
    ReadsAs ('!' :: s) e := by
  cases s with
  | nil => cases ok
  | cons d s =>
    by_cases comment : d = '-'
    · subst comment
      exact readsAs_comment ok
    · by_cases cdata : d = '['
      · subst cdata
        exact readsAs_cdata ok
      · exact readsAs_doctype comment cdata ok

theorem readsAs_stop {s : List Char} {e : Event} (ok : (markup ('/' :: s)).event = .ok e) :
    ReadsAs ('/' :: s) e := by
  simp only [markup] at ok
  split at ok
  · cases ok
  · next content rest cut =>
    cases ok
    have plain : '>' ∉ ['/'] := by decide
    refine cuts_tag.readsAs plain cut trivial fun w v again => ?_
    simp only [List.cons_append, List.nil_append] at again ⊢
    simp only [markup, again]

theorem readsAs_instruction {s : List Char} {e : Event} (ok : (markup ('?' :: s)).event = .ok e) :
    ReadsAs ('?' :: s) e := by
  simp only [markup] at ok
  split at ok
  · cases ok
  · next content rest cut =>
    split at ok
    · next more =>
      cases ok
      have plain : '>' ∉ ['?'] := by decide
      refine (cuts_where closesInstruction).readsAs plain cut trivial fun w v again => ?_
      simp only [List.cons_append, List.nil_append] at again ⊢
      simp only [markup, again, if_pos more]
    · cases ok

theorem readsAs_tag {c : Char} {s : List Char} {e : Event} (bang : c ≠ '!') (stop : c ≠ '/')
    (instruction : c ≠ '?') (ok : (markup (c :: s)).event = .ok e) : ReadsAs (c :: s) e := by
  rw [markup_tag bang stop instruction] at ok
  split at ok
  · cases ok
  · next content rest cut =>
    obtain ⟨split, stable⟩ := cuts_tag _ content rest cut
    have reads (v : List Char) : markup (content ++ '>' :: v) =
        if content.getLast? = some '/' then ⟨.ok (.empty content.dropLast), content ++ ['>'], v⟩
        else ⟨.ok (.start content), content ++ ['>'], v⟩ := by
      have again := stable v
      -- A tag may be empty; then it is its closing bracket that is read first.
      cases content with
      | nil =>
        rw [List.nil_append] at again ⊢
        rw [markup_tag (by decide) (by decide) (by decide), again]
      | cons d content =>
        obtain rfl : c = d := (List.cons.inj split).1
        rw [List.cons_append] at again ⊢
        rw [markup_tag bang stop instruction, again]
    split at ok
    · next slash =>
      cases ok
      have encloses := (List.dropLast_append_getLast? _ slash).symm
      exact ⟨content, rest, split, encloses, fun v => (reads v).trans (if_pos slash)⟩
    · next unclosed =>
      cases ok
      exact ⟨content, rest, split, rfl, fun v => (reads v).trans (if_neg unclosed)⟩

/-- Markup that is read is read from its own text. -/
theorem readsAs_of_markup {s : List Char} {e : Event} (ok : (markup s).event = .ok e) :
    ReadsAs s e := by
  cases s with
  | nil => cases ok
  | cons c s =>
    by_cases bang : c = '!'
    · subst bang
      exact readsAs_of_bang ok
    · by_cases stop : c = '/'
      · subst stop
        exact readsAs_stop ok
      · by_cases instruction : c = '?'
        · subst instruction
          exact readsAs_instruction ok
        · exact readsAs_tag bang stop instruction ok

/-! Events. -/

/-- What an event tells of its source: a text is its own, and markup stands in angle brackets. -/
def Token.Shaped (t : Token) : Prop :=
  t.event = .text t.source ∨
    ∃ content, t.source = '<' :: (content ++ ['>']) ∧ t.event.Encloses content

theorem nest_ok {names outer : List (List Char)} {e e' : Event}
    (nested : nest names e = (.ok e', outer)) : e' = e := by
  cases e with
  | stop name =>
    cases names with
    | nil => cases nested
    | cons expected names =>
      rw [nest] at nested
      split at nested
      · cases nested
        rfl
      · cases nested
  | start | text | empty | cdata | doctype | aside =>
    cases nested
    rfl

/-- Whether an event may end where a text goes on with `rest`: markup may anywhere, but a text only
where nothing follows or markup does. -/
def Token.EndsAt (t : Token) (rest : List Char) : Prop :=
  (∃ text, t.event = .text text) → Forest.Marked rest

theorem Token.endsAt_of_markup {t : Token} (markup : ∀ text, t.event ≠ .text text)
    (rest : List Char) : t.EndsAt rest := by
  rintro ⟨text, flat⟩
  exact absurd flat (markup text)

/-- An event is read from its own source, whatever follows it and whatever elements are open, if it
may stand there. -/
def Token.ReadsAlone (t : Token) : Prop :=
  ∀ names names' n rest, nest names t.event = (.ok t.event, names') → t.EndsAt rest →
    eventsFrom names (n + 1) (t.source ++ rest) = .ok t :: eventsFrom names' n rest

/-- How the next event is read. -/
theorem eventsFrom_next {names : List (List Char)} {n : Nat} {s : List Char} {t : Token}
    {more : List (Except MarkupFault Token)} (read : eventsFrom names n s = .ok t :: more) :
    t.Shaped ∧ t.ReadsAlone ∧ ∃ names' k rest, nest names t.event = (.ok t.event, names') ∧
      more = eventsFrom names' k rest ∧ s = t.source ++ rest ∧ t.source ≠ [] ∧ t.EndsAt rest := by
  cases n with
  | zero => cases read
  | succ n =>
    cases s with
    | nil => cases read
    | cons c s =>
      rw [eventsFrom] at read
      split at read
      · next opening =>
        subst opening
        dsimp only at read
        split at read
        · cases read
        · next e ok =>
          obtain ⟨content, rest, split, encloses, stable⟩ := readsAs_of_markup ok
          rw [split, stable] at read
          dsimp only at read
          split at read
          · next e' names' nested =>
            obtain rfl := nest_ok nested
            cases read
            refine ⟨.inr ⟨content, rfl, encloses⟩, fun others others' m v may _ => ?_, names', n,
              rest, nested, rfl, by simp [split], by simp, ?_⟩
            · dsimp only at may ⊢
              rw [List.cons_append, List.append_assoc, List.singleton_append, eventsFrom,
                if_pos rfl]
              simp only [stable, may]
            · rintro ⟨text, flat⟩
              dsimp only at flat
              rw [flat] at encloses
              exact encloses.elim
          · cases read
      · next plain =>
        cases read
        have flat : '<' ∉ c :: s.takeWhile (· != '<') := by
          rw [List.mem_cons, not_or]
          refine ⟨fun eq => plain eq.symm, fun member => ?_⟩
          simpa using List.mem_takeWhile_imp member
        refine ⟨.inl rfl, fun others others' m v may ends => ?_, names, n, s.dropWhile (· != '<'),
          rfl, rfl, ?_, by simp, fun _ => ?_⟩
        · cases may
          exact Forest.eventsFrom_text others m (by simp) flat (ends ⟨_, rfl⟩)
        · exact congrArg (c :: ·) List.takeWhile_append_dropWhile.symm
        · intro d first
          simpa using Text.dropWhile_stops (· != '<') s d first

/-- Events that end in markup are read again, whatever follows. -/
theorem eventsFrom_append {names : List (List Char)} {n : Nat} {s : List Char} {ts : List Token}
    {t : Token} {more : List (Except MarkupFault Token)}
    (read : eventsFrom names n s = ts.map .ok ++ .ok t :: more)
    (markup : ∀ text, t.event ≠ .text text) :
    (∀ t' ∈ ts ++ [t], t'.Shaped) ∧
      ∃ rest, s = (ts ++ [t]).flatMap (·.source) ++ rest ∧ ∀ u m, (s ++ u).length < m →
        ∃ more', eventsFrom names m (s ++ u) = ts.map .ok ++ .ok t :: more' := by
  induction ts generalizing names n s with
  | nil =>
    obtain ⟨shaped, alone, names', k, rest, may, -, split, -, -⟩ := eventsFrom_next read
    refine ⟨by simpa using shaped, rest, by simpa using split, fun u m enough => ?_⟩
    obtain ⟨m, rfl⟩ : ∃ m', m = m' + 1 := ⟨m - 1, by omega⟩
    rw [split, List.append_assoc]
    exact ⟨_, alone names names' m (rest ++ u) may (t.endsAt_of_markup markup _)⟩
  | cons first ts ih =>
    obtain ⟨shaped, alone, names', k, rest, may, after, split, full, ends⟩ := eventsFrom_next read
    obtain ⟨others, last, covered, again⟩ := ih after.symm
    have left : rest ≠ [] := by
      rintro rfl
      rw [Forest.eventsFrom_nil] at after
      cases ts <;> cases after
    refine ⟨?_, last, ?_, fun u m enough => ?_⟩
    · intro t' member
      rcases List.mem_cons.mp member with rfl | member
      · exact shaped
      · exact others t' member
    · rw [split, covered]
      simp
    · obtain ⟨m, rfl⟩ : ∃ m', m = m' + 1 := ⟨m - 1, by omega⟩
      have taken := List.length_pos_iff.mpr full
      rw [split, List.append_assoc, List.length_append] at enough
      obtain ⟨more', next⟩ := again u m (by omega)
      have endsStill : first.EndsAt (rest ++ u) := by
        intro flat c head
        rw [List.head?_append_of_ne_nil _ left] at head
        exact ends flat c head
      rw [split, List.append_assoc, alone names names' m (rest ++ u) may endsStill, next]
      exact ⟨more', rfl⟩

theorem length_dropMark_le (s : List Char) : (dropMark s).length ≤ s.length := by
  cases s with
  | nil => exact Nat.le_refl _
  | cons c s =>
    rw [dropMark]
    split
    · exact Nat.le_succ _
    · exact Nat.le_refl _

theorem dropMark_append {s : List Char} (full : s ≠ []) (u : List Char) :
    dropMark (s ++ u) = dropMark s ++ u := by
  cases s with
  | nil => exact absurd rfl full
  | cons c s =>
    rw [List.cons_append, dropMark, dropMark]
    split <;> rfl

end SoapGateway.Xml
