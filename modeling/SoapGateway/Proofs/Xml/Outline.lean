import SoapGateway.Proofs.Outcome
import SoapGateway.Proofs.Xml.Search
import SoapGateway.Xml.Content
import SoapGateway.Xml.Outline

/-!
# The element that is cut out

The text of an element, cut out of any text, is read by itself as it was read in its place: from its
start tag to its own end tag, with the same siblings inside. So the events of what is located are
those of one outline.
-/
namespace SoapGateway.Xml

/-- The events that content is read from: an element of one tag gives two. -/
def Token.spread (t : Token) : List Event :=
  match t.event with
  | .empty tag => [.start tag, .stop (tagName tag)]
  | e => [e]

theorem Token.expand_eq (t : Token) : Cursor.expand (.ok t) = t.spread.map .ok := by
  rw [Cursor.expand, Token.spread]
  cases t.event <;> rfl

theorem expand_tokens (ts : List Token) :
    (ts.map .ok).flatMap Cursor.expand = (ts.flatMap Token.spread).map .ok := by
  rw [List.flatMap_map, List.map_flatMap]
  exact congrArg (List.flatMap · ts) (funext Token.expand_eq)

namespace Outline

/-- The events of siblings and of all that is in them. -/
def spread : Outline → List Event
  | nil => []
  | text s rest => .text s :: rest.spread
  | cdata s rest => .cdata s :: rest.spread
  | doctype rest => .doctype :: rest.spread
  | aside rest => .aside :: rest.spread
  | element tag inner rest => .start tag :: (inner.spread ++ .stop (tagName tag) :: rest.spread)

/-- Events that close the element `name` and before it those in `above`, innermost first, each after
what is left in it. -/
inductive Closes (name : List Char) : List (List Char) → List Outline → List Event → Prop
  | last (o : Outline) : Closes name [] [o] (o.spread ++ [.stop name])
  | more {inside : List Char} {above : List (List Char)} {levels : List Outline} {es : List Event}
    (o : Outline) (around : Closes name above levels es) :
    Closes name (inside :: above) (o :: levels) (o.spread ++ .stop inside :: es)

variable {name : List Char} {above : List (List Char)} {levels : List Outline} {es : List Event}

theorem Closes.onto {sibling : Outline → Outline} {first : List Event}
    (grows : ∀ o, (sibling o).spread = first ++ o.spread) (closes : Closes name above levels es) :
    Closes name above (Outline.onto sibling levels) (first ++ es) := by
  cases closes with
  | last o =>
    rw [← List.append_assoc, ← grows]
    exact .last (sibling o)
  | more o around =>
    rw [← List.append_assoc, ← grows]
    exact .more (sibling o) around

theorem Closes.last_cases (closes : Closes name [] levels es) :
    ∃ o, levels = [o] ∧ es = o.spread ++ [.stop name] := by
  cases closes with
  | last o => exact ⟨o, rfl, rfl⟩

/-- A start tag makes an element of the level that its end tag closes. -/
theorem Closes.start {tag : List Char} (closes : Closes name (tagName tag :: above) levels es) :
    ∃ inner after around, levels = inner :: after :: around ∧
      Closes name above (element tag inner after :: around) (.start tag :: es) := by
  have grows (inner after : Outline) (es : List Event) :
      .start tag :: (inner.spread ++ .stop (tagName tag) :: (after.spread ++ es)) =
        (element tag inner after).spread ++ es := by
    simp [spread]
  cases closes with
  | more inner closes =>
    cases closes with
    | last after =>
      refine ⟨inner, after, [], rfl, ?_⟩
      rw [grows]
      exact .last _
    | more after around =>
      refine ⟨inner, after, _, rfl, ?_⟩
      rw [grows]
      exact .more _ around

end Outline

/-- The tokens `ts` with the source `src`, read at the beginning of `s` inside the element `name`
and inside of `above`, which they close, and how they are read elsewhere. -/
structure Closed (name : List Char) (above : List (List Char)) (s src : List Char)
    (stream : List (Except MarkupFault Token)) (ts : List Token) (levels : List Outline) :
    Prop where
  begins : src <+: s
  full : src ≠ []
  outlined : Outline.levels? above.length stream = some levels
  closes : Outline.Closes name above levels (ts.flatMap Token.spread)
  alone : ∀ n, src.length < n → eventsFrom (above ++ [name]) n src = ts.map .ok

/-- One more event in front of the others. -/
theorem Closed.cons {name : List Char} {above above' : List (List Char)} {rest src : List Char}
    {stream : List (Except MarkupFault Token)} {t : Token} {ts : List Token}
    {levels levels' : List Outline} (later : Closed name above' rest src stream ts levels)
    (alone : t.ReadsAlone) (full : t.source ≠ []) (ends : t.EndsAt rest)
    (may : nest (above ++ [name]) t.event = (.ok t.event, above' ++ [name]))
    (grown : Outline.levels? above.length (.ok t :: stream) = some levels')
    (closes : Outline.Closes name above levels' (t.spread ++ ts.flatMap Token.spread)) :
    Closed name above (t.source ++ rest) (t.source ++ src) (.ok t :: stream) (t :: ts) levels' where
  begins := (List.prefix_append_right_inj t.source).mpr later.begins
  full := List.append_ne_nil_of_left_ne_nil full src
  outlined := grown
  closes := closes
  alone := by
    intro n enough
    have taken := List.length_pos_iff.mpr full
    rw [List.length_append] at enough
    obtain ⟨m, rfl⟩ : ∃ m, n = m + 1 := ⟨n - 1, by omega⟩
    have endsThere : t.EndsAt src := by
      intro flat c first
      refine ends flat c ?_
      obtain ⟨behind, split⟩ := later.begins
      rw [← split, List.head?_append_of_ne_nil _ later.full]
      exact first
    rw [alone _ _ m src may endsThere, later.alone m (by omega)]
    rfl

/-- One more event that opens and closes no element. -/
theorem Closed.flat {name : List Char} {above : List (List Char)} {rest src : List Char}
    {stream : List (Except MarkupFault Token)} {t : Token} {ts : List Token}
    {levels : List Outline} (later : Closed name above rest src stream ts levels)
    (alone : t.ReadsAlone) (full : t.source ≠ []) (ends : t.EndsAt rest)
    (may : nest (above ++ [name]) t.event = (.ok t.event, above ++ [name]))
    {sibling : Outline → Outline} (grows : ∀ o, (sibling o).spread = t.spread ++ o.spread)
    (grown : Outline.levels? above.length (.ok t :: stream) =
      (Outline.levels? above.length stream).map (Outline.onto sibling)) :
    Closed name above (t.source ++ rest) (t.source ++ src) (.ok t :: stream) (t :: ts)
      (Outline.onto sibling levels) := by
  refine later.cons alone full ends may ?_ (later.closes.onto grows)
  rw [grown, later.outlined]
  rfl

/-- The end tag of the element itself. -/
theorem closed_last {name source : List Char} (alone : (Token.mk (.stop name) source).ReadsAlone)
    (full : source ≠ []) (rest : List Char) (stream : List (Except MarkupFault Token)) :
    Closed name [] (source ++ rest) source (.ok ⟨.stop name, source⟩ :: stream)
      [⟨.stop name, source⟩] [.nil] where
  begins := List.prefix_append source rest
  full := full
  outlined := rfl
  closes := .last .nil
  alone := by
    intro n enough
    obtain ⟨m, rfl⟩ : ∃ m, n = m + 1 := ⟨n - 1, by omega⟩
    have closes : nest [name] (.stop name) = (.ok (.stop name), []) := if_pos rfl
    have last := alone [name] [] m [] closes (Token.endsAt_of_markup (by simp) [])
    rw [List.append_nil, Forest.eventsFrom_nil] at last
    exact last

/-- An end tag closes the innermost of the open elements. -/
theorem nest_stop {found inside : List Char} {around names : List (List Char)}
    (may : nest (inside :: around) (.stop found) = (.ok (.stop found), names)) :
    found = inside ∧ names = around := by
  rw [nest] at may
  split at may
  · next own => exact ⟨own, (Prod.mk.inj may).2.symm⟩
  · cases may

/-- The events up to the end tag of an element are those of the outlines inside it, and the same
when they are read by themselves. Elements of its name that are opened on the way are counted, so
that it is its own end tag. -/
theorem closed_of_untilEnd {name s src : List Char} {above outer : List (List Char)} {n : Nat}
    {stream : List (Except MarkupFault Token)}
    (read : eventsFrom (above ++ name :: outer) n s = stream)
    (ended : untilEnd name (above.count name) stream = .ok src) :
    ∃ ts levels, Closed name above s src stream ts levels := by
  induction stream generalizing above n s src with
  | nil => cases ended
  | cons next stream ih =>
    cases next with
    | error f => cases ended
    | ok t =>
      obtain ⟨_, alone, names', k, rest, may, after, split, full, ends⟩ := eventsFrom_next read
      obtain ⟨event, source⟩ := t
      subst split
      dsimp only at may alone ends full ⊢
      cases event with
      | text | cdata | doctype | aside | empty =>
        obtain rfl : names' = above ++ name :: outer := (Prod.mk.inj may).2.symm
        rw [Forest.untilEnd_flat (by simp) (by simp)] at ended
        obtain ⟨src, later, rfl⟩ := map_eq_ok ended
        obtain ⟨ts, levels, closed⟩ := ih after.symm later
        exact ⟨_, _, closed.flat alone full ends rfl (fun _ => rfl) rfl⟩
      | start tag =>
        obtain rfl : names' = tagName tag :: (above ++ name :: outer) := (Prod.mk.inj may).2.symm
        have counted : (if tagName tag = name then above.count name + 1 else above.count name) =
            (tagName tag :: above).count name := by
          by_cases own : tagName tag = name
          · rw [if_pos own, own, List.count_cons_self]
          · rw [if_neg own, List.count_cons_of_ne own]
        rw [Forest.untilEnd_start, counted] at ended
        obtain ⟨src, later, rfl⟩ := map_eq_ok ended
        obtain ⟨ts, levels, closed⟩ := @ih _ _ (tagName tag :: above) _ after.symm later
        obtain ⟨inner, behind, around, rfl, closes⟩ := closed.closes.start
        have grown := closed.outlined
        rw [List.length_cons] at grown
        refine ⟨_, _, closed.cons alone full ends rfl ?_ closes⟩
        rw [Outline.levels?.eq_def]
        dsimp only
        rw [grown]
      | stop found =>
        rw [Forest.untilEnd_stop] at ended
        cases above with
        | nil =>
          obtain ⟨rfl, rfl⟩ := nest_stop may
          rw [if_pos rfl] at ended
          obtain rfl := Except.ok.inj ended
          exact ⟨_, _, closed_last alone full rest stream⟩
        | cons inside above =>
          obtain ⟨rfl, rfl⟩ := nest_stop may
          have inner : (untilEnd name (above.count name) stream).map (source ++ ·) = .ok src := by
            by_cases own : found = name
            · rw [if_pos own, own, List.count_cons_self] at ended
              exact ended
            · rw [if_neg own, List.count_cons_of_ne own] at ended
              exact ended
          obtain ⟨src, later, rfl⟩ := map_eq_ok inner
          obtain ⟨ts, levels, closed⟩ := ih after.symm later
          have grown : Outline.levels? (found :: above).length
              (.ok ⟨.stop found, source⟩ :: stream) = some (.nil :: levels) := by
            rw [List.length_cons, Outline.levels?.eq_def]
            dsimp only
            rw [closed.outlined]
            rfl
          have closes : nest (found :: above ++ [name]) (.stop found) =
              (.ok (.stop found), above ++ [name]) := if_pos rfl
          exact ⟨_, _, closed.cons alone full ends closes grown (.more .nil closed.closes)⟩

/-- A text that is read as one element, given what stands in it. -/
def IsElement (slice : List Char) (inner : Outline) : Prop :=
  ∃ (tag : List Char) (ts : List Token), slice.head? = some '<' ∧
    ts.flatMap Token.spread = (Outline.element tag inner .nil).spread ∧
    ∀ n, slice.length < n → eventsFrom [] n slice = ts.map .ok

theorem head?_of_markup {t : Token} (shaped : t.Shaped) (markup : ∀ text, t.event ≠ .text text) :
    t.source.head? = some '<' := by
  rcases shaped with text | ⟨content, source, _⟩
  · exact absurd text (markup _)
  · rw [source]
    rfl

/-- A start tag and what is read up to its end tag. -/
theorem Closed.isElement {tag source rest src : List Char}
    {stream : List (Except MarkupFault Token)} {ts : List Token} {levels : List Outline}
    (closed : Closed (tagName tag) [] rest src stream ts levels)
    (shaped : (Token.mk (.start tag) source).Shaped)
    (alone : (Token.mk (.start tag) source).ReadsAlone) (full : source ≠ []) :
    ∃ inner, levels = [inner] ∧ IsElement (source ++ src) inner := by
  obtain ⟨inner, rfl, events⟩ := closed.closes.last_cases
  refine ⟨inner, rfl, tag, ⟨.start tag, source⟩ :: ts, ?_, ?_, fun n enough => ?_⟩
  · rw [List.head?_append_of_ne_nil _ full]
    exact head?_of_markup shaped (by simp)
  · rw [List.flatMap_cons, events]
    rfl
  · obtain ⟨m, rfl⟩ : ∃ m, n = m + 1 := ⟨n - 1, by omega⟩
    have taken := List.length_pos_iff.mpr full
    rw [List.length_append] at enough
    rw [alone [] [tagName tag] m src rfl (Token.endsAt_of_markup (by simp) src)]
    exact congrArg (_ :: ·) (closed.alone m (by omega))

/-- An element of one tag. -/
theorem isElement_empty {tag source : List Char} (shaped : (Token.mk (.empty tag) source).Shaped)
    (alone : (Token.mk (.empty tag) source).ReadsAlone) : IsElement source .nil := by
  refine ⟨tag, [⟨.empty tag, source⟩], head?_of_markup shaped (by simp), rfl, fun n enough => ?_⟩
  obtain ⟨m, rfl⟩ : ∃ m, n = m + 1 := ⟨n - 1, by omega⟩
  have whole := alone [] [] m [] rfl (Token.endsAt_of_markup (by simp) [])
  rw [List.append_nil, Forest.eventsFrom_nil] at whole
  exact whole

/-- What is found is read as one element, in which there stands what stands in the first element
with the name. -/
theorem first?_of_find {target slice : List Char} {names : List (List Char)} {before k n : Nat}
    {s : List Char} {stream : List (Except MarkupFault Token)}
    (read : eventsFrom names n s = stream) (found : find target before stream = .ok (k, slice)) :
    ∃ inner, Outline.first? target stream = some inner ∧ IsElement slice inner := by
  induction stream generalizing names before n s with
  | nil => cases found
  | cons next stream ih =>
    cases next with
    | error f => cases found
    | ok t =>
      obtain ⟨shaped, alone, names', m, rest, may, after, split, full, ends⟩ := eventsFrom_next read
      obtain ⟨event, source⟩ := t
      rw [find.eq_def] at found
      rw [Outline.first?.eq_def]
      dsimp only at may alone ends found ⊢
      cases event with
      | text | cdata | doctype | aside | stop => exact ih after.symm found
      | start tag =>
        obtain rfl : names' = tagName tag :: names := (Prod.mk.inj may).2.symm
        dsimp only at found ⊢
        split at found
        · next own =>
          rw [if_pos own]
          split at found
          · next src ended =>
            obtain ⟨ts, levels, closed⟩ :=
              @closed_of_untilEnd _ _ _ [] names _ _ after.symm ended
            obtain ⟨inner, rfl, whole⟩ := closed.isElement shaped alone full
            obtain rfl : source ++ src = slice := (Prod.mk.inj (Except.ok.inj found)).2
            have outlined : Outline.levels? 0 stream = some [inner] := closed.outlined
            exact ⟨inner, by rw [outlined]; rfl, whole⟩
          · cases found
        · next other =>
          rw [if_neg other]
          exact ih after.symm found
      | empty tag =>
        obtain rfl : names' = names := (Prod.mk.inj may).2.symm
        dsimp only at found ⊢
        split at found
        · next own =>
          rw [if_pos own]
          obtain rfl : source = slice := (Prod.mk.inj (Except.ok.inj found)).2
          exact ⟨.nil, rfl, isElement_empty shaped alone⟩
        · next other =>
          rw [if_neg other]
          exact ih after.symm found

end SoapGateway.Xml
