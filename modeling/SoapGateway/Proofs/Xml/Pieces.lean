import SoapGateway.Proofs.Xml.Content
import SoapGateway.Proofs.Xml.Outline

/-!
# Pieces of any content

What a reader of content takes next from an outline: the end tag around it, the start tag of a
child, or a run of texts. It depends on the outline alone, not on what follows the end tag, and
whatever is taken or passed over, the reader stands in front of what is left of the outline.
-/
namespace SoapGateway.Xml

open Cursor (before trimEnd)

namespace Outline

/-- Whether a text in front of these siblings is the last one of its run. -/
def endsText : Outline → Bool
  | text _ _ => false
  | cdata _ _ => false
  | aside rest => rest.endsText
  | _ => true

/-- The rest of a run of texts, and the siblings behind it. -/
def run : Outline → Except EscapeFault (List Char × Outline)
  | text s rest =>
    (unescape (trimEnd rest.endsText s)).bind fun s => rest.run.map (Prod.map (s ++ ·) id)
  | cdata s rest => rest.run.map (Prod.map (s ++ ·) id)
  | aside rest => rest.run
  | o => .ok ([], o)

/-- What comes next among siblings, with the siblings behind it. -/
inductive Ahead where
  | stop
  | start (tag : List Char) (inner rest : Outline)
  | text (s : List Char) (rest : Outline)

/-- A run of texts that begins with `s`, with the siblings behind it. -/
def Ahead.run (s : List Char) (rest : Outline) : Except EscapeFault Ahead :=
  rest.run.map fun r => .text (s ++ r.1) r.2

/-- What comes next among siblings; `trim` tells whether a text loses the white space at its
beginning. -/
def next (trim : Bool) : Outline → Except EscapeFault Ahead
  | nil => .ok .stop
  | element tag inner rest => .ok (.start tag inner rest)
  | doctype rest => rest.next true
  | aside rest => rest.next trim
  | cdata s rest => Ahead.run s rest
  | text s rest =>
    let kept := if trim then s.dropWhile isSpace else s
    if trim = true ∧ kept = [] then rest.next true
    else if trimEnd rest.endsText kept = [] ∧ rest.endsText = true then rest.next false
    else (unescape (trimEnd rest.endsText kept)).bind fun s => Ahead.run s rest

/-- A reader in front of siblings, of the end tag `name` around them and of what follows. -/
def reader (limit : Nat) (trim : Bool) (name : List Char) (es : List Event) (o : Outline) :
    Cursor :=
  before limit trim (o.spread ++ .stop name :: es)

/-- What a reader has drained that meets the rest of a run. -/
def drained (limit : Nat) (name : List Char) (es : List Event) :
    Except EscapeFault (List Char × Outline) → Except ContentFault (List Char × Cursor)
  | .error f => .error (.badReference f)
  | .ok r => .ok (r.1, r.2.reader limit true name es)

/-- What a reader answers that meets what comes next. -/
def Ahead.answer (limit : Nat) (name : List Char) (es : List Event) :
    Except EscapeFault Ahead → Except ContentFault (Piece × Cursor)
  | .error f => .error (.badReference f)
  | .ok .stop => .ok (.stop name, before limit true es)
  | .ok (.start tag inner rest) =>
    .ok (.start tag, inner.reader limit true (tagName tag) (rest.spread ++ .stop name :: es))
  | .ok (.text s rest) => .ok (.text s, rest.reader limit true name es)

variable {limit : Nat} {trim : Bool} {name : List Char} {es : List Event}

theorem reader_endsText (o : Outline) :
    (o.reader limit false name es).endsText = o.endsText := by
  induction o with
  | aside rest ih => exact ih
  | nil | text | cdata | doctype | element => rfl

theorem advance_reader {e : Event} (rest : Outline) :
    Cursor.advance ⟨.ok (some e), trim, (rest.spread ++ .stop name :: es).map .ok, limit⟩ =
      rest.reader limit trim name es := rfl

/-- The rest of a run is drained up to what follows it. -/
theorem drain_reader (o : Outline) {n : Nat} (enough : o.spread.length < n) :
    Cursor.drain n (o.reader limit false name es) = drained limit name es o.run := by
  induction o generalizing n with
  | aside rest ih => exact ih (Nat.lt_of_succ_lt enough)
  | nil | doctype | element =>
    obtain ⟨m, rfl⟩ : ∃ m, n = m + 1 := ⟨n - 1, by omega⟩
    rfl
  | cdata s rest ih =>
    obtain ⟨m, rfl⟩ : ∃ m, n = m + 1 := ⟨n - 1, by omega⟩
    have here : Cursor.drain (m + 1) ((cdata s rest).reader limit false name es) =
        (Cursor.drain m (rest.reader limit false name es)).map fun r => (s ++ r.1, r.2) := rfl
    rw [here, ih (Nat.lt_of_succ_lt_succ enough), run]
    cases rest.run <;> rfl
  | text s rest ih =>
    obtain ⟨m, rfl⟩ : ∃ m, n = m + 1 := ⟨n - 1, by omega⟩
    have here : (text s rest).reader limit false name es =
        ⟨.ok (some (.text s)), false, (rest.spread ++ .stop name :: es).map .ok, limit⟩ := rfl
    rw [here, Cursor.drain.eq_def]
    dsimp only
    rw [advance_reader, reader_endsText, ih (Nat.lt_of_succ_lt_succ enough), run]
    cases unescape (trimEnd rest.endsText s) with
    | error f => rfl
    | ok s => cases rest.run <;> rfl

/-- A run is taken whole, once its first text has been read as `s`. -/
theorem run_reader (o : Outline) (s : List Char) (room : o.spread.length < limit) :
    ((Cursor.drain limit (o.reader limit false name es)).map fun r =>
      (Piece.text (s ++ r.1), r.2)) =
      Ahead.answer limit name es (Ahead.run s o) := by
  rw [drain_reader o room, Ahead.run]
  cases o.run <;> rfl

theorem limit_reader (o : Outline) : (o.reader limit trim name es).limit = limit :=
  Cursor.limit_before

/-- A text that is left of its beginning is taken, or passed over where nothing of it is left. -/
theorem takePiece_text (s : List Char) (rest : Outline) (n : Nat)
    (room : rest.spread.length < limit) :
    Cursor.takePiece (n + 1)
        ⟨.ok (some (.text s)), false, (rest.spread ++ .stop name :: es).map .ok, limit⟩ =
      if trimEnd rest.endsText s = [] ∧ rest.endsText = true then
        Cursor.takePiece n (rest.reader limit false name es)
      else Ahead.answer limit name es
        ((unescape (trimEnd rest.endsText s)).bind fun s => Ahead.run s rest) := by
  rw [Cursor.takePiece.eq_def]
  dsimp only
  rw [advance_reader, reader_endsText]
  by_cases nothing : trimEnd rest.endsText s = [] ∧ rest.endsText = true
  · rw [if_pos nothing, if_pos ⟨List.isEmpty_iff.mpr nothing.1, nothing.2⟩]
  · rw [if_neg nothing, if_neg fun both => nothing ⟨List.isEmpty_iff.mp both.1, both.2⟩]
    cases unescape (trimEnd rest.endsText s) with
    | error f => rfl
    | ok u =>
      dsimp only
      rw [limit_reader]
      exact run_reader rest u room

theorem reader_element (tag : List Char) (inner rest : Outline) :
    (element tag inner rest).reader limit trim name es =
      before limit trim (.start tag ::
        (inner.spread ++ .stop (tagName tag) :: (rest.spread ++ .stop name :: es))) := by
  rw [reader, spread, List.cons_append, List.append_assoc, List.cons_append]

theorem reader_blank {s : List Char} {rest : Outline} (blank : s.dropWhile isSpace = []) :
    (text s rest).reader limit true name es = rest.reader limit true name es :=
  Cursor.before_blank blank

theorem reader_filled {s : List Char} {rest : Outline} (filled : s.dropWhile isSpace ≠ []) :
    (text s rest).reader limit true name es =
      ⟨.ok (some (.text (s.dropWhile isSpace))), false,
        (rest.spread ++ .stop name :: es).map .ok, limit⟩ := by
  obtain ⟨c, more, cut⟩ := List.exists_cons_of_ne_nil filled
  rw [reader, before, spread, List.cons_append, List.map_cons, Cursor.pull, if_pos rfl, cut]

/-- A reader finds what comes next in an outline within as many steps as it has events. -/
theorem takePiece_reader (o : Outline) {n : Nat} (enough : o.spread.length < n)
    (room : o.spread.length < limit) :
    Cursor.takePiece n (o.reader limit trim name es) =
      Ahead.answer limit name es (o.next trim) := by
  induction o generalizing n trim with
  | aside rest ih => exact ih (Nat.lt_of_succ_lt enough) (Nat.lt_of_succ_lt room)
  | nil =>
    obtain ⟨m, rfl⟩ : ∃ m, n = m + 1 := ⟨n - 1, by omega⟩
    rfl
  | element tag inner rest =>
    obtain ⟨m, rfl⟩ : ∃ m, n = m + 1 := ⟨n - 1, by omega⟩
    rw [reader_element]
    rfl
  | doctype rest ih =>
    obtain ⟨m, rfl⟩ : ∃ m, n = m + 1 := ⟨n - 1, by omega⟩
    exact ih (Nat.lt_of_succ_lt_succ enough) (Nat.lt_of_succ_lt room)
  | cdata s rest ih =>
    obtain ⟨m, rfl⟩ : ∃ m, n = m + 1 := ⟨n - 1, by omega⟩
    have here : Cursor.takePiece (m + 1) ((cdata s rest).reader limit trim name es) =
        (Cursor.drain (rest.reader limit false name es).limit
          (rest.reader limit false name es)).map fun r => (.text (s ++ r.1), r.2) := rfl
    rw [here, limit_reader, run_reader rest s (Nat.lt_of_succ_lt room), next]
  | text s rest ih =>
    obtain ⟨m, rfl⟩ : ∃ m, n = m + 1 := ⟨n - 1, by omega⟩
    have shorter := Nat.lt_of_succ_lt room
    have skipped (trim : Bool) : Cursor.takePiece m (rest.reader limit trim name es) =
        Ahead.answer limit name es (rest.next trim) := ih (Nat.lt_of_succ_lt_succ enough) shorter
    cases trim with
    | false =>
      have here : (text s rest).reader limit false name es =
          ⟨.ok (some (.text s)), false, (rest.spread ++ .stop name :: es).map .ok, limit⟩ := rfl
      have unstripped : ¬ (false = true ∧ s = []) := fun both => Bool.false_ne_true both.1
      rw [here, takePiece_text s rest m shorter, skipped, next, if_neg Bool.false_ne_true,
        if_neg unstripped]
      split <;> rfl
    | true =>
      rw [next, if_pos rfl]
      by_cases blank : s.dropWhile isSpace = []
      · rw [if_pos ⟨rfl, blank⟩, reader_blank blank]
        exact ih (Nat.lt_of_succ_lt enough) shorter
      · have filled : ¬ (true = true ∧ s.dropWhile isSpace = []) := fun both => blank both.2
        rw [reader_filled blank, takePiece_text _ rest m shorter, skipped, if_neg filled]
        split <;> rfl

/-- What a reader takes in front of an outline is what comes next in it. -/
theorem next_reader (o : Outline) (room : o.spread.length < limit) :
    (o.reader limit trim name es).next = Ahead.answer limit name es (o.next trim) := by
  rw [Cursor.next, limit_reader]
  exact takePiece_reader o room room

/-- A reader of an element stands in front of its start tag. -/
theorem ofText_isElement {slice : List Char} {inner : Outline} (whole : IsElement slice inner) :
    ∃ tag limit, inner.spread.length < limit + 1 ∧ Cursor.ofText slice =
      before (limit + 1) true (.start tag :: (inner.spread ++ [.stop (tagName tag)])) := by
  obtain ⟨tag, ts, opened, events, alone⟩ := whole
  have unmarked : slice.head? ≠ some byteOrderMark := by
    rw [opened]
    decide
  refine ⟨tag, inner.spread.length + 4, by omega, ?_⟩
  rw [Cursor.ofText, Xml.events, Forest.dropMark_eq unmarked, alone _ (Nat.lt_succ_self _),
    expand_tokens, events, spread, spread, List.length_map, List.length_cons, List.length_append]
  rfl

/-! What is left. -/

/-- A text is passed over where it is white space alone; else it begins a run, without the white
space at its beginning or with it. -/
theorem next_text {s : List Char} {rest : Outline} {a : Ahead}
    (read : (text s rest).next trim = .ok a) :
    ((∀ c ∈ s, isSpace c = true) ∧ ∃ trim', rest.next trim' = .ok a) ∨
      ∃ gap kept u, s = gap ++ kept ∧ (∀ c ∈ gap, isSpace c = true) ∧
        unescape (trimEnd rest.endsText kept) = .ok u ∧ Ahead.run u rest = .ok a := by
  obtain ⟨gap, kept, split, blank, same⟩ : ∃ gap kept, s = gap ++ kept ∧
      (∀ c ∈ gap, isSpace c = true) ∧ (if trim then s.dropWhile isSpace else s) = kept := by
    cases trim with
    | false => exact ⟨[], s, rfl, by simp, rfl⟩
    | true =>
      exact ⟨s.takeWhile isSpace, _, List.takeWhile_append_dropWhile.symm,
        fun c member => List.mem_takeWhile_imp member, rfl⟩
  rw [next, same] at read
  split at read
  · next nothing =>
    rw [nothing.2, List.append_nil] at split
    exact .inl ⟨split ▸ blank, true, read⟩
  · split at read
    · next spent =>
      rw [spent.2, trimEnd, if_pos rfl, List.reverse_eq_nil_iff,
        List.dropWhile_eq_nil_iff] at spent
      refine .inl ⟨fun c member => ?_, false, read⟩
      rw [split, List.mem_append] at member
      exact member.elim (blank c) fun inside => spent.1 c (List.mem_reverse.mpr inside)
    · obtain ⟨u, reads, run⟩ := bind_eq_ok read
      exact .inr ⟨gap, kept, u, split, blank, reads, run⟩

/-- A run that has ended adds nothing. -/
theorem endsText_run {o : Outline} (ends : o.endsText = true) : ∃ rest, o.run = .ok ([], rest) := by
  induction o with
  | text | cdata => cases ends
  | aside rest ih => exact ih ends
  | nil | doctype | element => exact ⟨_, rfl⟩

theorem run_cdata {u s : List Char} {after rest : Outline}
    (read : (cdata u after).run = .ok (s, rest)) :
    ∃ more, after.run = .ok (more, rest) ∧ u ++ more = s := by
  obtain ⟨⟨more, left⟩, later, joined⟩ := map_eq_ok read
  obtain ⟨same, rfl⟩ := Prod.mk.inj joined
  exact ⟨more, later, same⟩

theorem run_text {u s : List Char} {after rest : Outline}
    (read : (text u after).run = .ok (s, rest)) :
    ∃ v more, unescape (trimEnd after.endsText u) = .ok v ∧ after.run = .ok (more, rest) ∧
      v ++ more = s := by
  obtain ⟨v, reads, joined⟩ := bind_eq_ok read
  obtain ⟨⟨more, left⟩, later, joined⟩ := map_eq_ok joined
  obtain ⟨same, rfl⟩ := Prod.mk.inj joined
  exact ⟨v, more, reads, later, same⟩

theorem run_left {o rest : Outline} {s : List Char} (read : o.run = .ok (s, rest)) :
    rest.elements = o.elements ∧ rest.spread.length ≤ o.spread.length := by
  induction o generalizing s with
  | nil | doctype | element =>
    cases read
    exact ⟨rfl, Nat.le_refl _⟩
  | aside after ih =>
    obtain ⟨elements, shorter⟩ := ih read
    exact ⟨elements, Nat.le_succ_of_le shorter⟩
  | cdata u after ih =>
    obtain ⟨_, later, _⟩ := run_cdata read
    obtain ⟨elements, shorter⟩ := ih later
    exact ⟨elements, Nat.le_succ_of_le shorter⟩
  | text u after ih =>
    obtain ⟨_, _, _, later, _⟩ := run_text read
    obtain ⟨elements, shorter⟩ := ih later
    exact ⟨elements, Nat.le_succ_of_le shorter⟩

/-- How an outline is made of what comes next in it and of the rest, as far as its elements go. -/
def Ahead.Leaves (o : Outline) : Ahead → Prop
  | .stop => o.elements = []
  | .start tag inner rest => o.elements = (tag, inner) :: rest.elements ∧
    inner.spread.length + rest.spread.length + 2 ≤ o.spread.length
  | .text _ rest => o.elements = rest.elements ∧ rest.spread.length < o.spread.length

theorem Ahead.Leaves.grow {o o' : Outline} {a : Ahead} (elements : o'.elements = o.elements)
    (longer : o.spread.length ≤ o'.spread.length) (leaves : a.Leaves o) : a.Leaves o' := by
  cases a with
  | stop => exact elements.trans leaves
  | start tag inner rest => exact ⟨elements.trans leaves.1, leaves.2.trans longer⟩
  | text s rest => exact ⟨elements.trans leaves.1, Nat.lt_of_lt_of_le leaves.2 longer⟩

theorem Ahead.run_cases {s : List Char} {o : Outline} {a : Ahead} (read : Ahead.run s o = .ok a) :
    ∃ more rest, o.run = .ok (more, rest) ∧ a = .text (s ++ more) rest := by
  obtain ⟨⟨more, rest⟩, later, rfl⟩ := map_eq_ok read
  exact ⟨more, rest, later, rfl⟩

theorem Ahead.leaves_run {o rest : Outline} {s : List Char} {a : Ahead}
    (read : Ahead.run s rest = .ok a) (elements : o.elements = rest.elements)
    (shorter : rest.spread.length < o.spread.length) : a.Leaves o := by
  obtain ⟨more, left, later, rfl⟩ := Ahead.run_cases read
  obtain ⟨same, length⟩ := run_left later
  exact ⟨elements.trans same.symm, Nat.lt_of_le_of_lt length shorter⟩

theorem next_leaves {o : Outline} {a : Ahead} (read : o.next trim = .ok a) : a.Leaves o := by
  induction o generalizing trim with
  | nil =>
    cases read
    rfl
  | element tag inner rest =>
    cases read
    refine ⟨rfl, ?_⟩
    rw [spread, List.length_cons, List.length_append, List.length_cons]
    omega
  | doctype rest ih | aside rest ih =>
    exact Ahead.Leaves.grow (o := rest) rfl (Nat.le_succ _) (ih read)
  | cdata s rest => exact Ahead.leaves_run read rfl (Nat.lt_succ_self _)
  | text s rest ih =>
    obtain ⟨_, trim', later⟩ | ⟨_, _, u, _, _, _, later⟩ := next_text read
    · exact Ahead.Leaves.grow (o := rest) rfl (Nat.le_succ _) (ih later)
    · exact Ahead.leaves_run later rfl (Nat.lt_succ_self _)

/-- All that a reader in front of an outline can take next, with what is left of the outline. -/
inductive Meets (limit : Nat) (trim : Bool) (name : List Char) (es : List Event) (o : Outline) :
    Except ContentFault (Piece × Cursor) → Prop
  | fault (f : ContentFault) : Meets limit trim name es o (.error f)
  | stop (ahead : o.next trim = .ok .stop) (none : o.elements = []) :
    Meets limit trim name es o (.ok (.stop name, before limit true es))
  | start {tag : List Char} {inner rest : Outline} (ahead : o.next trim = .ok (.start tag inner rest))
    (elements : o.elements = (tag, inner) :: rest.elements)
    (shorter : inner.spread.length + rest.spread.length + 2 ≤ o.spread.length) :
    Meets limit trim name es o
      (.ok (.start tag, inner.reader limit true (tagName tag) (rest.spread ++ .stop name :: es)))
  | text {s : List Char} {rest : Outline} (ahead : o.next trim = .ok (.text s rest))
    (elements : o.elements = rest.elements) (shorter : rest.spread.length < o.spread.length) :
    Meets limit trim name es o (.ok (.text s, rest.reader limit true name es))

theorem reader_meets (o : Outline) (room : o.spread.length < limit) :
    Meets limit trim name es o (o.reader limit trim name es).next := by
  rw [next_reader o room]
  cases ahead : o.next trim with
  | error f => exact .fault _
  | ok a =>
    have leaves := next_leaves ahead
    cases a with
    | stop => exact .stop ahead leaves
    | start tag inner rest => exact .start ahead leaves.1 leaves.2
    | text s rest => exact .text ahead leaves.1 leaves.2

/-! Elements that are taken or passed over. -/

/-- The text that an element with these siblings inside is read as, if they are no elements. -/
inductive Spells (o : Outline) : List Char → Prop
  | nothing (empty : o.next true = .ok .stop) : Spells o []
  | text {s : List Char} {rest : Outline} (first : o.next true = .ok (.text s rest))
    (last : rest.next true = .ok .stop) : Spells o s

theorem Spells.unique {o : Outline} {s s' : List Char} (spells : Spells o s)
    (spells' : Spells o s') : s = s' := by
  cases spells with
  | nothing empty =>
    cases spells' with
    | nothing => rfl
    | text first =>
      rw [empty] at first
      cases first
  | text first =>
    cases spells' with
    | nothing empty =>
      rw [empty] at first
      cases first
    | text first' =>
      rw [first] at first'
      cases first'
      rfl

/-- The text of the element that comes next depends on what stands in it alone. -/
theorem elementText_reader {o inner rest : Outline} {tag s : List Char} {c : Cursor}
    (first : o.next trim = .ok (.start tag inner rest)) (room : o.spread.length < limit)
    (read : (o.reader limit trim name es).elementText = .ok (s, c)) :
    inner.Spells s ∧ c = rest.reader limit true name es := by
  have length := (next_leaves first).2
  have roomInner : inner.spread.length < limit := by omega
  rw [Cursor.elementText, next_reader o room, first] at read
  dsimp only [Ahead.answer] at read
  have met := @reader_meets limit true (tagName tag) (rest.spread ++ .stop name :: es) inner roomInner
  generalize (inner.reader _ _ _ _).next = answer at met read
  cases met with
  | fault => cases read
  | stop inside =>
    cases read
    exact ⟨.nothing inside, rfl⟩
  | start => cases read
  | @text u left inside _ shorter =>
    dsimp only at read
    have roomLeft : left.spread.length < limit := by omega
    have met := @reader_meets limit true (tagName tag) (rest.spread ++ .stop name :: es) left roomLeft
    generalize (left.reader _ _ _ _).next = answer at met read
    cases met with
    | fault => cases read
    | stop behind =>
      cases read
      exact ⟨.text inside behind, rfl⟩
    | start => cases read
    | text => cases read

/-- What opens in siblings is closed in them. -/
theorem afterEnd_spread (o : Outline) (depth : Nat) (more : List (Except MarkupFault Event)) :
    Cursor.afterEnd name depth (o.spread.map .ok ++ more) = Cursor.afterEnd name depth more := by
  induction o generalizing depth more with
  | nil => rfl
  | text s rest ih | cdata s rest ih | doctype rest ih | aside rest ih => exact ih depth more
  | element tag inner rest ihInner ihRest =>
    have shape : (element tag inner rest).spread.map .ok ++ more =
        .ok (.start tag) :: (inner.spread.map .ok ++
          .ok (.stop (tagName tag)) :: (rest.spread.map .ok ++ more)) := by
      simp [spread]
    rw [shape, Cursor.afterEnd.eq_def]
    dsimp only
    rw [ihInner, Cursor.afterEnd.eq_def]
    dsimp only
    -- A child of the same name counts one level up at its start tag and one down at its end tag.
    by_cases own : tagName tag = name
    · rw [if_pos own, if_pos own]
      exact ihRest depth more
    · rw [if_neg own, if_neg own]
      exact ihRest depth more

theorem afterEnd_reader (o : Outline) :
    Cursor.afterEnd name 0 ((o.spread ++ .stop name :: es).map .ok) = .ok (es.map .ok) := by
  rw [List.map_append, afterEnd_spread, List.map_cons, Cursor.afterEnd.eq_def]
  exact if_pos rfl

theorem skipTo_flat {e : Event} (start : ∀ tag, e ≠ .start tag) (stop : ∀ n, e ≠ .stop n)
    (rest : Outline) :
    Cursor.skipTo name ⟨.ok (some e), trim, (rest.spread ++ .stop name :: es).map .ok, limit⟩ =
      .ok (before limit trim es) := by
  cases e with
  | start tag => exact absurd rfl (start tag)
  | stop n => exact absurd rfl (stop n)
  | text | cdata | doctype | aside | empty =>
    rw [Cursor.skipTo]
    dsimp only
    rw [afterEnd_reader]
    rfl

/-- A reader that stands inside an element passes over the rest of it. -/
theorem skipTo_reader (o : Outline) :
    ∃ trim', (o.reader limit trim name es).skipTo name = .ok (before limit trim' es) := by
  induction o with
  | nil => exact ⟨true, if_pos rfl⟩
  | aside rest ih => exact ih
  | cdata s rest => exact ⟨false, skipTo_flat (by simp) (by simp) rest⟩
  | doctype rest => exact ⟨true, skipTo_flat (by simp) (by simp) rest⟩
  | text s rest ih =>
    cases trim with
    | false => exact ⟨false, skipTo_flat (by simp) (by simp) rest⟩
    | true =>
      by_cases blank : s.dropWhile isSpace = []
      · rw [reader_blank blank]
        exact ih
      · rw [reader_filled blank]
        exact ⟨false, skipTo_flat (by simp) (by simp) rest⟩
  | element tag inner rest =>
    have here : (element tag inner rest).reader limit trim name es =
        ⟨.ok (some (.start tag)), true, (inner.spread ++ .stop (tagName tag) ::
          (rest.spread ++ .stop name :: es)).map .ok, limit⟩ := by
      rw [reader_element]
      rfl
    refine ⟨true, ?_⟩
    rw [here, Cursor.skipTo]
    dsimp only
    rw [List.map_append, afterEnd_spread, List.map_cons, Cursor.afterEnd.eq_def]
    dsimp only
    by_cases own : tagName tag = name
    · rw [if_pos own, if_pos own]
      dsimp only
      rw [afterEnd_reader]
      rfl
    · rw [if_neg own, if_neg own, afterEnd_reader]
      rfl

theorem skipTo_ok {o : Outline} {c : Cursor}
    (skipped : (o.reader limit trim name es).skipTo name = .ok c) :
    ∃ trim', c = before limit trim' es := by
  obtain ⟨trim', passed⟩ := @skipTo_reader limit trim name es o
  exact ⟨trim', Except.ok.inj (skipped.symm.trans passed)⟩

/-- An element is passed over up to its end tag, whatever is read of it on the way. -/
theorem skipElement_reader {o : Outline} {c : Cursor} (room : o.spread.length < limit)
    (skipped : (o.reader limit trim name es).skipElement name = .ok c) :
    ∃ trim', c = before limit trim' es := by
  rw [Cursor.skipElement] at skipped
  have met := @reader_meets limit trim name es o room
  generalize (o.reader _ _ _ _).next = answer at met skipped
  cases met with
  | fault => cases skipped
  | stop =>
    dsimp only at skipped
    rw [if_pos rfl] at skipped
    cases skipped
    exact ⟨true, rfl⟩
  | @start tag inner rest =>
    -- The first child has been entered: it is left first, then the element itself.
    dsimp only at skipped
    split at skipped
    · cases skipped
    · next c' behind =>
      obtain ⟨trim', rfl⟩ := skipTo_ok behind
      exact skipTo_ok (o := rest) skipped
  | @text u rest => exact skipTo_ok (o := rest) skipped

end Outline

end SoapGateway.Xml
