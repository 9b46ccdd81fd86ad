import SoapGateway.Proofs.Xml.Events
import SoapGateway.Xml.Locate

/-!
# Finding elements in written documents

In a written document the search gives exactly the source of the first element with the name, from
its start tag to its own end tag, however elements of one name are nested.
-/
namespace SoapGateway.Xml.Forest

theorem map_append (u v : List Char) (r : Except MarkupFault (List Char)) :
    (r.map (v ++ ·)).map (u ++ ·) = r.map (u ++ v ++ ·) := by
  cases r with
  | error f => rfl
  | ok s => simp [Except.map]

/-- What opens and closes no element is passed over. -/
theorem untilEnd_flat {t : Token} (start : ∀ tag, t.event ≠ .start tag)
    (stop : ∀ n, t.event ≠ .stop n) (name : List Char) (depth : Nat)
    (more : List (Except MarkupFault Token)) :
    untilEnd name depth (.ok t :: more) = (untilEnd name depth more).map (t.source ++ ·) := by
  rw [untilEnd.eq_def]
  dsimp only
  split
  · next eq => exact absurd eq (start _)
  · next eq => exact absurd eq (stop _)
  · rfl

theorem untilEnd_start (tag source name : List Char) (depth : Nat)
    (more : List (Except MarkupFault Token)) :
    untilEnd name depth (.ok ⟨.start tag, source⟩ :: more) =
      (untilEnd name (if tagName tag = name then depth + 1 else depth) more).map (source ++ ·) := by
  rw [untilEnd.eq_def]

theorem untilEnd_stop (n source name : List Char) (depth : Nat)
    (more : List (Except MarkupFault Token)) :
    untilEnd name depth (.ok ⟨.stop n, source⟩ :: more) =
      if n = name then
        match depth with
        | 0 => .ok source
        | d + 1 => (untilEnd name d more).map (source ++ ·)
      else (untilEnd name depth more).map (source ++ ·) := by
  exact untilEnd.eq_def _ _ _

/-- Siblings and all that is in them are passed over on the way to an end tag. -/
theorem untilEnd_tokens {f : Forest} (wf : f.WellFormed) (name : List Char) (depth : Nat)
    (more : List (Except MarkupFault Token)) :
    untilEnd name depth (f.tokens.map .ok ++ more) =
      (untilEnd name depth more).map (f.source ++ ·) := by
  induction f generalizing depth more with
  | nil =>
    rw [tokens, List.map_nil, List.nil_append]
    cases untilEnd name depth more <;> rfl
  | text s rest ih =>
    rw [tokens, List.map_cons, List.cons_append, untilEnd_flat (by simp) (by simp), ih wf.2.2.2,
      map_append]
    rfl
  | cdata s rest ih =>
    rw [tokens, List.map_cons, List.cons_append, untilEnd_flat (by simp) (by simp), ih wf.2,
      map_append]
    rfl
  | comment s rest ih =>
    rw [tokens, List.map_cons, List.cons_append, untilEnd_flat (by simp) (by simp), ih wf.2.2,
      map_append]
    rfl
  | instruction s rest ih =>
    rw [tokens, List.map_cons, List.cons_append, untilEnd_flat (by simp) (by simp), ih wf.2.2,
      map_append]
    rfl
  | single tag rest ih =>
    rw [tokens, List.map_cons, List.cons_append, untilEnd_flat (by simp) (by simp), ih wf.2,
      map_append]
    rfl
  | element tag inner space rest ihInner ihRest =>
    obtain ⟨tagWf, innerWf, _, restWf⟩ := wf
    have shape : (element tag inner space rest).tokens.map (Except.ok (ε := MarkupFault)) ++ more =
        .ok ⟨.start tag.source, tag.opening⟩ :: (inner.tokens.map .ok ++
          .ok ⟨.stop tag.name, tag.closing space⟩ :: (rest.tokens.map .ok ++ more)) := by
      simp [tokens]
    rw [shape, untilEnd_start, tagName_source tagWf, ihInner innerWf, untilEnd_stop]
    have joined : (element tag inner space rest).source =
        tag.opening ++ (inner.source ++ (tag.closing space ++ rest.source)) := by
      simp [source]
    -- An element of the same name opens one level and closes it again.
    by_cases own : tag.name = name
    · rw [if_pos own, if_pos own]
      dsimp only
      rw [ihRest restWf, map_append, map_append, map_append, joined]
      simp only [List.append_assoc]
    · rw [if_neg own, if_neg own, ihRest restWf, map_append, map_append, map_append, joined]
      simp only [List.append_assoc]

/-- The end tag of an element is its own, and the source of the element ends with it. -/
theorem untilEnd_own {inner : Forest} (wf : inner.WellFormed) (tag : Tag) (space : List Char)
    (more : List (Except MarkupFault Token)) :
    untilEnd tag.name 0 (inner.tokens.map .ok ++ .ok ⟨.stop tag.name, tag.closing space⟩ :: more) =
      .ok (inner.source ++ tag.closing space) := by
  rw [untilEnd_tokens wf, untilEnd_stop, if_pos rfl]
  rfl

/-- What a search answers, apart from where it found it. -/
def found (r : Except LocateFault (Nat × List Char)) : Except LocateFault (List Char) := r.map (·.2)

theorem find_flat {t : Token} (start : ∀ tag, t.event ≠ .start tag)
    (empty : ∀ tag, t.event ≠ .empty tag) (target : List Char) (before : Nat)
    (more : List (Except MarkupFault Token)) :
    find target before (.ok t :: more) = find target (before + Utf8.octets t.source) more := by
  rw [find.eq_def]
  dsimp only
  split
  · next eq => exact absurd eq (start _)
  · next eq => exact absurd eq (empty _)
  · rfl

/-- A search goes through siblings, and through what is in them, to the first element with the name,
and past them if there is none. -/
theorem find_tokens {f : Forest} (wf : f.WellFormed) (target : List Char) (before : Nat)
    (more : List (Except MarkupFault Token)) :
    ∃ after, found (find target before (f.tokens.map .ok ++ more)) =
      match f.first? target with
      | some node => .ok node.source
      | none => found (find target after more) := by
  induction f generalizing before more with
  | nil => exact ⟨before, rfl⟩
  | text s rest ih =>
    rw [tokens, List.map_cons, List.cons_append, find_flat (by simp) (by simp)]
    exact ih wf.2.2.2 _ more
  | cdata s rest ih =>
    rw [tokens, List.map_cons, List.cons_append, find_flat (by simp) (by simp)]
    exact ih wf.2 _ more
  | comment s rest ih =>
    rw [tokens, List.map_cons, List.cons_append, find_flat (by simp) (by simp)]
    exact ih wf.2.2 _ more
  | instruction s rest ih =>
    rw [tokens, List.map_cons, List.cons_append, find_flat (by simp) (by simp)]
    exact ih wf.2.2 _ more
  | single tag rest ih =>
    obtain ⟨tagWf, wf⟩ := wf
    rw [tokens, List.map_cons, List.cons_append, find.eq_def]
    simp only [tagName_source tagWf, first?]
    by_cases own : localName tag.name = target
    · simp only [own, if_true]
      exact ⟨before, by simp [found, Except.map, source]⟩
    · simp only [own, if_false]
      exact ih wf _ more
  | element tag inner space rest ihInner ihRest =>
    obtain ⟨tagWf, innerWf, _, restWf⟩ := wf
    have shape : (element tag inner space rest).tokens.map (Except.ok (ε := MarkupFault)) ++ more =
        .ok ⟨.start tag.source, tag.opening⟩ :: (inner.tokens.map .ok ++
          .ok ⟨.stop tag.name, tag.closing space⟩ :: (rest.tokens.map .ok ++ more)) := by
      simp [tokens]
    rw [shape, find.eq_def]
    simp only [tagName_source tagWf, first?]
    by_cases own : localName tag.name = target
    · simp only [own, if_true, untilEnd_own innerWf]
      exact ⟨before, by simp [found, Except.map, source]⟩
    · simp only [own, if_false]
      obtain ⟨mid, inside⟩ := ihInner innerWf (before + Utf8.octets tag.opening)
        (.ok ⟨.stop tag.name, tag.closing space⟩ :: (rest.tokens.map .ok ++ more))
      rw [inside]
      cases inner.first? target with
      | some node => exact ⟨mid, rfl⟩
      | none =>
        rw [Option.none_or]
        dsimp only
        rw [find_flat (by simp) (by simp)]
        exact ihRest restWf _ more

/-- In a text without a byte order mark, what is located is what the search finds. -/
theorem locate_eq_found {s : List Char} (unmarked : s.head? ≠ some byteOrderMark)
    (target : List Char) : locate s target = found (find target 0 (events s)) := by
  rw [locate]
  cases find target 0 (events s) with
  | error fault => rfl
  | ok place => exact if_neg unmarked

/-- The element that is located in a written document without a byte order mark is the first one
with the name. -/
theorem locate_source {f : Forest} (wf : f.WellFormed)
    (unmarked : f.source.head? ≠ some byteOrderMark) (target : List Char) :
    locate f.source target =
      match f.first? target with
      | some node => .ok node.source
      | none => .error .notFound := by
  obtain ⟨after, answer⟩ := find_tokens wf target 0 []
  rw [List.append_nil, ← events_source wf unmarked] at answer
  exact (locate_eq_found unmarked target).trans answer

/-- An element inside a well-formed document is well-formed by itself. -/
theorem first?_wellFormed {f node : Forest} {target : List Char} (wf : f.WellFormed)
    (first : f.first? target = some node) : node.WellFormed := by
  induction f with
  | nil => cases first
  | text s rest ih => exact ih wf.2.2.2 first
  | cdata s rest ih => exact ih wf.2 first
  | comment s rest ih => exact ih wf.2.2 first
  | instruction s rest ih => exact ih wf.2.2 first
  | single tag rest ih =>
    rw [first?] at first
    split at first
    · cases first
      exact ⟨wf.1, trivial⟩
    · exact ih wf.2 first
  | element tag inner space rest ihInner ihRest =>
    rw [first?] at first
    split at first
    · cases first
      exact ⟨wf.1, wf.2.1, wf.2.2.1, trivial⟩
    · rw [Option.or_eq_some_iff] at first
      rcases first with inside | ⟨_, after⟩
      · exact ihInner wf.2.1 inside
      · exact ihRest wf.2.2.2 after

end SoapGateway.Xml.Forest
