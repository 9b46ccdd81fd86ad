import SoapGateway.Proofs.Xml.Attributes
import SoapGateway.Proofs.Xml.Unescape
import SoapGateway.Xml.Content

/-!
# Reading well-formed content

What a reader of content takes from the events of a written document, one piece after the other. An
element of one tag gives the same events as one without content.
-/
namespace SoapGateway.Xml

open Text (trimBy isPadding)

namespace Forest

/-- The events of a document, with two for an element of one tag. -/
def spread : Forest → List Event
  | nil => []
  | text s rest => .text s :: rest.spread
  | cdata s rest => .cdata s :: rest.spread
  | comment _ rest => .aside :: rest.spread
  | instruction _ rest => .aside :: rest.spread
  | single tag rest => .start tag.source :: .stop tag.name :: rest.spread
  | element tag inner _ rest =>
    .start tag.source :: (inner.spread ++ .stop tag.name :: rest.spread)

theorem spread_single (tag : Tag) (rest : Forest) :
    (single tag rest).spread = .start tag.source :: ([.stop tag.name] ++ rest.spread) := rfl

theorem spread_element (tag : Tag) (inner : Forest) (space : List Char) (rest : Forest) :
    (element tag inner space rest).spread =
      .start tag.source :: ((inner.spread ++ [.stop tag.name]) ++ rest.spread) := by
  simp [spread]

/-- Whatever follows an element follows its siblings. -/
theorem spread_element_append (tag : Tag) (inner : Forest) (space : List Char) (rest : Forest)
    (es : List Event) :
    (element tag inner space rest).spread ++ es =
      .start tag.source :: (inner.spread ++ .stop tag.name :: (rest.spread ++ es)) := by
  simp [spread]

theorem expand_tokens {f : Forest} (wf : f.WellFormed) :
    (f.tokens.map .ok).flatMap Cursor.expand = f.spread.map .ok := by
  induction f with
  | nil => rfl
  | text s rest ih => simp [tokens, spread, Cursor.expand, ih wf.2.2.2]
  | cdata s rest ih => simp [tokens, spread, Cursor.expand, ih wf.2]
  | comment s rest ih => simp [tokens, spread, Cursor.expand, ih wf.2.2]
  | instruction s rest ih => simp [tokens, spread, Cursor.expand, ih wf.2.2]
  | single tag rest ih =>
    simp [tokens, spread, Cursor.expand, ih wf.2, tagName_source wf.1]
  | element tag inner space rest ihInner ihRest =>
    obtain ⟨_, innerWf, _, restWf⟩ := wf
    simp [tokens, spread, Cursor.expand, ihInner innerWf, ihRest restWf]

end Forest

namespace Cursor

/-- A reader in front of events. -/
def before (limit : Nat) (trim : Bool) (es : List Event) : Cursor := pull limit trim (es.map .ok)

theorem ofText_source {f : Forest} (wf : f.WellFormed)
    (unmarked : f.source.head? ≠ some byteOrderMark) :
    ofText f.source = before (f.spread.length + 3) true f.spread := by
  rw [ofText, Forest.events_source wf unmarked, Forest.expand_tokens wf, List.length_map, before]

variable {limit : Nat} {trim : Bool} {es : List Event}

theorem limit_before : (before limit trim es).limit = limit := by
  induction es generalizing trim with
  | nil => rfl
  | cons e es ih =>
    cases e with
    | text s =>
      rw [before, List.map_cons, pull.eq_def]
      dsimp only
      split
      · split
        · exact ih
        · rfl
      · rfl
    | aside => exact ih
    | _ => rfl

theorem next_start (tag : List Char) :
    (before (limit + 1) trim (.start tag :: es)).next =
      .ok (.start tag, before (limit + 1) true es) := rfl

theorem next_stop (name : List Char) :
    (before (limit + 1) trim (.stop name :: es)).next =
      .ok (.stop name, before (limit + 1) true es) := rfl

/-- White space between tags is nothing. -/
theorem before_blank {s : List Char} (blank : s.dropWhile isSpace = []) :
    before limit true (.text s :: es) = before limit true es := by
  rw [before, List.map_cons, pull, if_pos rfl, blank]
  rfl

/-- A text before an end tag is stripped at both ends, then read. -/
theorem next_text {s v : List Char} {name : List Char} (filled : s.dropWhile isSpace ≠ [])
    (reads : unescape (trimBy isSpace s) = .ok v) :
    (before (limit + 1) true (.text s :: .stop name :: es)).next =
      .ok (.text v, before (limit + 1) true (.stop name :: es)) := by
  obtain ⟨c, rest, cut⟩ := List.exists_cons_of_ne_nil filled
  have kept : (trimBy isSpace s).isEmpty = false := by
    have member : c ∈ s := (List.dropWhile_suffix _).subset (cut ▸ List.mem_cons_self)
    have solid : isSpace c = false := by
      have first := List.head_dropWhile_not isSpace filled
      simpa [cut] using first
    cases trimmed : trimBy isSpace s with
    | nil => exact absurd trimmed (Text.trimBy_ne_nil member solid)
    | cons _ _ => rfl
  have here : before (limit + 1) true (.text s :: .stop name :: es) =
      ⟨.ok (some (.text (s.dropWhile isSpace))), false, (.stop name :: es).map .ok, limit + 1⟩ := by
    rw [before, List.map_cons, pull, if_pos rfl, cut]
  have after : before (limit + 1) true (.stop name :: es) =
      ⟨.ok (some (.stop name)), true, es.map .ok, limit + 1⟩ := rfl
  have advanced : advance ⟨.ok (some (.text (s.dropWhile isSpace))), false,
      (.stop name :: es).map .ok, limit + 1⟩ = before (limit + 1) true (.stop name :: es) := rfl
  have trimmed : trimEnd true (s.dropWhile isSpace) = trimBy isSpace s := rfl
  have last : (before (limit + 1) true (.stop name :: es)).endsText = true := rfl
  have drained : drain (limit + 1) (before (limit + 1) true (.stop name :: es)) =
      .ok ([], before (limit + 1) true (.stop name :: es)) := rfl
  rw [here, next, takePiece.eq_def]
  dsimp only
  rw [advanced, last, trimmed, kept, reads, limit_before, drained]
  simp [Except.map]

theorem elementText_empty (tag name : List Char) :
    (before (limit + 1) trim (.start tag :: .stop name :: es)).elementText =
      .ok ([], before (limit + 1) true es) := rfl

/-- The text of an element is read as what it stands for, padding aside. -/
theorem elementText_text {s v : List Char} (reads : unescape s = .ok v) (tag name : List Char) :
    ∃ u, trimBy isPadding u = trimBy isPadding v ∧
      (before (limit + 1) trim (.start tag :: .text s :: .stop name :: es)).elementText =
        .ok (u, before (limit + 1) true es) := by
  obtain ⟨u, trimmed, same⟩ := unescape_trim reads
  refine ⟨u, same, ?_⟩
  rw [elementText, next_start]
  dsimp only
  by_cases blank : s.dropWhile isSpace = []
  · have nothing : trimBy isSpace s = [] := by rw [trimBy, blank]; rfl
    rw [nothing] at trimmed
    cases trimmed
    rw [before_blank blank, next_stop]
    rfl
  · rw [next_text blank trimmed]
    dsimp only
    rw [next_stop]

end Cursor

open Cursor (before)

/-- Content ends with the end tag around it. -/
theorem readContent_stop {α : Type} (keys : List String) (field : FieldReader α)
    (parent : List Char) (fields : Fields α) (n limit : Nat) (trim : Bool) (name : List Char)
    (es : List Event) :
    readContent keys field parent fields (n + 1) (before (limit + 1) trim (.stop name :: es)) =
      .ok (fields, before (limit + 1) true es) := by
  rw [readContent.eq_def]
  dsimp only
  rw [Cursor.next_stop]

/-- Elements of which a field reader reads each as a value that is the same as the one it stands
for. -/
inductive Entries {α β : Type} (field : FieldReader α) (same : α → β → Prop) (limit : Nat) :
    List (String × β) → List Event → Prop
  | nil : Entries field same limit [] []
  | cons {key : String} {x : β} {tag : List Char} {inside es : List Event}
    {more : List (String × β)} (named : String.ofList (localName (tagName tag)) = key)
    (read : ∀ parent trim after, ∃ y, same y x ∧
      field.ofElements parent (before limit trim (.start tag :: (inside ++ after))) =
        .ok (y, before limit true after))
    (rest : Entries field same limit more es) :
    Entries field same limit ((key, x) :: more) (.start tag :: (inside ++ es))

/-- Every element gives an event at least. -/
theorem Entries.length_le {α β : Type} {field : FieldReader α} {same : α → β → Prop} {limit : Nat}
    {named : List (String × β)} {es : List Event} (entries : Entries field same limit named es) :
    named.length ≤ es.length := by
  induction entries with
  | nil => exact Nat.le_refl _
  | cons _ _ _ ih =>
    rw [List.length_cons, List.length_cons, List.length_append]
    omega

/-- Values that were read under their names are those that stood there; other names have what they
had before. -/
def Filled {α β : Type} (same : α → β → Prop) (named : List (String × β)) (acc parts : Fields α) :
    Prop :=
  ∀ k, (∃ x y, named.lookup k = some x ∧ parts.lookup k = some y ∧ same y x) ∨
    (named.lookup k = none ∧ parts.lookup k = acc.lookup k)

theorem Filled.cons {α β : Type} {same : α → β → Prop} {named : List (String × β)}
    {acc parts : Fields α} {key : String} {x : β} {y : α} (fresh : named.lookup key = none)
    (like : same y x) (filled : Filled same named ((key, y) :: acc) parts) :
    Filled same ((key, x) :: named) acc parts := by
  intro k
  by_cases eq : k = key
  · subst eq
    rcases filled k with ⟨_, _, found, _⟩ | ⟨_, kept⟩
    · rw [fresh] at found
      cases found
    · refine .inl ⟨x, y, ?_, ?_, like⟩
      · simp
      · rw [kept]
        simp
  · have other : (k == key) = false := by simpa using eq
    rcases filled k with ⟨x', y', found, kept, like⟩ | ⟨missing, kept⟩
    · refine .inl ⟨x', y', ?_, kept, like⟩
      rwa [List.lookup_cons, other]
    · refine .inr ⟨?_, ?_⟩
      · rwa [List.lookup_cons, other]
      · rw [kept, List.lookup_cons, other]

/-- Content that consists of known elements, none of them twice, is read up to the end tag around
it. -/
theorem readContent_entries {α β : Type} {keys : List String} {field : FieldReader α}
    {same : α → β → Prop} {limit : Nat} {named : List (String × β)} {es : List Event}
    (entries : Entries field same (limit + 1) named es)
    (known : ∀ k ∈ named.map (·.1), k ∈ keys) (once : (named.map (·.1)).Nodup)
    {acc : Fields α} (fresh : ∀ k ∈ named.map (·.1), acc.lookup k = none) {n : Nat}
    (bound : named.length < n) (parent stop : List Char) (trim : Bool) (after : List Event) :
    ∃ parts, readContent keys field parent acc n
        (before (limit + 1) trim (es ++ .stop stop :: after)) =
          .ok (parts, before (limit + 1) true after) ∧ Filled same named acc parts := by
  induction entries generalizing acc n trim with
  | nil =>
    obtain ⟨n, rfl⟩ := Nat.exists_eq_add_of_le' (Nat.one_le_of_lt bound)
    exact ⟨acc, readContent_stop _ _ _ _ _ _ _ _ _, fun k => .inr ⟨rfl, rfl⟩⟩
  | @cons key x tag inside es more own read rest ih =>
    obtain ⟨n, rfl⟩ := Nat.exists_eq_add_of_le' (Nat.one_le_of_lt bound)
    rw [List.map_cons, List.nodup_cons] at once
    have here : key ∈ keys := known key (by simp)
    have unread : onlyOnce acc key = .ok () := by
      rw [onlyOnce, fresh key (by simp)]
      rfl
    have absent : more.lookup key = none := by
      rw [List.lookup_eq_none_iff]
      intro entry member
      rw [bne_iff_ne]
      rintro rfl
      exact once.1 (List.mem_map.mpr ⟨entry, member, rfl⟩)
    obtain ⟨y, like, taken⟩ := read parent trim (es ++ .stop stop :: after)
    have freshRest : ∀ k ∈ more.map (·.1), List.lookup k ((key, y) :: acc) = none := by
      intro k member
      have other : (k == key) = false := by
        rw [beq_eq_false_iff_ne]
        rintro rfl
        exact once.1 member
      rw [List.lookup_cons, other]
      exact fresh k (List.mem_cons_of_mem _ member)
    have boundRest : more.length < n := Nat.lt_of_succ_lt_succ bound
    obtain ⟨parts, done, filled⟩ := ih (fun k member => known k (List.mem_cons_of_mem _ member))
      once.2 freshRest boundRest true
    refine ⟨parts, ?_, filled.cons absent like⟩
    have shape : Event.start tag :: (inside ++ es) ++ .stop stop :: after =
        .start tag :: (inside ++ (es ++ .stop stop :: after)) := by
      simp
    rw [shape, readContent.eq_def]
    dsimp only
    rw [Cursor.next_start]
    dsimp only
    rw [own, if_pos here, unread]
    dsimp only
    rw [taken]
    exact done

end SoapGateway.Xml
