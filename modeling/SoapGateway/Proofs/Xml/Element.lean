import SoapGateway.Proofs.Xml.Escape
import SoapGateway.Proofs.Xml.Tree
import SoapGateway.Xml.Element

/-!
# Flat elements as written documents

The text of a flat element is a well-formed document, and it is read as one element with the
namespace and the texts that went in, whatever characters they have.
-/
namespace SoapGateway.Xml

namespace Tag

/-- A tag without attributes. -/
def plain (name : String) : Tag := { name := name.toList }

theorem WellFormed.plain {name : String} (named : isName name.toList = true) :
    (Tag.plain name).WellFormed where
  name := named
  attributes := by simp [Tag.plain]
  once := List.nodup_nil
  space := rfl

theorem values?_plain (name : String) : (Tag.plain name).values? = some [] := rfl

end Tag

namespace FlatElement

/-- The text elements of a flat element. -/
def fieldsForest : List (String × String) → Forest
  | [] => .nil
  | (name, s) :: rest =>
    if s = "" then .single (.plain name) (fieldsForest rest)
    else .element (.plain name) (.text (escapeText s.toList) .nil) [] (fieldsForest rest)

/-- The start tag of a flat element. -/
def tag (e : FlatElement) : Tag where
  name := e.name.toList
  attributes := [{ name := "xmlns".toList, value := escapeAttribute e.xmlns.toList }]

/-- A flat element in front of its siblings. -/
def forest (e : FlatElement) (rest : Forest) : Forest :=
  if e.fields.isEmpty then .single e.tag rest else .element e.tag (fieldsForest e.fields) [] rest

theorem fieldsForest_source (fields : List (String × String)) :
    (fieldsForest fields).source = fields.flatMap renderField := by
  induction fields with
  | nil => rfl
  | cons field rest ih =>
    obtain ⟨name, s⟩ := field
    rw [List.flatMap_cons, fieldsForest, renderField]
    by_cases empty : s = ""
    · simp [empty, Forest.source, Tag.closed, Tag.source, Tag.plain, ih]
    · simp [empty, Forest.source, Tag.opening, Tag.closing, Tag.source, Tag.plain, ih]

theorem forest_source (e : FlatElement) (rest : Forest) :
    (e.forest rest).source = e.render ++ rest.source := by
  unfold forest render
  split
  · simp [Forest.source, Tag.closed, Tag.source, tag, WrittenAttribute.source]
  · simp [Forest.source, Tag.opening, Tag.closing, Tag.source, tag, WrittenAttribute.source,
      fieldsForest_source]

theorem escapeText_ne_nil {s : String} (filled : s ≠ "") : escapeText s.toList ≠ [] := by
  intro empty
  have read := unescape_escapeText s.toList
  rw [empty] at read
  cases letters : s.toList with
  | nil => exact filled (String.toList_eq_nil_iff.mp letters)
  | cons c rest => rw [letters] at read; cases read

theorem fieldsForest_wellFormed {fields : List (String × String)}
    (names : ∀ f ∈ fields, isName f.1.toList = true) : (fieldsForest fields).WellFormed := by
  induction fields with
  | nil => trivial
  | cons field rest ih =>
    obtain ⟨name, s⟩ := field
    have named : (Tag.plain name).WellFormed := .plain (names _ List.mem_cons_self)
    have rest := ih fun f member => names f (List.mem_cons_of_mem _ member)
    rw [fieldsForest]
    by_cases empty : s = ""
    · rw [if_pos empty]
      exact ⟨named, rest⟩
    · rw [if_neg empty]
      exact ⟨named, ⟨escapeText_ne_nil empty, lt_not_mem_escapeText _, rfl, trivial⟩, rfl, rest⟩

theorem tag_wellFormed {e : FlatElement} (named : isName e.name.toList = true) :
    e.tag.WellFormed where
  name := named
  attributes := by
    intro a member
    have name : isName "xmlns".toList = true := by decide
    rw [List.mem_singleton.mp member]
    exact ⟨by simp, rfl, name, rfl, rfl, .inl rfl, quote_not_mem_escapeAttribute _⟩
  once := by simp [tag]
  space := rfl

/-- Whatever its namespace and its texts are, a flat element is well-formed. -/
theorem forest_wellFormed {e : FlatElement} (named : isName e.name.toList = true)
    (names : ∀ f ∈ e.fields, isName f.1.toList = true) {rest : Forest} (wf : rest.WellFormed) :
    (e.forest rest).WellFormed := by
  unfold forest
  split
  · exact ⟨tag_wellFormed named, wf⟩
  · exact ⟨tag_wellFormed named, fieldsForest_wellFormed names, rfl, wf⟩

theorem values?_tag (e : FlatElement) : e.tag.values? = some [("xmlns", e.xmlns)] := by
  simp only [Tag.values?, tag, List.map_cons, List.map_nil, Tree.attributes?,
    unescape_escapeAttribute, String.ofList_toList]

theorem fieldsForest_trees? (fields : List (String × String)) :
    (fieldsForest fields).trees? = some (fields.map fun f => .holding f.1 f.2) := by
  induction fields with
  | nil => rfl
  | cons field rest ih =>
    obtain ⟨name, s⟩ := field
    rw [fieldsForest, List.map_cons, Tree.holding]
    by_cases empty : s = ""
    · rw [if_pos empty, if_pos empty, Forest.trees?, Tag.values?_plain, ih]
      simp [Tag.plain]
    · rw [if_neg empty, if_neg empty, Forest.trees?, Tag.values?_plain, ih, Forest.trees?,
        unescape_escapeText]
      simp [Tag.plain, Forest.trees?]

/-- The tree of a flat element. -/
def tree (e : FlatElement) : Tree :=
  .element e.name [("xmlns", e.xmlns)] (e.fields.map fun f => .holding f.1 f.2)

theorem forest_trees? (e : FlatElement) (rest : Forest) :
    (e.forest rest).trees? = rest.trees?.map (e.tree :: ·) := by
  unfold forest tree
  split
  · next none =>
    rw [Forest.trees?, values?_tag, List.isEmpty_iff.mp none]
    simp [tag]
  · rw [Forest.trees?, values?_tag, fieldsForest_trees?]
    simp [tag]

end FlatElement

end SoapGateway.Xml
