import SoapGateway.Proofs.Response.Decode
import SoapGateway.Proofs.Xml.Element

/-!
# Every response can be written

Whatever texts a response has and however many rows, there is a well-formed element that carries it.
-/
namespace SoapGateway.Response

open Xml

/-- An element with a text, or one tag when the text is empty. -/
theorem hasFields_fieldsForest (named : List (String × String)) :
    HasFields named (FlatElement.fieldsForest named) := by
  induction named with
  | nil => exact .nil
  | cons entry named ih =>
    obtain ⟨key, s⟩ := entry
    rw [FlatElement.fieldsForest]
    by_cases empty : s = ""
    · rw [if_pos empty]
      exact .single rfl empty ih
    · rw [if_neg empty]
      exact .element rfl (.text (unescape_escapeText s.toList)) ih

/-- Rows as elements. -/
def rowsForest {fields : List String} (key : String) : List (Row fields) → Forest
  | [] => .nil
  | row :: more =>
    .element (.plain key) (FlatElement.fieldsForest row.named) [] (rowsForest key more)

theorem hasRows_rowsForest {fields : List String} (key : String) (rows : List (Row fields)) :
    HasRows key rows (rowsForest key rows) := by
  induction rows with
  | nil => exact .nil
  | cons row rows ih => exact .cons rfl (hasFields_fieldsForest row.named) ih

theorem rowsForest_wellFormed {fields : List String} {key : String} (named : plainKey key = true)
    (plain : ∀ k ∈ fields, plainKey k = true) (rows : List (Row fields)) :
    (rowsForest key rows).WellFormed := by
  induction rows with
  | nil => trivial
  | cons row rows ih =>
    have names : ∀ f ∈ row.named, isName f.1.toList = true := by
      intro f member
      exact isName_plainKey (plain f.1 (List.of_mem_zip member).1)
    exact ⟨.plain (isName_plainKey named), FlatElement.fieldsForest_wellFormed names, rfl, ih⟩

/-- The start tag of an indicator. -/
def indicatorTag (key : String) (i : Indicator) : Tag where
  name := key.toList
  attributes :=
    [{ name := "Title".toList, value := escapeAttribute i.title.toList },
      { name := "Date".toList, value := escapeAttribute i.date.toList }]

/-- Indicators as elements. -/
def indicatorsForest : List (String × Indicator) → Forest
  | [] => .nil
  | (key, i) :: rest =>
    if i.value = "" then .single (indicatorTag key i) (indicatorsForest rest)
    else .element (indicatorTag key i) (.text (escapeText i.value.toList) .nil) []
      (indicatorsForest rest)

theorem hasIndicator_indicatorTag (key : String) (i : Indicator) :
    HasIndicator key i (indicatorTag key i) :=
  ⟨rfl, _, _, rfl, rfl, unescape_escapeAttribute _, rfl, unescape_escapeAttribute _⟩

theorem hasIndicators_indicatorsForest (named : List (String × Indicator)) :
    HasIndicators named (indicatorsForest named) := by
  induction named with
  | nil => exact .nil
  | cons entry named ih =>
    obtain ⟨key, i⟩ := entry
    rw [indicatorsForest]
    by_cases empty : i.value = ""
    · rw [if_pos empty]
      exact .single (hasIndicator_indicatorTag key i) empty ih
    · rw [if_neg empty]
      exact .element (hasIndicator_indicatorTag key i) (.text (unescape_escapeText _)) ih

theorem indicatorTag_wellFormed {key : String} (named : isName key.toList = true) (i : Indicator) :
    (indicatorTag key i).WellFormed where
  name := named
  attributes := by
    have title : isName "Title".toList = true := by decide
    have date : isName "Date".toList = true := by decide
    intro a member
    rw [indicatorTag, List.mem_cons, List.mem_singleton] at member
    rcases member with rfl | rfl
    · exact ⟨by simp, rfl, title, rfl, rfl, .inl rfl, quote_not_mem_escapeAttribute _⟩
    · exact ⟨by simp, rfl, date, rfl, rfl, .inl rfl, quote_not_mem_escapeAttribute _⟩
  once := by simp [indicatorTag]
  space := rfl

theorem indicatorsForest_wellFormed {named : List (String × Indicator)}
    (names : ∀ f ∈ named, isName f.1.toList = true) : (indicatorsForest named).WellFormed := by
  induction named with
  | nil => trivial
  | cons entry named ih =>
    obtain ⟨key, i⟩ := entry
    have tagWf := indicatorTag_wellFormed (names _ List.mem_cons_self) i
    have rest := ih fun f member => names f (List.mem_cons_of_mem _ member)
    rw [indicatorsForest]
    by_cases empty : i.value = ""
    · rw [if_pos empty]
      exact ⟨tagWf, rest⟩
    · rw [if_neg empty]
      exact ⟨tagWf, ⟨FlatElement.escapeText_ne_nil empty, lt_not_mem_escapeText _, rfl, trivial⟩,
        rfl, rest⟩

/-- Every response is carried by a well-formed element with any tag. -/
theorem exists_carries {s : Schema} (plain : plainSchema s = true) (r : Response s) {tag : Tag}
    (tagWf : tag.WellFormed) :
    ∃ inner, (Forest.element tag inner [] .nil).WellFormed ∧
      r.Carries (.element tag inner [] .nil) := by
  cases r with
  | @rows response row key fields rows =>
    rw [plainSchema, Bool.and_eq_true, Bool.and_eq_true, List.all_eq_true] at plain
    exact ⟨rowsForest key rows,
      ⟨tagWf, rowsForest_wellFormed plain.1.1 plain.1.2 rows, rfl, trivial⟩,
      .element (hasRows_rowsForest key rows)⟩
  | headline h =>
    rw [plainSchema, List.all_eq_true] at plain
    have names : ∀ f ∈ indicators h, isName f.1.toList = true := by
      intro f member
      exact isName_plainKey (plain f.1 (List.mem_map_of_mem (f := Prod.fst) member))
    exact ⟨indicatorsForest (indicators h),
      ⟨tagWf, indicatorsForest_wellFormed names, rfl, trivial⟩,
      .element (hasIndicators_indicatorsForest _)⟩

end SoapGateway.Response
