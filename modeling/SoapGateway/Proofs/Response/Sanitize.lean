import SoapGateway.Proofs.Text.Blank
import SoapGateway.Response.Document

/-!
# Cleaned responses

The texts of a response lie in cells, row by row, each with the name of its field. A response is
what its cells are, so one that differs by its texts alone is told by them.
-/
namespace SoapGateway

theorem Row.named_map {fields : List String} (g : String → String) (r : Row fields) :
    (r.map g).named = r.named.map (Prod.map id g) := by
  rw [named, named, map, List.zip_map_right]

theorem Row.named_injective {fields : List String} {r r' : Row fields} (same : r.named = r'.named) :
    r = r' := by
  have values : (fields.zip r.values).map Prod.snd = (fields.zip r'.values).map Prod.snd :=
    congrArg (List.map Prod.snd) same
  rw [List.map_snd_zip (Nat.le_of_eq r.filled), List.map_snd_zip (Nat.le_of_eq r'.filled)] at values
  cases r
  cases r'
  cases values
  rfl

namespace Response

/-- The texts of an indicator with the names of their members. -/
def indicatorCells (i : Indicator) : List (String × String) :=
  [("Title", i.title), ("Date", i.date), ("Value", i.value)]

/-- The texts of a response, row by row, with the names of their fields. The headline has a row for
each indicator. -/
def cells : {s : Schema} → Response s → List (List (String × String))
  | _, rows rs => rs.map Row.named
  | _, headline h => (indicators h).map fun named => indicatorCells named.2

theorem cells_map {s : Schema} (g : String → String) (r : Response s) :
    (r.map g).cells = r.cells.map (List.map (Prod.map id g)) := by
  cases r with
  | rows rs =>
    rw [map, cells, cells, List.map_map, List.map_map]
    exact List.map_congr_left fun row _ => row.named_map g
  | headline h => rfl

theorem cells_injective {s : Schema} {r r' : Response s} (same : r.cells = r'.cells) : r = r' := by
  cases r with
  | rows rs =>
    cases r' with
    | rows rs' =>
      exact congrArg rows (List.map_injective_iff.mpr (fun _ _ => Row.named_injective) same)
  | headline h =>
    cases r' with
    | headline h' =>
      obtain ⟨⟨_, _, _⟩, ⟨_, _, _⟩, ⟨_, _, _⟩, ⟨_, _, _⟩⟩ := h
      obtain ⟨⟨_, _, _⟩, ⟨_, _, _⟩, ⟨_, _, _⟩, ⟨_, _, _⟩⟩ := h'
      simp only [cells, indicators, indicatorCells, List.map_cons, List.map_nil, List.cons.injEq,
        Prod.mk.injEq, true_and, and_true] at same
      simp only [same]

/-- Whatever the shape of a response, the cleaned one is the one with its rows in their order and
each of their texts cleaned. -/
theorem eq_sanitize_iff {s : Schema} (r r' : Response s) :
    r' = r.sanitize ↔ r'.cells = r.cells.map (List.map (Prod.map id Text.clean)) := by
  constructor
  · rintro rfl
    exact cells_map Text.clean r
  · intro cleaned
    exact cells_injective (cleaned.trans (cells_map Text.clean r).symm)

theorem sanitize_sanitize {s : Schema} (r : Response s) : r.sanitize.sanitize = r.sanitize := by
  have texts : Text.clean ∘ Text.clean = Text.clean := funext Text.clean_clean
  refine ((r.sanitize.eq_sanitize_iff r.sanitize).mpr ?_).symm
  rw [sanitize, cells_map, List.map_map, List.map_comp_map, Prod.map_comp_map, texts,
    Function.id_comp]

end Response

end SoapGateway
