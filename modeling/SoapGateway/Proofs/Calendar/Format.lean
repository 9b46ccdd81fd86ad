import SoapGateway.Calendar.Format
import SoapGateway.Layouts

/-!
# Layouts that every date can be written in

Midnight of a day has no time zone. A layout whose marks all exist gives every day a text, unless
one of the marks asks for the zone: then it gives no day a text, and nothing else can go wrong.
-/
namespace SoapGateway.Calendar

/-- Whether a part belongs only to a moment in a time zone. -/
def Part.isZoned : Part → Bool
  | zoneName | zoneOffset | looseZoneOffset | timestampText => true
  | shortMonth | longMonth | shortWeekday | longWeekday | lowerHalf | upperHalf | fraction _
  | places _ => false

/-- Whether an item asks for the time zone. -/
def Item.isZoned : Item → Bool
  | part p => p.isZoned
  | literal _ | blank _ | number _ _ | invalid => false

namespace Layout

/-- Whether a layout asks for the time zone. -/
def asksForZone (layout : String) : Bool := (items layout).any Item.isZoned

theorem writePart_isSome (d : Date) (p : Part) : (writePart d p).isSome = !p.isZoned := by
  cases p with
  | fraction places => cases places <;> rfl
  | _ => rfl

theorem writeItem_isSome (d : Date) {item : Item} (sound : item ≠ .invalid) :
    (writeItem d item).isSome = !item.isZoned := by
  cases item with
  | literal s => rfl
  | blank s => rfl
  | number q p => rfl
  | part p => exact writePart_isSome d p
  | invalid => exact absurd rfl sound

/-- Items are written together or not at all. -/
theorem writeItems_isSome (d : Date) (items : List Item) :
    (writeItems d items).isSome = items.all fun item => (writeItem d item).isSome := by
  induction items with
  | nil => rfl
  | cons item rest ih =>
    rw [List.all_cons, ← ih, writeItems]
    cases writeItem d item with
    | none => rfl
    | some s => cases writeItems d rest <;> rfl

theorem ne_invalid_of_isValid {layout : String} (valid : isValid layout = true) :
    ∀ item ∈ items layout, item ≠ .invalid := by
  unfold isValid at valid
  rw [Bool.and_eq_true, Bool.not_eq_true', List.contains_eq_mem, decide_eq_false_iff_not] at valid
  intro item member invalid
  rw [invalid] at member
  exact valid.2 member

/-- A valid layout writes every day, or it asks for the time zone and writes none. -/
theorem format?_isSome {layout : String} (valid : isValid layout = true) (d : Date) :
    (format? layout d).isSome = !asksForZone layout := by
  have sound := ne_invalid_of_isValid valid
  have each : (items layout).all (fun item => (writeItem d item).isSome) =
      (items layout).all fun item => !item.isZoned := by
    rw [Bool.eq_iff_iff, List.all_eq_true, List.all_eq_true]
    constructor
    · intro written item member
      rw [← writeItem_isSome d (sound item member)]
      exact written item member
    · intro zoneless item member
      rw [writeItem_isSome d (sound item member)]
      exact zoneless item member
  rw [format?, Option.isSome_map, writeItems_isSome, each, asksForZone, List.not_any_eq_all_not]

end Layout

end SoapGateway.Calendar

namespace SoapGateway.Layouts

open Calendar.Layout (asksForZone isValid format?_isSome)

/-- The failure to write a date in the layout of the remote service. -/
def unwritable (l : Layouts) : Failure :=
  .envelope ("invalid response layout " ++ Text.quoted l.response)

theorem writeDate_of_zoneless {l : Layouts} (valid : isValid l.response = true)
    (zoneless : asksForZone l.response = false) (d : Calendar.Date) :
    ∃ s, l.writeDate d = .ok s := by
  have written := format?_isSome valid d
  rw [zoneless, Bool.not_false, Option.isSome_iff_exists] at written
  obtain ⟨s, formatted⟩ := written
  exact ⟨s, by rw [writeDate, formatted]⟩

theorem writeDate_of_zoned {l : Layouts} (valid : isValid l.response = true)
    (zoned : asksForZone l.response = true) (d : Calendar.Date) :
    l.writeDate d = .error l.unwritable := by
  have written := format?_isSome valid d
  rw [zoned, Bool.not_true, Option.isSome_eq_false_iff, Option.isNone_iff_eq_none] at written
  rw [writeDate, written]
  rfl

end SoapGateway.Layouts
