import SoapGateway.Proofs.Text.Blank
import SoapGateway.Proofs.Xml.Locate

/-!
# Elements of written documents

The elements of a document in the order of their start tags, and the names that a search compares
them by. Texts that are written in pieces can be put together, which changes neither the text of the
document nor its elements.
-/
namespace SoapGateway.Xml

open Text (dropWhile_run)

theorem plain_run {p : List Char} (plain : ':' ∉ p) : ∀ c ∈ p, (c != ':') = true := by
  intro c member
  rw [bne_iff_ne]
  rintro rfl
  exact plain member

theorem localName_of_plain {name : List Char} (plain : ':' ∉ name) : localName name = name := by
  have all := dropWhile_run (plain_run plain) (v := []) (by simp)
  rw [List.append_nil] at all
  rw [localName, all]

theorem localName_prefixed {p : List Char} (plain : ':' ∉ p) (l : List Char) :
    localName (p ++ ':' :: l) = l := by
  have cut := dropWhile_run (plain_run plain) (v := ':' :: l) (by simp)
  rw [localName, cut]

/-- The local name that the search compares is the one that a tag has. -/
theorem Tag.isCalled_iff {t : Tag} {l : List Char} : t.IsCalled l ↔ localName t.name = l := by
  constructor
  · rintro (⟨plain, rfl⟩ | ⟨p, plain, named⟩)
    · exact localName_of_plain plain
    · rw [named, localName_prefixed plain]
  · intro same
    by_cases colon : ':' ∈ t.name
    · obtain ⟨p, rest, split, plain⟩ := List.eq_append_cons_of_mem colon
      rw [split, localName_prefixed plain] at same
      exact .inr ⟨p, plain, by rw [split, same]⟩
    · rw [localName_of_plain colon] at same
      exact .inl ⟨colon, same⟩

namespace Forest

/-- A text before siblings, joined with the text that they begin with. -/
def withText (s : List Char) : Forest → Forest
  | text t rest => text (s ++ t) rest
  | f => if s = [] then f else text s f

/-- The document with every text in one piece. -/
def joined : Forest → Forest
  | nil => nil
  | text s rest => rest.joined.withText s
  | cdata s rest => cdata s rest.joined
  | comment s rest => comment s rest.joined
  | instruction s rest => instruction s rest.joined
  | single tag rest => single tag rest.joined
  | element tag inner space rest => element tag inner.joined space rest.joined

/-- Siblings either begin with a text, which grows, or the text is a new one unless it is empty. -/
theorem withText_cases (s : List Char) (f : Forest) :
    (∃ t rest, f = text t rest ∧ f.withText s = text (s ++ t) rest) ∨
    (s = [] ∧ f.withText s = f) ∨
    (s ≠ [] ∧ f.isText = false ∧ f.withText s = text s f) := by
  by_cases empty : s = []
  · cases f with
    | text t rest => exact .inl ⟨t, rest, rfl, rfl⟩
    | _ => exact .inr (.inl ⟨empty, if_pos empty⟩)
  · cases f with
    | text t rest => exact .inl ⟨t, rest, rfl, rfl⟩
    | _ => exact .inr (.inr ⟨empty, rfl, if_neg empty⟩)

theorem withText_source (s : List Char) (f : Forest) : (f.withText s).source = s ++ f.source := by
  rcases withText_cases s f with ⟨t, rest, rfl, eq⟩ | ⟨rfl, eq⟩ | ⟨_, _, eq⟩
  · rw [eq, source, source, List.append_assoc]
  · rw [eq, List.nil_append]
  · rw [eq, source]

theorem withText_elements (s : List Char) (f : Forest) : (f.withText s).elements = f.elements := by
  rcases withText_cases s f with ⟨t, rest, rfl, eq⟩ | ⟨rfl, eq⟩ | ⟨_, _, eq⟩
  · rw [eq, elements, elements]
  · rw [eq]
  · rw [eq, elements]

theorem withText_wellFormed {s : List Char} {f : Forest} (plain : '<' ∉ s) (wf : f.WellFormed) :
    (f.withText s).WellFormed := by
  rcases withText_cases s f with ⟨t, rest, rfl, eq⟩ | ⟨rfl, eq⟩ | ⟨full, fresh, eq⟩
  · obtain ⟨full, plain', fresh, wf⟩ := wf
    rw [eq]
    exact ⟨by simp [full], by simp [plain, plain'], fresh, wf⟩
  · rw [eq]
    exact wf
  · rw [eq]
    exact ⟨full, plain, fresh, wf⟩

theorem joined_source (f : Forest) : f.joined.source = f.source := by
  induction f with
  | nil => rfl
  | text s rest ih => rw [joined, withText_source, ih, source]
  | cdata s rest ih => rw [joined, source, source, ih]
  | comment s rest ih => rw [joined, source, source, ih]
  | instruction s rest ih => rw [joined, source, source, ih]
  | single tag rest ih => rw [joined, source, source, ih]
  | element tag inner space rest ihInner ihRest => rw [joined, source, source, ihInner, ihRest]

theorem joined_elements (f : Forest) : f.joined.elements = f.elements := by
  induction f with
  | nil => rfl
  | text s rest ih => rw [joined, withText_elements, ih, elements]
  | cdata s rest ih => exact ih
  | comment s rest ih => exact ih
  | instruction s rest ih => exact ih
  | single tag rest ih => rw [joined, elements, elements, ih]
  | element tag inner space rest ihInner ihRest =>
    rw [joined, elements, elements, joined_source, ihInner, ihRest]

theorem Sound.joined_wellFormed {f : Forest} (sound : f.Sound) : f.joined.WellFormed := by
  induction f with
  | nil => trivial
  | text s rest ih => exact withText_wellFormed sound.1 (ih sound.2)
  | cdata s rest ih => exact ⟨sound.1, ih sound.2⟩
  | comment s rest ih => exact ⟨sound.1, sound.2.1, ih sound.2.2⟩
  | instruction s rest ih => exact ⟨sound.1, sound.2.1, ih sound.2.2⟩
  | single tag rest ih => exact ⟨sound.1, ih sound.2⟩
  | element tag inner space rest ihInner ihRest =>
    exact ⟨sound.1, ihInner sound.2.1, sound.2.2.1, ihRest sound.2.2.2⟩

/-- The first element with a name, as the search finds it, is the first in the list of all. -/
theorem first?_source (f : Forest) (target : List Char) :
    (f.first? target).map source =
      (f.elements.find? fun e => localName e.tag.name == target).map (·.source) := by
  induction f with
  | nil => rfl
  | text s rest ih => exact ih
  | cdata s rest ih => exact ih
  | comment s rest ih => exact ih
  | instruction s rest ih => exact ih
  | single tag rest ih =>
    by_cases own : localName tag.name = target
    · simp [first?, elements, own, source]
    · simp [first?, elements, own, ih]
  | element tag inner space rest ihInner ihRest =>
    by_cases own : localName tag.name = target
    · simp [first?, elements, own, source]
    · simp [first?, elements, own, ihInner, ihRest, Option.map_or, List.find?_append]

end Forest

end SoapGateway.Xml
