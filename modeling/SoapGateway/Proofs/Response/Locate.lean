import SoapGateway.Proofs.Xml.Elements
import SoapGateway.Response.Decode

/-!
# The element that is located

In any written document the search answers with the text of the first element that has the name
asked for, and fails as not found if there is none.
-/
namespace SoapGateway.Response

open Xml (Forest WrittenElement Tag byteOrderMark localName)

/-- The search goes through the elements in order, whatever stands between them. -/
theorem locate_eq {f : Forest} (sound : f.Sound) (unmarked : f.source.head? ≠ some byteOrderMark)
    (target : String) :
    locate target (String.ofList f.source) =
      match f.elements.find? fun e => localName e.tag.name == target.toList with
      | some e => .ok (String.ofList e.source)
      | none => .error (.nodeNotFound target) := by
  -- The reader is followed on whole texts only.
  rw [← f.joined_source] at unmarked
  have searched := Forest.locate_source sound.joined_wellFormed unmarked target.toList
  have listed := f.joined.first?_source target.toList
  rw [f.joined_source] at searched
  rw [f.joined_elements] at listed
  rw [locate, String.toList_ofList, searched]
  cases first : f.joined.first? target.toList with
  | none =>
    rw [first, Option.map_none, eq_comm, Option.map_eq_none_iff] at listed
    rw [listed]
    rfl
  | some node =>
    rw [first, Option.map_some, eq_comm, Option.map_eq_some_iff] at listed
    obtain ⟨e, found, same⟩ := listed
    rw [found]
    dsimp only
    rw [same]

/-- In a written document without a byte order mark, what is located is the text of the first
element, in the order of start tags, that has the target as its local name, from its start tag to
its own end tag; and nothing is located just if no element has that local name. -/
theorem locate_first {f : Forest} (sound : f.Sound)
    (unmarked : f.source.head? ≠ some byteOrderMark) (target : String) :
    (∀ before e after, f.elements = before ++ e :: after → e.tag.IsCalled target.toList →
        (∀ b ∈ before, ¬ b.tag.IsCalled target.toList) →
        locate target (String.ofList f.source) = .ok (String.ofList e.source)) ∧
      (locate target (String.ofList f.source) = .error (.nodeNotFound target) ↔
        ∀ e ∈ f.elements, ¬ e.tag.IsCalled target.toList) := by
  rw [locate_eq sound unmarked target]
  constructor
  · intro before e after split called none
    have first : f.elements.find? (fun e => localName e.tag.name == target.toList) = some e := by
      rw [List.find?_eq_some_iff_append]
      refine ⟨beq_iff_eq.mpr (Tag.isCalled_iff.mp called), before, after, split, ?_⟩
      intro b member
      rw [Bool.not_eq_true', beq_eq_false_iff_ne]
      exact fun same => none b member (Tag.isCalled_iff.mpr same)
    rw [first]
  · cases first : f.elements.find? (fun e => localName e.tag.name == target.toList) with
    | none =>
      rw [List.find?_eq_none] at first
      refine ⟨fun _ e member called => first e member ?_, fun _ => rfl⟩
      exact beq_iff_eq.mpr (Tag.isCalled_iff.mp called)
    | some e =>
      have own : (localName e.tag.name == target.toList) = true :=
        List.find?_some (p := fun e : WrittenElement => localName e.tag.name == target.toList) first
      have called := Tag.isCalled_iff.mpr (beq_iff_eq.mp own)
      exact ⟨nofun, fun absent => absurd called (absent e (List.mem_of_find?_eq_some first))⟩

theorem locate_first_nested :
    let inner : Forest := .single { name := "K".toList }
      (.element { name := "K".toList } .nil [' '] .nil)
    let tag : Tag := ⟨"x:K".toList, [{ name := "b".toList, value := "c>'".toList }], [' ']⟩
    let f : Forest := .instruction "xml version='1.0'".toList
      (.element { name := "s:Env".toList }
        (.text "a".toList (.text [] (.comment "<K/>".toList (.cdata "<K>".toList
          (.element tag inner [] .nil)))))
        [] .nil)
    locate "K" (String.ofList f.source) =
        .ok (String.ofList "<x:K b=\"c>'\" ><K/><K></K ></x:K>".toList) ∧
      locate "L" (String.ofList f.source) = .error (.nodeNotFound "L") := by
  intro inner tag f
  have named : ∀ t ∈ ["K", "s:Env"], Xml.isName t.toList = true := by decide
  have plain : ∀ t ∈ ["K", "s:Env"], ({ name := t.toList } : Tag).WellFormed := fun t member =>
    Tag.wellFormed_name (named t member)
  have tagWf : tag.WellFormed := by
    refine ⟨by decide, ?_, by decide, rfl⟩
    intro a member
    rw [List.mem_singleton.mp member]
    exact ⟨by decide, rfl, by decide, rfl, rfl, .inl rfl, by decide⟩
  have innerSound : inner.Sound := ⟨plain "K" (by simp), plain "K" (by simp), trivial, rfl, trivial⟩
  have inside : ¬ "?>".toList <:+: "xml version='1.0'".toList := by decide +kernel
  have silent : ¬ "--".toList <:+: "<K/>".toList := by decide +kernel
  have whole : ¬ "]]>".toList <:+: "<K>".toList := by decide +kernel
  have sound : f.Sound :=
    ⟨by decide, inside, plain "s:Env" (by simp), ⟨by decide, by decide, silent, by decide, whole,
      tagWf, innerSound, rfl, trivial⟩, rfl, trivial⟩
  have unmarked : f.source.head? ≠ some byteOrderMark := by decide
  have other {t : Tag} {l : String} (differs : localName t.name ≠ l.toList) :
      ¬ t.IsCalled l.toList := fun called => differs (Tag.isCalled_iff.mp called)
  constructor
  · refine (locate_first sound unmarked "K").1 [⟨{ name := "s:Env".toList }, _⟩] ⟨tag, _⟩
      inner.elements rfl (Tag.isCalled_iff.mpr (by decide)) ?_
    intro b member
    rw [List.mem_singleton.mp member]
    exact other (by decide)
  · rw [(locate_first sound unmarked "L").2]
    have differs : f.elements.all (fun e => localName e.tag.name != "L".toList) = true := by decide
    exact fun e member => other (bne_iff_ne.mp (List.all_eq_true.mp differs e member))

end SoapGateway.Response
