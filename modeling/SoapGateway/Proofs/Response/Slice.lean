import SoapGateway.Proofs.Xml.Elements
import SoapGateway.Proofs.Xml.Search
import SoapGateway.Response.Decode

/-!
# The text that is cut out

Whatever stands in a text, well-formed or not, what is located in it is the first element with the
name asked for, as far as the events go; and what follows that element changes nothing. Only after a
byte order mark is the text cut out too early, by the octets of the mark.
-/
namespace SoapGateway.Response

open Xml (Token Tag byteOrderMark dropMark isSpace tagName localName sources)

/-- A text that begins with a bracket and a qualified name whose local part is the target. The name
goes up to white space or to what closes the tag. -/
def BeginsWithName (target s : List Char) : Prop :=
  ∃ name rest, s = '<' :: (name ++ rest) ∧ ({ name } : Tag).IsCalled target ∧
    (∀ c ∈ name, isSpace c = false) ∧
    ∃ c, rest.head? = some c ∧ (isSpace c = true ∨ c = '/' ∨ c = '>')

theorem BeginsWithName.append {target s : List Char} (begins : BeginsWithName target s)
    (u : List Char) : BeginsWithName target (s ++ u) := by
  obtain ⟨name, rest, rfl, called, solid, c, next, kind⟩ := begins
  refine ⟨name, rest ++ u, by simp, called, solid, c, ?_, kind⟩
  rw [List.head?_append, next, Option.some_or]

/-- What is left of a tag after its name begins with white space, if it is not all of the tag. -/
theorem beginsWithName_tag {target tag closing : List Char} {c : Char}
    (named : localName (tagName tag) = target) (closes : closing.head? = some c)
    (kind : c = '/' ∨ c = '>') : BeginsWithName target ('<' :: (tag ++ closing)) := by
  refine ⟨tagName tag, tag.dropWhile (fun c => !isSpace c) ++ closing, ?_,
    Tag.isCalled_iff.mpr named, ?_, ?_⟩
  · rw [← List.append_assoc, tagName, List.takeWhile_append_dropWhile]
  · intro d member
    simpa using List.mem_takeWhile_imp member
  · cases left : tag.dropWhile (fun c => !isSpace c) with
    | nil => exact ⟨c, closes, .inr kind⟩
    | cons d rest =>
      have stops := List.head?_dropWhile_not (fun c => !isSpace c) tag
      rw [left] at stops
      exact ⟨d, rfl, .inl (by simpa using stops)⟩

theorem beginsWithName_of_opens {t : Token} {target : List Char} (shaped : t.Shaped)
    (opens : t.event.Opens target) : BeginsWithName target t.source := by
  rcases shaped with text | ⟨content, source, encloses⟩
  · rw [text] at opens
    cases opens
  · rw [source]
    cases kind : t.event with
    | start tag =>
      rw [kind] at opens encloses
      obtain rfl : content = tag := encloses
      exact beginsWithName_tag opens rfl (.inr rfl)
    | empty tag =>
      rw [kind] at opens encloses
      obtain rfl : content = tag ++ ['/'] := encloses
      rw [List.append_assoc]
      exact beginsWithName_tag opens rfl (.inl rfl)
    | text | stop | cdata | doctype | aside =>
      rw [kind] at opens
      cases opens

/-- A part of a text, `before` which other events stand, that is the first element with the local
name `target`. -/
structure IsFirst (target text before slice : List Char) : Prop where
  opens : BeginsWithName target slice
  closes : slice.getLast? = some '>'
  /-- No tag in the events before it opens an element with that name, and the first of its own
  does. -/
  first : ∃ passed inside more, Xml.events text = (passed ++ inside).map .ok ++ more ∧
    sources passed = before ∧ sources inside = slice ∧
    (∀ t ∈ passed, ¬ t.event.Opens target) ∧
    ∃ t, inside.head? = some t ∧ t.event.Opens target

theorem getLast?_of_shaped {t : Token} (shaped : t.Shaped) (markup : ∀ text, t.event ≠ .text text) :
    t.source.getLast? = some '>' := by
  rcases shaped with text | ⟨content, source, _⟩
  · exact absurd text (markup _)
  · rw [source, ← List.cons_append, List.getLast?_concat]

/-- A search in a text finds the first element with the name, and the same one whatever follows. -/
theorem find_events {target xml slice : List Char} {n : Nat}
    (found : Xml.find target 0 (Xml.events xml) = .ok (n, slice)) :
    (∀ u, Xml.find target 0 (Xml.events (xml ++ u)) = .ok (n, slice)) ∧
      ∃ before after, dropMark xml = before ++ slice ++ after ∧ n = Utf8.octets before ∧
        IsFirst target xml before slice := by
  have full : xml ≠ [] := by
    rintro rfl
    cases found
  obtain ⟨passed, inside, last, more, read, search, place, shape, same⟩ := Xml.find_ok found
  obtain ⟨shaped, after, split, again⟩ := Xml.eventsFrom_append read search.last
  refine ⟨fun u => ?_, sources passed, after, ?_, by rw [place, Nat.zero_add], ?_, ?_, ?_⟩
  · have shorter := Xml.length_dropMark_le xml
    obtain ⟨more', events⟩ := again u ((xml ++ u).length + 1)
      (by rw [List.length_append, List.length_append]; omega)
    rw [Xml.events, Xml.dropMark_append full, events, same]
  · rw [split, shape]
    simp [sources]
  · obtain ⟨t, head, opens⟩ := search.first
    obtain ⟨others, own⟩ := List.head?_eq_some_iff.mp head
    have member : t ∈ passed ++ inside ++ [last] := by
      rw [List.append_assoc, own]
      simp
    rw [shape, own]
    exact (beginsWithName_of_opens (shaped t member) opens).append (sources others)
  · have own : last.Shaped := shaped last (by simp)
    rw [shape, Xml.sources_append, List.getLast?_append]
    simp [sources, getLast?_of_shaped own search.last]
  · exact ⟨passed, inside ++ [last], more, by rw [read]; simp, rfl, shape.symm, search.passed,
      search.first⟩

/-- What is located goes by the octets of the first element, which are in the text. -/
theorem locate_eq_find {target xml slice : List Char} {n : Nat}
    (found : Xml.find target 0 (Xml.events xml) = .ok (n, slice)) :
    Xml.locate xml target =
      .ok (if xml.head? = some byteOrderMark then
        Xml.cutOctets n (n + Utf8.octets slice) 0 xml else slice) := by
  rw [Xml.locate, found]
  dsimp only
  split <;> rfl

theorem located_extended {target xml slice : List Char} {n : Nat}
    (found : Xml.find target 0 (Xml.events xml) = .ok (n, slice)) (u : List Char) :
    Xml.locate (xml ++ u) target = Xml.locate xml target := by
  obtain ⟨again, before, after, split, place, _⟩ := find_events found
  have full : xml ≠ [] := by
    rintro rfl
    cases found
  have inside : n + Utf8.octets slice ≤ Utf8.octets xml := by
    have whole := Xml.octets_dropMark_le xml
    rw [split, Xml.octets_append, Xml.octets_append] at whole
    omega
  have head : (xml ++ u).head? = xml.head? := by
    rw [List.head?_append, Option.or_of_isSome (List.isSome_head?.mpr full)]
  rw [locate_eq_find (again u), locate_eq_find found, head, Xml.cutOctets_extended inside]

/-- What is located in a text, well-formed or not, is located there whatever follows. The events of
the text, which leave a byte order mark out, cover the first element with the name asked for. Without
such a mark what is located is the text of that element. With one it is cut out too early, by as many
octets as the mark takes. -/
theorem locate_slice {target xml node : String} (found : locate target xml = .ok node) :
    (∀ suffix, locate target (xml ++ suffix) = .ok node) ∧
      ∃ before slice after, dropMark xml.toList = before ++ slice ++ after ∧
        IsFirst target.toList xml.toList before slice ∧
        if xml.toList.head? = some byteOrderMark then
          ∀ p q r, xml.toList = p ++ q ++ r → Utf8.octets p = Utf8.octets before →
            Utf8.octets q = Utf8.octets slice → node.toList = q
        else node.toList = slice := by
  have searched : ∃ n slice,
      Xml.find target.toList 0 (Xml.events xml.toList) = .ok (n, slice) := by
    rw [locate, Xml.locate] at found
    cases search : Xml.find target.toList 0 (Xml.events xml.toList) with
    | error f =>
      rw [search] at found
      cases found
    | ok place => exact ⟨_, _, rfl⟩
  obtain ⟨n, slice, search⟩ := searched
  obtain ⟨_, before, after, split, rfl, first⟩ := find_events search
  constructor
  · intro suffix
    rw [locate, String.toList_append, located_extended search]
    exact found
  · refine ⟨before, slice, after, split, first, ?_⟩
    rw [locate, locate_eq_find search] at found
    cases found
    rw [String.toList_ofList]
    split_ifs
    · intro p q r parts sizeP sizeQ
      rw [← sizeP, ← sizeQ, parts, Xml.cutOctets_parts]
    · rfl

/-- The rest of the text is not closed, and a quoted bracket stands before the element. -/
theorem locate_slice_malformed :
    let xml := "<b c='>'>&<x:K d>1</x:K></e"
    locate "K" xml = .ok "<x:K d>1</x:K>" ∧
      locate "K" (xml ++ "<!") = .ok "<x:K d>1</x:K>" ∧
      ∃ before, IsFirst ['K'] xml.toList before "<x:K d>1</x:K>".toList := by
  intro xml
  have found : locate "K" xml = .ok "<x:K d>1</x:K>" := by decide +kernel
  obtain ⟨stays, before, slice, _, _, first, node⟩ := locate_slice found
  rw [if_neg (by decide)] at node
  exact ⟨found, stays "<!", before, node ▸ first⟩

/-- The octets of the mark are not counted: the text that is cut out begins with the mark and ends
before the tag does. -/
theorem locate_slice_marked :
    ∃ node, locate "K" "\uFEFF<K/>" = .ok node ∧ node.toList.head? ≠ some '<' ∧
      node.toList.getLast? ≠ some '>' :=
  ⟨"\uFEFF<", by decide +kernel, by decide, by decide⟩

end SoapGateway.Response
