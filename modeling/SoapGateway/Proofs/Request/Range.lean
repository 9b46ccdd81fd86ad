import SoapGateway.Proofs.Calendar.Plain
import SoapGateway.Proofs.Envelope
import SoapGateway.Proofs.Envelope.Slot
import SoapGateway.Proofs.Json.Record

/-!
# Ranges of days

A range of days is asked for with two dates, alone or with a currency code. With the default layouts
a range that does not end before it starts is accepted, and the call carries its two days; a
reversed one is refused with the two texts as they came.
-/
namespace SoapGateway

open Calendar (Date)
open Xml (Tree FlatElement trees)

/-- An object is not blank. -/
theorem Request.orEmptyObject_of_object (members : List (String × Json.Value)) :
    orEmptyObject (Utf8.bytesOf (Json.Value.object members).compact) =
      Utf8.bytesOf (Json.Value.object members).compact := by
  have brace : Text.isAsciiBlank 0x7B = false := by decide
  have opened (s : List Char) : Utf8.encode ('{' :: s) = 0x7B :: Utf8.encode s := rfl
  rw [orEmptyObject, Utf8.bytesOf, Json.Value.compact, String.toList_ofList, Json.Value.render,
    List.cons_append, opened, List.all_cons, brace]
  rfl

/-- What a range of days is asked for with. -/
inductive RangeKind where
  | dates
  | currency (code : String)

namespace RangeKind

def shape : RangeKind → RequestShape
  | dates => .dateRange
  | currency _ => .currencyRange

/-- The members of the body. -/
def members (start stop : String) : RangeKind → List (String × String)
  | dates => [("FromDate", start), ("ToDate", stop)]
  | currency code => [("FromDate", start), ("ToDate", stop), ("ValutaCode", code)]

def request (start stop : String) : RangeKind → Request
  | dates => .dateRange start stop
  | currency code => .currencyRange start stop code

/-- The elements of the call. -/
def elements (first last : String) : RangeKind → List (String × String)
  | dates => [("fromDate", first), ("ToDate", last)]
  | currency code => [("FromDate", first), ("ToDate", last), ("ValutaCode", Text.trim code)]

/-- A currency code has to be there, and must not hold the token of the slot. -/
def IsSound : RangeKind → Prop
  | dates => True
  | currency code => Text.trim code ≠ "" ∧ Envelope.IsFree code.toList

/-- A body as it is written. -/
def body (start stop : String) (k : RangeKind) : List UInt8 :=
  Utf8.bytesOf (Json.Value.object ((k.members start stop).map fun m => (m.1, .text m.2))).compact

variable {k : RangeKind} {start stop : String}

/-- Bodies are read as what they ask for. -/
theorem document_body (k : RangeKind) (start stop : String) :
    Json.Reader.document k.shape.reader (Request.orEmptyObject (k.body start stop)) =
      .ok (k.request start stop) := by
  have filled := Request.orEmptyObject_of_object ((k.members start stop).map fun m =>
    (m.1, Json.Value.text m.2))
  rw [body, filled]
  refine Json.Reader.document_readsBack ?_
  cases k with
  | dates =>
    refine Json.Reader.record_of_texts [("FromDate", start), ("ToDate", stop)] ?_ ?_ ?_ _
    · simp
    · simp
    · rfl
  | currency code =>
    refine Json.Reader.record_of_texts
      [("FromDate", start), ("ToDate", stop), ("ValutaCode", code)] ?_ ?_ ?_ _
    · simp
    · simp
    · rfl

theorem check_request (sound : k.IsSound) (l : Layouts) :
    (k.request start stop).check l = (Request.readRange l start stop).map fun _ => () := by
  cases k with
  | dates => rfl
  | currency code => exact if_neg sound.1

theorem parse_request {o : Operation} {l : Layouts} {body : List UInt8}
    (takes : o.descriptor.request = k.shape) (sound : k.IsSound)
    (read : Json.Reader.document k.shape.reader (Request.orEmptyObject body) =
      .ok (k.request start stop)) :
    o.parse l body = (Request.readRange l start stop).map fun _ => k.request start stop := by
  rw [Operation.parse, takes, Request.parse, read]
  dsimp only
  rw [check_request sound]
  cases Request.readRange l start stop <;> rfl

theorem fields_request {a b : Date} {l : Layouts} {s t : String}
    (range : Request.readRange l start stop = .ok (a, b)) (first : l.writeDate a = .ok s)
    (last : l.writeDate b = .ok t) : (k.request start stop).fields l = .ok (k.elements s t) := by
  cases k with
  | dates =>
    rw [request, Request.fields, range]
    dsimp only
    rw [first, last]
    rfl
  | currency code =>
    rw [request, Request.fields, range]
    dsimp only
    rw [first, last]
    rfl

theorem isFree_midnight {d : Date} (plain : d.IsPlain) :
    Envelope.IsFree (d.text ++ "T00:00:00").toList := by
  refine Envelope.isFree_of_short ?_
  rw [String.toList_append, List.length_append, plain.length_text]
  decide

/-- The elements of a sound request do not hold the token of the slot, if its dates do not. -/
theorem isFree_elements {first last : String} (sound : k.IsSound)
    (freeFirst : Envelope.IsFree first.toList) (freeLast : Envelope.IsFree last.toList) :
    ∀ f ∈ k.elements first last, Envelope.IsFree f.1.toList ∧ Envelope.IsFree f.2.toList := by
  have fromDate : Envelope.IsFree "fromDate".toList := Envelope.isFree_of_short (by decide)
  have capital : Envelope.IsFree "FromDate".toList := Envelope.isFree_of_short (by decide)
  have toDate : Envelope.IsFree "ToDate".toList := Envelope.isFree_of_short (by decide)
  have valuta : Envelope.IsFree "ValutaCode".toList := Envelope.isFree_of_short (by decide)
  cases k with
  | dates => simpa [elements] using ⟨⟨fromDate, freeFirst⟩, toDate, freeLast⟩
  | currency code =>
    have trimmed : Envelope.IsFree (Text.trim code).toList := by
      intro found
      rw [Text.trim, String.toList_ofList] at found
      exact sound.2 (found.trans (Text.trimBy_infix Text.isBlank code.toList))
    simpa [elements] using ⟨⟨capital, freeFirst⟩, ⟨toDate, freeLast⟩, valuta, trimmed⟩

theorem elements_named (first last : String) :
    ∀ f ∈ k.elements first last, Xml.isName f.1.toList = true := by
  have fromDate : Xml.isName "fromDate".toList = true := by decide
  have capital : Xml.isName "FromDate".toList = true := by decide
  have toDate : Xml.isName "ToDate".toList = true := by decide
  have valuta : Xml.isName "ValutaCode".toList = true := by decide
  cases k with
  | dates => simpa [elements] using ⟨fromDate, toDate⟩
  | currency code => simpa [elements] using ⟨capital, toDate, valuta⟩

end RangeKind

/-- A flat element in an envelope is read as what it is. -/
theorem Envelope.trees_render {e : FlatElement} (named : Xml.isName e.name.toList = true)
    (names : ∀ f ∈ e.fields, Xml.isName f.1.toList = true) :
    trees (head.toList ++ e.render ++ tail.toList) =
      some [.element "soap:Envelope" declarations [.element "soap:Body" [] [e.tree]]] := by
  have wf : (e.forest .nil).WellFormed := FlatElement.forest_wellFormed named names trivial
  have read : (e.forest .nil).trees? = some [e.tree] := FlatElement.forest_trees? e .nil
  have source := around_source (e.forest .nil)
  have fragment : (e.forest .nil).source = e.render := by
    rw [FlatElement.forest_source]
    exact List.append_nil _
  have unmarked := Xml.Forest.unmarked_of_markup (f := around (e.forest .nil)) rfl
  rw [fragment] at source
  rw [← source, Xml.Forest.trees_source (around_wellFormed wf) unmarked, around_trees? read]

theorem Operation.isFree_name (o : Operation) : Envelope.IsFree o.name.toList := by
  refine Envelope.isFree_of_short ?_
  cases o <;> simp [name, descriptor]

/-- A range of days is accepted unless it ends before it starts, and then the two texts are reported
as they came. -/
theorem Request.readRange_text {a b : Date} {start stop : String} (plainA : a.IsPlain)
    (plainB : b.IsPlain) (first : Text.Surrounds start a.text) (last : Text.Surrounds stop b.text) :
    (¬ b.Precedes a → readRange {} start stop = .ok (a, b)) ∧
      (b.Precedes a → readRange {} start stop = .error (.reversedRange start stop)) := by
  rw [readRange, Layouts.readDate_text plainA first, Layouts.readDate_text plainB last]
  dsimp only
  rw [← Date.before_iff plainB.toExists plainA.toExists]
  exact ⟨fun ordered => if_neg ordered, fun reversed => if_pos reversed⟩

/-- With the default layouts, two days of the years 0000 to 9999 that are written as `YYYY-MM-DD`
with any white space around them can be asked for with every operation that takes a range, and with
any currency code that is not blank and does not hold the token of the slot. If the first is not
after the last, the body is accepted, and the call carries exactly these days at midnight. If it is,
the body is refused with the two texts as they came. -/
theorem range_is_carried {o : Operation} {k : RangeKind} {a b : Date} {start stop xmlns : String}
    (takes : o.descriptor.request = k.shape) (sound : k.IsSound) (plainA : a.IsPlain)
    (plainB : b.IsPlain) (first : Text.Surrounds start a.text) (last : Text.Surrounds stop b.text)
    (free : Envelope.IsFree xmlns.toList) :
    let r := k.request start stop
    let reads := fun body =>
      Json.Reader.document k.shape.reader (Request.orEmptyObject body) = .ok r
    reads (k.body start stop) ∧ ∀ body, reads body →
      (¬ b.Precedes a → o.parse {} body = .ok r ∧
        ∃ call, (Codec.mk xmlns {}).encode o.name r = .ok call ∧
          trees call.body.toList = some [.element "soap:Envelope" Envelope.declarations
            [.element "soap:Body" [] [.element o.name [("xmlns", xmlns)]
              ((k.elements (a.text ++ "T00:00:00") (b.text ++ "T00:00:00")).map fun f =>
                Tree.holding f.1 f.2)]]]) ∧
      (b.Precedes a → o.parse {} body = .error (.reversedRange start stop)) := by
  intro r reads
  obtain ⟨ordered, reversed⟩ := Request.readRange_text plainA plainB first last
  refine ⟨k.document_body start stop, fun body read => ⟨fun inOrder => ⟨?_, ?_⟩, fun late => ?_⟩⟩
  · rw [RangeKind.parse_request takes sound read, ordered inOrder]
    rfl
  · let e : FlatElement :=
      ⟨o.name, xmlns, k.elements (a.text ++ "T00:00:00") (b.text ++ "T00:00:00")⟩
    have given := RangeKind.fields_request (k := k) (ordered inOrder)
      (Layouts.writeDate_text plainA) (Layouts.writeDate_text plainB)
    have written := Request.write_eq given o.checkName_name xmlns
    have clear : Envelope.IsFree e.render :=
      Envelope.isFree_render o.isFree_name free (RangeKind.isFree_elements sound
        (RangeKind.isFree_midnight plainA) (RangeKind.isFree_midnight plainB))
    have encoded := Codec.encode_eq (c := ⟨xmlns, {}⟩) written
      (by rw [String.toList_ofList]; exact Envelope.isFree_iff.mp clear)
    refine ⟨_, encoded, ?_⟩
    rw [String.toList_ofList, String.toList_ofList]
    exact Envelope.trees_render (e := e) o.name_element.1 (RangeKind.elements_named _ _)
  · rw [RangeKind.parse_request takes sound read, reversed late]
    rfl

/-- From the leap day of a century to the day after it, with white space around a date and around
the code; the other way round the range is refused. -/
theorem range_is_carried_cursDynamic :
    let k : RangeKind := .currency " R01235 "
    let start := "\u00a0 2000-02-29\t"
    let stop := "2000-03-01"
    Operation.cursDynamic.parse {} (k.body start stop) = .ok (k.request start stop) ∧
      (∃ call, (Codec.mk "http://web.cbr.ru/" {}).encode "GetCursDynamicXML"
          (k.request start stop) = .ok call ∧
        trees call.body.toList = some [.element "soap:Envelope" Envelope.declarations
          [.element "soap:Body" [] [.element "GetCursDynamicXML" [("xmlns", "http://web.cbr.ru/")]
            [Tree.holding "FromDate" "2000-02-29T00:00:00",
              Tree.holding "ToDate" "2000-03-01T00:00:00", Tree.holding "ValutaCode" "R01235"]]]]) ∧
      Operation.cursDynamic.parse {} (k.body stop start) = .error (.reversedRange stop start) := by
  intro k start stop
  let a : Date := ⟨2000, 2, 29⟩
  let b : Date := ⟨2000, 3, 1⟩
  have plainA : a.IsPlain := ⟨⟨by decide, by decide, by decide, by decide⟩, by decide, by decide⟩
  have plainB : b.IsPlain := ⟨⟨by decide, by decide, by decide, by decide⟩, by decide, by decide⟩
  have textA : a.text = "2000-02-29" := by decide +kernel
  have textB : b.text = "2000-03-01" := by decide +kernel
  have first : Text.Surrounds start a.text := by
    rw [textA]
    refine ⟨['\u00a0', ' '], ['\t'], ?_, ?_, by decide +kernel⟩
    · rw [← List.all_eq_true]
      decide
    · rw [← List.all_eq_true]
      decide
  have last : Text.Surrounds stop b.text := by
    rw [textB]
    exact ⟨[], [], by simp, by simp, by decide +kernel⟩
  have free : Envelope.IsFree "http://web.cbr.ru/".toList := Envelope.isFree_of_short (by decide)
  have sound : k.IsSound := ⟨by decide +kernel, Envelope.isFree_of_short (by decide)⟩
  have later : ¬ b.Precedes a := by
    unfold Date.Precedes
    decide
  have earlier : a.Precedes b := by
    unfold Date.Precedes
    decide
  have trimmed : Text.trim " R01235 " = "R01235" := by decide +kernel
  obtain ⟨read, every⟩ :=
    range_is_carried (o := .cursDynamic) rfl sound plainA plainB first last free
  obtain ⟨read', every'⟩ :=
    range_is_carried (o := .cursDynamic) rfl sound plainB plainA last first free
  obtain ⟨accepted, call, encoded, carried⟩ := (every _ read).1 later
  refine ⟨accepted, ⟨call, encoded, ?_⟩, (every' _ read').2 earlier⟩
  rw [carried, textA, textB]
  change some [Tree.element _ _ [Tree.element _ _ [Tree.element _ _ [_, _,
    Tree.holding "ValutaCode" (Text.trim " R01235 ")]]]] = _
  rw [trimmed]
  rfl

end SoapGateway
