import SoapGateway.Dispatcher
import SoapGateway.Proofs.Request
import SoapGateway.Proofs.Xml.Element
import SoapGateway.Proofs.Xml.Locate

/-!
# Calls and their data

A call is the fixed envelope around one flat element. What a caller, a layout or a namespace puts
into it stays text: the call is read back as the same elements whatever that text is.
-/
namespace SoapGateway.Envelope

open Xml

/-- The namespaces that every envelope declares. -/
def declarations : List (String × String) :=
  [("xmlns:xsi", "http://www.w3.org/2001/XMLSchema-instance"),
    ("xmlns:xsd", "http://www.w3.org/2001/XMLSchema"),
    ("xmlns:soap", "http://schemas.xmlsoap.org/soap/envelope/")]

/-- The start tag of the envelope. -/
def envelopeTag : Tag where
  name := "soap:Envelope".toList
  attributes := declarations.map fun d => { name := d.1.toList, value := d.2.toList }

/-- The start tag of its body. -/
def bodyTag : Tag := .plain "soap:Body"

/-- The envelope around what its body holds. -/
def around (inner : Forest) : Forest :=
  .element envelopeTag (.element bodyTag inner [] .nil) [] .nil

-- Literals become lists of characters by rewriting, which spares the kernel their decoding.
theorem head_eq : head.toList = envelopeTag.opening ++ bodyTag.opening := by
  delta head envelopeTag bodyTag declarations
  simp only [Tag.opening, Tag.source, Tag.plain, WrittenAttribute.source, List.map_cons,
    List.map_nil, List.flatMap_cons, List.flatMap_nil, String.toList_append]
  repeat rw [String.toList_ofList]
  rfl

theorem tail_eq : tail.toList = bodyTag.closing [] ++ envelopeTag.closing [] := by
  delta tail envelopeTag bodyTag
  simp only [Tag.closing, Tag.plain]
  repeat rw [String.toList_ofList]
  rfl

theorem pieces_skeleton :
    Text.pieces slot.toList skeleton.toList = [head.toList, tail.toList] := by
  delta skeleton slot slotToken head tail
  simp only [String.toList_append]
  repeat rw [String.toList_ofList]
  decide +kernel

/-- A fragment without the reserved token ends up between the two parts of the envelope. -/
theorem splice_eq {fragment : String}
    (free : Text.occursIn slotToken.toList fragment.toList = false) :
    splice fragment = .ok (String.ofList (head.toList ++ fragment.toList ++ tail.toList)) := by
  rw [splice, if_neg (by rw [free]; decide), spliceInto, pieces_skeleton]

theorem splice_ok {fragment body : String} (success : splice fragment = .ok body) :
    body.toList = head.toList ++ fragment.toList ++ tail.toList := by
  cases reserved : Text.occursIn slotToken.toList fragment.toList with
  | true =>
    rw [splice, if_pos reserved] at success
    cases success
  | false =>
    rw [splice_eq reserved, Except.ok.injEq] at success
    rw [← success, String.toList_ofList]

theorem around_source (inner : Forest) :
    (around inner).source = head.toList ++ inner.source ++ tail.toList := by
  rw [head_eq, tail_eq]
  simp [around, Forest.source]

theorem envelopeTag_wellFormed : envelopeTag.WellFormed where
  name := by decide
  attributes := by
    have each : ∀ d ∈ declarations, isName d.1.toList = true ∧ '"' ∉ d.2.toList := by
      delta declarations
      repeat rw [List.forall_mem_cons]
      repeat rw [String.toList_ofList]
      decide +kernel
    intro a member
    obtain ⟨d, declared, rfl⟩ := List.mem_map.mp member
    obtain ⟨named, value⟩ := each d declared
    exact ⟨by simp, rfl, named, rfl, rfl, .inl rfl, value⟩
  once := by decide
  space := rfl

theorem around_wellFormed {inner : Forest} (wf : inner.WellFormed) : (around inner).WellFormed := by
  have body : bodyTag.WellFormed := .plain (by decide)
  exact ⟨envelopeTag_wellFormed, ⟨body, wf, rfl, trivial⟩, rfl, trivial⟩

/-- An envelope is read as two elements around what it holds. -/
theorem around_trees? {inner : Forest} {children : List Tree}
    (read : inner.trees? = some children) :
    (around inner).trees? =
      some [.element "soap:Envelope" declarations [.element "soap:Body" [] children]] := by
  have values : envelopeTag.values? = some declarations := by
    delta envelopeTag declarations
    decide +kernel
  have envelopeName : String.ofList envelopeTag.name = "soap:Envelope" := String.ofList_toList
  have bodyName : String.ofList bodyTag.name = "soap:Body" := String.ofList_toList
  have nothing : Forest.nil.trees? = some [] := rfl
  have inside := Forest.trees?_element (Tag.values?_plain "soap:Body") read nothing []
  have whole := Forest.trees?_element values inside nothing []
  rwa [envelopeName, ← bodyTag, bodyName] at whole

/-- A search for another name goes on in the body. -/
theorem around_first? {target : String} (envelope : target ≠ "Envelope") (body : target ≠ "Body")
    (inner : Forest) :
    (around inner).first? target.toList = inner.first? target.toList := by
  have outside : localName envelopeTag.name = "Envelope".toList := by decide
  have inside : localName bodyTag.name = "Body".toList := by decide
  have first : "Envelope".toList ≠ target.toList :=
    fun eq => envelope (String.toList_inj.mp eq.symm)
  have second : "Body".toList ≠ target.toList :=
    fun eq => body (String.toList_inj.mp eq.symm)
  simp only [around, Forest.first?, outside, inside, if_neg first, if_neg second, Option.or_none]

end SoapGateway.Envelope

namespace SoapGateway

open Xml (Tree FlatElement trees)

theorem Xml.checkName_of_isName {name : String} (named : isName name.toList = true) :
    checkName name = .ok () := by
  obtain ⟨c, rest, split, start, chars⟩ := isName_cases named
  have sound : (c :: rest).find? (fun d => !isNameChar d) = none := by
    rw [List.find?_eq_none, ← split]
    intro d member
    rw [chars d member]
    decide
  rw [checkName, split]
  simp only [start, sound]
  rfl

/-- Names of operations can name an element, have no prefix, and differ from those of the
envelope. -/
theorem Operation.name_element (o : Operation) :
    Xml.isName o.name.toList = true ∧ Xml.localName o.name.toList = o.name.toList ∧
      o.name ≠ "Envelope" ∧ o.name ≠ "Body" := by
  cases o <;> decide

theorem Operation.checkName_name (o : Operation) : Xml.checkName o.name = .ok () :=
  Xml.checkName_of_isName o.name_element.1

namespace Codec

theorem encode_eq {c : Codec} {name fragment : String} {r : Request}
    (written : r.write name c.xmlns c.layouts = .ok fragment)
    (free : Text.occursIn Envelope.slotToken.toList fragment.toList = false) :
    c.encode name r = .ok ⟨c.xmlns ++ name, Envelope.contentType,
      String.ofList (Envelope.head.toList ++ fragment.toList ++ Envelope.tail.toList)⟩ := by
  rw [encode, written]
  dsimp only
  rw [Envelope.splice_eq free]

/-- The call of an operation whose request has no members. -/
def bareCall (c : Codec) (o : Operation) : SoapRequest :=
  ⟨c.xmlns ++ o.name, Envelope.contentType, String.ofList (Envelope.head.toList ++
    Xml.FlatElement.render ⟨o.name, c.xmlns, []⟩ ++ Envelope.tail.toList)⟩

theorem encode_bare {c : Codec} {o : Operation}
    (free : Text.occursIn Envelope.slotToken.toList
      (Xml.FlatElement.render ⟨o.name, c.xmlns, []⟩) = false) :
    c.encode o.name .empty = .ok (c.bareCall o) := by
  have written := Request.write_eq (l := c.layouts) (r := .empty) rfl o.checkName_name c.xmlns
  have encoded := encode_eq written (by rwa [String.toList_ofList])
  rw [encoded, String.toList_ofList, bareCall]

theorem encode_ok {c : Codec} {name : String} {r : Request} {call : SoapRequest}
    (success : c.encode name r = .ok call) :
    ∃ fragment, r.write name c.xmlns c.layouts = .ok fragment ∧ call.action = c.xmlns ++ name ∧
      call.body.toList = Envelope.head.toList ++ fragment.toList ++ Envelope.tail.toList := by
  unfold encode at success
  split at success
  · cases success
  · next fragment written =>
    split at success
    · cases success
    · next body spliced =>
      cases success
      exact ⟨fragment, written, rfl, Envelope.splice_ok spliced⟩

/-- The call of an accepted body holds one element of the operation, in the namespace of the
gateway, with the texts that belong to the request. A search for the operation finds exactly its
source, and the envelope around it is always the same: no text that goes in adds an element, takes
one away or changes one. -/
theorem encode_tree {o : Operation} {l : Layouts} {body : List UInt8} {r : Request} {c : Codec}
    {call : SoapRequest} (accepted : o.parse l body = .ok r)
    (encoded : c.encode o.name r = .ok call) :
    call.action = c.xmlns ++ o.name ∧ r.shape = o.descriptor.request ∧
      ∃ fragment children element,
        r.write o.name c.xmlns c.layouts = .ok fragment ∧
        Response.locate o.name call.body = .ok fragment ∧
        r.Children c.layouts children ∧
        element = Tree.element o.name [("xmlns", c.xmlns)]
          (children.map fun f => Tree.holding f.1 f.2) ∧
        trees fragment.toList = some [element] ∧
        trees call.body.toList = some [Tree.element "soap:Envelope" Envelope.declarations
          [Tree.element "soap:Body" [] [element]]] := by
  obtain ⟨fragment, written, action, sent⟩ := encode_ok encoded
  obtain ⟨children, belong, _, rendered⟩ := Request.write_ok written
  obtain ⟨named, unprefixed, notEnvelope, notBody⟩ := o.name_element
  let e : FlatElement := ⟨o.name, c.xmlns, children⟩
  have wf : (e.forest .nil).WellFormed :=
    FlatElement.forest_wellFormed (e := e) named belong.names trivial
  have source : (e.forest .nil).source = fragment.toList := by
    rw [FlatElement.forest_source, rendered, String.toList_ofList]
    exact List.append_nil _
  have whole : (Envelope.around (e.forest .nil)).source = call.body.toList := by
    rw [Envelope.around_source, source, sent]
  have read : (e.forest .nil).trees? = some [e.tree] := FlatElement.forest_trees? e .nil
  have markup : (e.forest .nil).isText = false := by
    unfold FlatElement.forest
    split <;> rfl
  have aroundWf := Envelope.around_wellFormed wf
  have unmarked := Xml.Forest.unmarked_of_markup (f := Envelope.around (e.forest .nil)) rfl
  have shape : r.shape = o.descriptor.request := Request.shape_of_parse accepted
  refine ⟨action, shape, fragment, children, e.tree, written, ?_, belong, rfl, ?_, ?_⟩
  · have first : (Envelope.around (e.forest .nil)).first? o.name.toList = some (e.forest .nil) := by
      rw [Envelope.around_first? notEnvelope notBody]
      unfold FlatElement.forest
      split <;> simp [Xml.Forest.first?, FlatElement.tag, e, unprefixed]
    rw [Response.locate, ← whole, Xml.Forest.locate_source aroundWf unmarked, first]
    simp only [source, String.ofList_toList]
  · rw [← source, Xml.Forest.trees_source wf (Xml.Forest.unmarked_of_markup markup), read]
  · rw [← whole, Xml.Forest.trees_source aroundWf unmarked, Envelope.around_trees? read]

/-- A currency code that looks like markup and a namespace with a quote stay what they are. -/
theorem encode_tree_markup :
    let c : Codec := { xmlns := "urn:\"<&>" }
    let body := Utf8.bytesOf ("\x7b\"FromDate\":\"2023-01-02\",\"ToDate\":\"2023-01-03\"," ++
      "\"ValutaCode\":\" </ValutaCode><x/>&amp; \"\x7d")
    let r : Request := .currencyRange "2023-01-02" "2023-01-03" " </ValutaCode><x/>&amp; "
    ∃ call s t, Operation.cursDynamic.parse c.layouts body = .ok r ∧
      c.encode Operation.cursDynamic.name r = .ok call ∧
      trees call.body.toList = some [Tree.element "soap:Envelope" Envelope.declarations
        [Tree.element "soap:Body" [] [Tree.element "GetCursDynamicXML" [("xmlns", "urn:\"<&>")]
          [Tree.holding "FromDate" s, Tree.holding "ToDate" t,
            Tree.holding "ValutaCode" "</ValutaCode><x/>&amp;"]]]] := by
  intro c body r
  have accepted : Operation.cursDynamic.parse c.layouts body = .ok r := by decide +kernel
  have given : r.fields c.layouts = .ok [("FromDate", "2023-01-02T00:00:00"),
      ("ToDate", "2023-01-03T00:00:00"), ("ValutaCode", "</ValutaCode><x/>&amp;")] := by
    decide +kernel
  have named : Xml.checkName Operation.cursDynamic.name = .ok () := by decide +kernel
  have written := Request.write_eq given named c.xmlns
  have encoded := encode_eq written (by rw [String.toList_ofList]; decide +kernel)
  obtain ⟨_, _, _, _, _, _, _, belong, rfl, _, read⟩ := encode_tree accepted encoded
  have trimmed : Text.trim " </ValutaCode><x/>&amp; " = "</ValutaCode><x/>&amp;" := by
    decide +kernel
  dsimp only [r] at belong
  cases belong with
  | currencyRange _ _ _ _ =>
    rw [trimmed] at read
    exact ⟨_, _, _, accepted, encoded, read⟩

end Codec

end SoapGateway
