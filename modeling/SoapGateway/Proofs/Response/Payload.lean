import SoapGateway.Proofs.Json.Array
import SoapGateway.Proofs.Response.Decode
import SoapGateway.Proofs.Response.Sanitize

/-!
# Payloads carry whole responses

The payload of a listing is read back as the listing, row by row and text by text. The headline is
read under other names than it is written with, so its payload is not read back; a reader that goes
by the written names shows that nothing is lost there either.
-/
namespace SoapGateway

open Json (ReadsBack)

namespace Response

open Json.Reader (Entry Listable Readable)

/-- The names of the fields of a row find its texts again. -/
theorem ofNamed_named {fields : List String} (once : fields.Nodup) (r : Row fields) :
    Row.ofNamed fields r.named = r := by
  have values := lookup_zip once r.filled
  cases r
  simp only [Row.ofNamed, Row.named, values]

theorem row_readsBack {fields : List String} (once : fields.Nodup) (row : String)
    (r : Row fields) : ReadsBack (rowReader row fields) (object r.named) r := by
  have names : r.named.map Prod.fst = fields := List.map_fst_zip (Nat.le_of_eq r.filled.symm)
  have built : (fun m => .ok (Row.ofNamed fields m) : _ → Except String (Row fields)) r.named =
      .ok r := congrArg Except.ok (ofNamed_named once r)
  refine Json.Reader.record_of_texts r.named ?_ ?_ built (recordName row)
  · intro m member
    have named := List.mem_map_of_mem (f := Prod.fst) member
    rwa [names] at named
  · rwa [names]

/-- A listing is read back from its own document. -/
theorem rows_readsBack {response row tag : String} {fields : List String} (once : fields.Nodup)
    (rs : List (Row fields)) :
    ReadsBack (reader (.listing response row tag fields))
      (json (rows rs : Response (.listing response row tag fields))) (rows rs) := by
  have listable : Listable (rowReader row fields) (rs.map fun r => (object r.named, r)) := by
    constructor
    · intro e member
      obtain ⟨r, _, rfl⟩ := List.mem_map.mp member
      exact Json.Reader.opens_object _
    · intro e member
      obtain ⟨r, _, rfl⟩ := List.mem_map.mp member
      exact row_readsBack once row r
  have items := Json.Reader.list_readsBack listable
  have documents : (rs.map fun r => (object r.named, r)).map Prod.fst =
      rs.map fun r => object r.named := List.map_map
  have values : (rs.map fun r => (object r.named, r)).map Prod.snd = rs := by
    rw [List.map_map]
    exact List.map_id rs
  rw [documents, values] at items
  have readable : Readable [tag] (Json.Reader.list (rowReader row fields))
      [⟨tag, .array (rs.map fun r => object r.named), rs⟩] :=
    ⟨by simp, by simp, by simpa using items⟩
  have document : json (rows rs : Response (.listing response row tag fields)) =
      .object [(tag, .array (rs.map fun r => object r.named))] := rfl
  rw [document, reader]
  refine Json.Reader.record_readsBack readable ?_ (recordName response)
  simp [Json.Reader.Members.get?]

/-- Reads an indicator under the names that it is written with. -/
def indicatorReader : Json.Reader Indicator :=
  Json.Reader.record (recordName "Indicator") ["Title", "Date", "Value"] Json.Reader.text fun m =>
    .ok ⟨(m.lookup "Title").getD "", (m.lookup "Date").getD "", (m.lookup "Value").getD ""⟩

theorem indicator_readsBack (i : Indicator) : ReadsBack indicatorReader (indicatorJson i) i := by
  refine Json.Reader.record_of_texts [("Title", i.title), ("Date", i.date), ("Value", i.value)]
    ?_ ?_ ?_ (recordName "Indicator")
  · simp
  · simp
  · rfl

/-- Reads a headline under the names that it is written with. -/
def headlineReader : Json.Reader (Response .headline) :=
  Json.Reader.record (recordName "MainInfoData") headlineKeys indicatorReader fun m =>
    .ok (.headline (headlineOf m))

theorem headline_readsBack (h : Headline) :
    ReadsBack headlineReader (json (headline h)) (headline h) := by
  let entries : List (Entry Indicator) :=
    (indicators h).map fun named => ⟨named.1, indicatorJson named.2, named.2⟩
  have readable : Readable headlineKeys indicatorReader entries := by
    refine ⟨?_, ?_, ?_⟩
    · intro e member
      obtain ⟨named, given, rfl⟩ := List.mem_map.mp member
      exact List.mem_map_of_mem (f := Prod.fst) given
    · have names : entries.map Entry.key = headlineKeys := rfl
      rw [names]
      decide
    · intro e member
      obtain ⟨named, _, rfl⟩ := List.mem_map.mp member
      exact indicator_readsBack named.2
  have document : json (headline h) = .object (entries.map fun e => (e.key, e.document)) := rfl
  rw [document, headlineReader]
  refine Json.Reader.record_readsBack readable ?_ (recordName "MainInfoData")
  rfl

/-- What is read back from payloads tells them apart. -/
theorem payload_injective_of_readsBack {s : Schema} (read : Json.Reader (Response s))
    (back : ∀ r : Response s, ReadsBack read r.json r) :
    Function.Injective (payload : Response s → String) := by
  intro r r' same
  have first := Json.Reader.document_readsBack (back r)
  have second := Json.Reader.document_readsBack (back r')
  rw [payload, payload] at same
  rw [same, second] at first
  exact (Except.ok.inj first).symm

end Response

namespace Operation

/-- Every operation but the headline answers with a listing whose fields differ. -/
theorem listing_of_ne (o : Operation) (listing : o ≠ .mainInfo) :
    ∃ response row tag fields, o.descriptor.response = .listing response row tag fields ∧
      fields.Nodup := by
  have plain := o.plainSchema
  cases given : o.descriptor.response with
  | listing response row tag fields =>
    rw [given, Response.plainSchema, Bool.and_eq_true, decide_eq_true_eq] at plain
    exact ⟨response, row, tag, fields, rfl, plain.2⟩
  | headline => cases o <;> simp_all [descriptor]

/-- Different responses of an operation have different payloads, and the payload of a listing is
read back as the very response that it was made of. -/
theorem payload_faithful (o : Operation) :
    Function.Injective (Response.payload : Response o.descriptor.response → String) ∧
      (o ≠ .mainInfo → ∀ r : Response o.descriptor.response,
        Json.Reader.document (Response.reader o.descriptor.response) (Utf8.bytesOf r.payload) =
          .ok r) := by
  by_cases listing : o = .mainInfo
  · subst listing
    refine ⟨Response.payload_injective_of_readsBack Response.headlineReader ?_,
      fun other => absurd rfl other⟩
    intro r
    cases r with
    | headline h => exact Response.headline_readsBack h
  · obtain ⟨response, row, tag, fields, given, once⟩ := o.listing_of_ne listing
    have back : ∀ r : Response o.descriptor.response,
        ReadsBack (Response.reader o.descriptor.response) r.json r := by
      rw [given]
      intro r
      cases r with
      | rows rs => exact Response.rows_readsBack once rs
    exact ⟨Response.payload_injective_of_readsBack _ back,
      fun _ r => Json.Reader.document_readsBack (back r)⟩

/-- Quotes, backslashes, controls, texts that look like escapes or like a payload, and characters of
every width come back. -/
theorem payload_faithful_saldo :
    let r : Response saldo.descriptor.response :=
      .rows [⟨["\"\\u0022\x00\n", "\x7b\"So\":[]\x7d"], rfl⟩, ⟨["\x7f/\u00a0€", "😀"], rfl⟩]
    saldo ≠ .mainInfo ∧
      r.payload = "\x7b\"So\":[\x7b\"Dt\":\"\\\"\\\\u0022\\u0000\\n\"," ++
        "\"DEADLINEBS\":\"\x7b\\\"So\\\":[]\x7d\"\x7d," ++
        "\x7b\"Dt\":\"\x7f/\u00a0€\",\"DEADLINEBS\":\"😀\"\x7d]\x7d" ∧
      Json.Reader.document (Response.reader saldo.descriptor.response)
        (Utf8.bytesOf r.payload) = .ok r := by
  intro r
  have listing : saldo ≠ .mainInfo := by decide
  exact ⟨listing, by decide +kernel, (payload_faithful saldo).2 listing r⟩

end Operation

end SoapGateway
