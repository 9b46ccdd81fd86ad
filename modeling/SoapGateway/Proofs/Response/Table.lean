import SoapGateway.Proofs.Response.Decode
import SoapGateway.Proofs.Response.Sanitize
import SoapGateway.Proofs.Response.Slice
import SoapGateway.Proofs.Xml.CharacterData
import SoapGateway.Proofs.Xml.Record
import SoapGateway.Response.Table
import Mathlib.Data.List.Forall2

/-!
# Listings in any document

Whatever a body holds, a listing that is read from it has the rows of its table and no others, in
their order, each with the texts of its own fields. What the table leaves out makes no difference,
as long as the body is read at all. A byte order mark in front of the body is excepted: with it the
element is cut out too early, and rows are lost.
-/
namespace SoapGateway.Response

open Xml
open Cursor (before)

/-- The texts of a row with the names of their fields, given what stands in the elements of each. -/
def IsRow (fields : List String) (contents : List (List Outline))
    (cells : List (String × String)) : Prop :=
  cells.map Prod.fst = fields ∧ List.Forall₂ Fills contents (cells.map Prod.snd)

/-- The text of a field as it is read. -/
inductive Tells : List Outline → String → Prop
  | absent : Tells [] ""
  | only {content : Outline} {s : List Char} (spells : content.Spells s) :
    Tells [content] (String.ofList s)

theorem Tells.fills {contents : List Outline} {s : String} (tells : Tells contents s) :
    Fills contents s := by
  cases tells with
  | absent => exact .absent
  | only spells =>
    obtain ⟨data, read, same⟩ := spells.data
    refine .only read ?_
    rw [String.toList_ofList, same]

theorem tells_unique : Relator.RightUnique Tells := by
  intro contents s s' tells tells'
  cases tells with
  | absent =>
    cases tells'
    rfl
  | only spells =>
    cases tells' with
    | only spells' => rw [spells.unique spells']

/-- A row as it is read. -/
def RowTells (fields : List String) (content : Outline) (row : Row fields) : Prop :=
  List.Forall₂ Tells (fields.map content.children) row.values

theorem readRow_inside {fields : List String} (plain : ∀ k ∈ fields, plainKey k = true)
    (limit : Nat) : ReadsInside (readRow fields) limit (RowTells fields) := by
  intro tag inner es row c room read
  obtain ⟨⟨parts, c'⟩, taken, same⟩ := map_eq_ok read
  obtain ⟨rfl, rfl⟩ := Prod.mk.inj same
  have named : ∀ k ∈ fields, isName k.toList = true := fun k member =>
    isName_plainKey (plain k member)
  obtain ⟨passed, gains⟩ := readFields_ok textField_takes named room taken
  refine ⟨passed, ?_⟩
  rw [RowTells, Row.ofNamed, List.forall₂_map_left_iff, List.forall₂_map_right_iff,
    List.forall₂_same]
  intro field member
  rcases gains field member with ⟨none, kept⟩ | ⟨_, s, found, tag, content, u, one, spells, rfl⟩
  · rw [Outline.children, none, kept]
    exact .absent
  · rw [Outline.children, one, found]
    exact .only spells

/-- The rows that are read from an element are those of its table. -/
theorem readContent_listing {response row key : String} {fields : List String}
    (plain : plainSchema (.listing response row key fields) = true) {slice : List Char}
    {inner : Outline} (whole : IsElement slice inner)
    {r : Response (.listing response row key fields)}
    (read : readContent _ (Cursor.ofText slice) = .ok r) :
    ∃ rows, r = .rows rows ∧ List.Forall₂ (RowTells fields) (inner.children key) rows := by
  rw [plainSchema, Bool.and_eq_true, Bool.and_eq_true, List.all_eq_true] at plain
  obtain ⟨tag, limit, room, text⟩ := Outline.ofText_isElement whole
  have named : ∀ k ∈ [key], isName k.toList = true := by
    intro k member
    rw [List.mem_singleton.mp member]
    exact isName_plainKey plain.1.1
  obtain ⟨⟨parts, c⟩, taken, rfl⟩ := map_eq_ok read
  rw [text, readRecord, Cursor.next_start] at taken
  dsimp only at taken
  obtain ⟨_, gains⟩ := readFields_ok
    (runField_takes (recordName row) (readRow_inside plain.1.2 (limit + 1))) named room taken
  refine ⟨_, rfl, ?_⟩
  rw [Outline.children, List.forall₂_map_left_iff]
  rcases gains key (List.mem_singleton_self key) with ⟨none, kept⟩ | ⟨_, rows, found, lists⟩
  · rw [none, kept]
    exact .nil
  · rw [found]
    exact lists

/-- Without a byte order mark, what is located is the text of the first element with the name. -/
theorem isElement_of_locate {target xml slice : List Char}
    (unmarked : xml.head? ≠ some byteOrderMark) (located : Xml.locate xml target = .ok slice) :
    ∃ inner, Outline.first? target (Xml.events xml) = some inner ∧ IsElement slice inner := by
  rw [Xml.locate] at located
  split at located
  · cases located
  · next before node found =>
    rw [if_neg unmarked] at located
    obtain rfl := Except.ok.inj located
    exact first?_of_find rfl found

/-- A listing that is decoded has a row for each row of its table. -/
theorem decode_listing {s : Schema} {response row key target : String} {fields : List String}
    (listing : s = .listing response row key fields) (plain : plainSchema s = true)
    {body : List UInt8} (unmarked : ¬ Utf8.encode [byteOrderMark] <+: body) {r : Response s}
    (decoded : decode s target body = .ok r) :
    ∃ inner rows, content? target body = some inner ∧
      List.Forall₂ (RowTells fields) (inner.children key) rows ∧ r.cells = rows.map Row.named := by
  subst listing
  rw [decode] at decoded
  split at decoded
  · cases decoded
  · next xml text =>
    split at decoded
    · cases decoded
    · next slice located =>
      split at decoded
      · next r' read =>
        obtain rfl := Except.ok.inj decoded
        have plainHead : xml.head? ≠ some byteOrderMark := by
          intro first
          obtain ⟨rest, rfl⟩ := List.head?_eq_some_iff.mp first
          rw [Utf8.eq_encode_of_decode text] at unmarked
          exact unmarked ⟨Utf8.encode rest, (Utf8.encode_append [byteOrderMark] rest).symm⟩
        obtain ⟨inner, content, whole⟩ := isElement_of_locate plainHead located
        obtain ⟨rows, rfl, tells⟩ := readContent_listing plain whole read
        exact ⟨inner, rows, by rw [content?, text]; exact content, tells, rfl⟩
      · cases decoded

theorem values_injective {fields : List String} {row row' : Row fields}
    (same : row.values = row'.values) : row = row' := by
  cases row
  cases row'
  cases same
  rfl

/-- The rows of a table are told by it. -/
theorem rows_of_table {key : String} {fields : List String} {o o' : Outline}
    {rows rows' : List (Row fields)} (tells : List.Forall₂ (RowTells fields) (o.children key) rows)
    (tells' : List.Forall₂ (RowTells fields) (o'.children key) rows')
    (same : table key fields o' = table key fields o) : rows' = rows := by
  have told {o : Outline} {rows : List (Row fields)}
      (tells : List.Forall₂ (RowTells fields) (o.children key) rows) :
      List.Forall₂ (List.Forall₂ Tells) (table key fields o) (rows.map Row.values) := by
    rw [table, List.forall₂_map_left_iff, List.forall₂_map_right_iff]
    exact tells
  have values := tells_unique.forall₂.forall₂ (same ▸ told tells') (told tells)
  exact List.map_injective_iff.mpr (fun _ _ => values_injective) values

end SoapGateway.Response

namespace SoapGateway.Operation

open Response (content? table IsRow)

/-- A listing that is decoded from a body without a byte order mark has a row for each child element
of the first element with the target's name that has the name of a row, in the order of these, and
no others. The text of each field is the character data of the one child element of the row with the
name of the field, but for white space around it, and empty where there is none. Two bodies that
differ by nothing but by what has no such name are decoded as the same, if they are decoded. -/
theorem decode_table {o : Operation} {response row key : String} {fields : List String}
    (listing : o.descriptor.response = .listing response row key fields) {body : List UInt8}
    (unmarked : ¬ Utf8.encode [Xml.byteOrderMark] <+: body)
    {r : Response o.descriptor.response} (decoded : o.decode body = .ok r) :
    ∃ inner, content? o.descriptor.target body = some inner ∧
      List.Forall₂ (IsRow fields) (table key fields inner) r.cells ∧
      ∀ (body' : List UInt8) (inner' : Xml.Outline) (r' : Response o.descriptor.response),
        ¬ Utf8.encode [Xml.byteOrderMark] <+: body' →
        content? o.descriptor.target body' = some inner' → o.decode body' = .ok r' →
        table key fields inner' = table key fields inner → r' = r := by
  obtain ⟨inner, rows, content, tells, cells⟩ :=
    Response.decode_listing listing o.plainSchema unmarked decoded
  refine ⟨inner, content, ?_, fun body' inner' r' unmarked' content' decoded' same => ?_⟩
  · rw [cells, table, List.forall₂_map_left_iff, List.forall₂_map_right_iff]
    refine tells.imp fun contents row rowTells => ⟨?_, ?_⟩
    · exact List.map_fst_zip (Nat.le_of_eq row.filled.symm)
    · rw [Row.named, List.map_snd_zip (Nat.le_of_eq row.filled)]
      exact List.Forall₂.imp (fun _ _ => Response.Tells.fills) rowTells
  · obtain ⟨inner'', rows', content'', tells', cells'⟩ :=
      Response.decode_listing listing o.plainSchema unmarked' decoded'
    rw [content'] at content''
    obtain rfl := Option.some.inj content''
    apply Response.cells_injective
    rw [cells, cells', Response.rows_of_table tells tells' same]

/-- Prefixes, attributes, comments, texts between fields, elements without a name of the record and
what follows the element make no difference; a CDATA section does not end a text. -/
theorem decode_table_keyRate :
    let body := Utf8.bytesOf "<e><x:KeyRate n='1'><!-- <KR/> --><Other>1</Other><KR b='2'>2" ++
      Utf8.bytesOf "<y:Rate> 1<![CDATA[6 ]]>&#32;</y:Rate><DTs/></KR><KR/></x:KeyRate><"
    let bare := Utf8.bytesOf "<KeyRate><KR><Rate> 1<![CDATA[6 ]]>&#32;</Rate></KR><KR></KR></KeyRate>"
    let r : Response keyRate.descriptor.response := .rows [⟨["", "16  "], rfl⟩, ⟨["", ""], rfl⟩]
    keyRate.decode body = .ok r ∧
      (∃ inner, content? "KeyRate" body = some inner ∧
        List.Forall₂ (IsRow ["DT", "Rate"]) (table "KR" ["DT", "Rate"] inner) r.cells) ∧
      ∀ r', keyRate.decode bare = .ok r' → r' = r := by
  intro body bare r
  have decoded : keyRate.decode body = .ok r := by decide +kernel
  have unmarked : ¬ Utf8.encode [Xml.byteOrderMark] <+: body := by decide +kernel
  have unmarkedBare : ¬ Utf8.encode [Xml.byteOrderMark] <+: bare := by decide +kernel
  obtain ⟨inner, content, rows, alike⟩ := decode_table rfl unmarked decoded
  have same : (content? "KeyRate" bare).map (table "KR" ["DT", "Rate"]) =
      (content? "KeyRate" body).map (table "KR" ["DT", "Rate"]) := by decide +kernel
  have there : content? "KeyRate" body = some inner := content
  rw [there, Option.map_some, Option.map_eq_some_iff] at same
  obtain ⟨inner', found, same⟩ := same
  exact ⟨decoded, ⟨inner, content, rows⟩, fun r' decoded' =>
    alike bare inner' r' unmarkedBare found decoded' same⟩

/-- The octets of the mark are not counted: the text that is cut out of this body begins three
octets before the start tag, which makes it one tag without content, and the row is lost. -/
theorem decode_table_marked :
    ∃ (body : List UInt8) (inner : Xml.Outline) (r : Response keyRate.descriptor.response),
      content? "KeyRate" body = some inner ∧ keyRate.decode body = .ok r ∧
      (inner.children "KR").length = 1 ∧ r.cells = [] ∧
      ¬ List.Forall₂ (IsRow ["DT", "Rate"]) (table "KR" ["DT", "Rate"] inner) r.cells := by
  let body := Utf8.bytesOf "\uFEFF<b c='<'><KeyRate>'/><KR><DT>1</DT></KR></KeyRate>"
  have rows : ((content? "KeyRate" body).map fun inner => (inner.children "KR").length) =
      some 1 := by
    decide +kernel
  have decoded : keyRate.decode body = .ok (.rows []) := by decide +kernel
  obtain ⟨inner, content, one⟩ := Option.map_eq_some_iff.mp rows
  refine ⟨body, inner, .rows [], content, decoded, one, rfl, fun all => ?_⟩
  have lengths := all.length_eq
  rw [table, List.length_map, one] at lengths
  exact absurd lengths (by decide)

end SoapGateway.Operation
