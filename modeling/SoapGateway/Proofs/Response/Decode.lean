import SoapGateway.Dispatcher
import SoapGateway.Proofs.Text.Utf8
import SoapGateway.Proofs.Xml.Content
import SoapGateway.Proofs.Xml.Document
import SoapGateway.Response.Document

/-!
# Reading back what a service wrote

A response that is written into a document, wherever in it, is decoded as the same rows or
indicators in the same order, with texts that are the same once they are cleaned. It may come back
changed or not at all if a byte order mark comes first, or a document type declaration that is not
seen whole.
-/
namespace SoapGateway.Response

open Text (clean trimBy isPadding)
open Xml

/-- Texts that are the same once they are cleaned. -/
def SameText (u v : String) : Prop := clean u = clean v

/-- A name of an element, without a prefix. -/
def plainKey (key : String) : Bool := isName key.toList && localName key.toList == key.toList

theorem isName_plainKey {key : String} (plain : plainKey key = true) :
    isName key.toList = true := by
  rw [plainKey, Bool.and_eq_true] at plain
  exact plain.1

theorem localName_plainKey {key : String} (plain : plainKey key = true) :
    String.ofList (localName key.toList) = key := by
  rw [plainKey, Bool.and_eq_true, beq_iff_eq] at plain
  rw [plain.2, String.ofList_toList]

/-- The content of an element is read as the text that it stands for. -/
theorem elementText_holds {s : String} {inner : Forest} (holds : Holds s inner) (limit : Nat)
    (trim : Bool) (tag name : List Char) (es : List Event) :
    ∃ u, SameText (String.ofList u) s ∧
      (Cursor.before (limit + 1) trim
        (.start tag :: (inner.spread ++ .stop name :: es))).elementText =
          .ok (u, Cursor.before (limit + 1) true es) := by
  cases holds with
  | nothing empty =>
    subst empty
    exact ⟨[], rfl, Cursor.elementText_empty tag name⟩
  | text reads =>
    obtain ⟨u, same, taken⟩ := Cursor.elementText_text reads tag name
    refine ⟨u, ?_, taken⟩
    have cleaned := Text.clean_eq same
    rwa [String.ofList_toList] at cleaned

/-- Written fields are read one after the other. -/
theorem entries_of_hasFields {named : List (String × String)} {f : Forest} (wf : f.WellFormed)
    (has : HasFields named f) (plain : ∀ k ∈ named.map (·.1), plainKey k = true) (limit : Nat) :
    Entries textField SameText (limit + 1) named f.spread := by
  induction has with
  | nil => exact .nil
  | @single key s tag more rest own empty after ih =>
    have known := localName_plainKey (plain key (by simp))
    rw [Forest.spread_single]
    refine .cons ?_ ?_ (ih wf.2 fun k member => plain k (List.mem_cons_of_mem _ member))
    · rw [Forest.tagName_source wf.1, own, known]
    · intro parent trim es
      refine ⟨"", by rw [empty]; rfl, ?_⟩
      rfl
  | @element key s tag inner rest space more own inside after ih =>
    have known := localName_plainKey (plain key (by simp))
    rw [Forest.spread_element]
    refine .cons ?_ ?_ (ih wf.2.2.2 fun k member => plain k (List.mem_cons_of_mem _ member))
    · rw [Forest.tagName_source wf.1, own, known]
    · intro parent trim es
      obtain ⟨u, same, taken⟩ := elementText_holds inside limit trim tag.source tag.name es
      refine ⟨String.ofList u, same, ?_⟩
      rw [List.append_assoc, List.singleton_append, textField]
      dsimp only
      rw [taken]
      rfl

/-- Attributes are passed over where no field has the name of an attribute. -/
theorem readAttributes_skip {α : Type} {keys : List String} (field : FieldReader α)
    (plain : ∀ k ∈ keys, plainKey k = true) (fields : Fields α) (attrs : List WrittenAttribute) :
    readAttributes keys field fields (attrs.map fun a => .ok ⟨a.name, a.value⟩) = .ok fields := by
  induction attrs with
  | nil => rfl
  | cons a attrs ih =>
    have foreign : String.ofList ('@' :: attributeKey a.name) ∉ keys := by
      intro member
      have key := plain _ member
      rw [plainKey, String.toList_ofList, isName, Bool.and_eq_true, Bool.and_eq_true] at key
      exact absurd key.1.1 (by decide)
    rw [List.map_cons, readAttributes]
    dsimp only
    rw [if_neg foreign, ih]

/-- A row of as many texts as there are fields is found again by the names of the fields. -/
theorem lookup_zip {fields values : List String} (once : fields.Nodup)
    (filled : values.length = fields.length) :
    fields.map (fun f => ((fields.zip values).lookup f).getD "") = values := by
  induction fields generalizing values with
  | nil =>
    cases values with
    | nil => rfl
    | cons _ _ => cases filled
  | cons f fields ih =>
    cases values with
    | nil => cases filled
    | cons v values =>
      rw [List.nodup_cons] at once
      have rest : ∀ k ∈ fields, (((f, v) :: fields.zip values).lookup k).getD "" =
          ((fields.zip values).lookup k).getD "" := by
        intro k member
        have other : (k == f) = false := by
          rw [beq_eq_false_iff_ne]
          rintro rfl
          exact once.1 member
        rw [List.lookup_cons, other]
      rw [List.zip_cons_cons, List.map_cons, List.map_congr_left rest,
        ih once.2 (Nat.succ.inj filled)]
      simp

/-- The row of the texts that were read under the names of its fields. -/
theorem ofNamed_filled {fields : List String} (once : fields.Nodup) {row : Row fields}
    {parts : Fields String} (filled : Filled SameText row.named [] parts) :
    (Row.ofNamed fields parts).map clean = row.map clean := by
  have same : ∀ f ∈ fields, clean ((parts.lookup f).getD "") =
      clean ((row.named.lookup f).getD "") := by
    intro f _
    rcases filled f with ⟨x, y, there, read, same⟩ | ⟨missing, none⟩
    · rw [there, read]
      exact same
    · rw [missing, none]
      rfl
  have values :
      (fields.map fun f => (parts.lookup f).getD "").map clean = row.values.map clean := by
    conv_rhs => rw [← lookup_zip once row.filled]
    rw [List.map_map, List.map_map]
    exact List.map_congr_left same
  simp only [Row.map, Row.ofNamed, values]

/-- A written row is read as the same row. -/
theorem readRow_spread {fields : List String} (once : fields.Nodup)
    (plain : ∀ k ∈ fields, plainKey k = true) {row : Row fields} {tag : Tag} {inner : Forest}
    (tagWf : tag.WellFormed) (wf : inner.WellFormed) (has : HasFields row.named inner) {limit : Nat}
    (room : inner.spread.length ≤ limit) (name : List Char) (es : List Event) :
    ∃ row', row'.map clean = row.map clean ∧
      readRow fields tag.source (Cursor.before (limit + 1) true
        (inner.spread ++ .stop name :: es)) = .ok (row', Cursor.before (limit + 1) true es) := by
  have names : row.named.map (·.1) = fields := by
    rw [Row.named, ← List.unzip_fst, List.unzip_zip row.filled.symm]
  have entries := entries_of_hasFields wf has (by rwa [names]) limit
  have known : ∀ k ∈ row.named.map (·.1), k ∈ fields := by
    rw [names]
    exact fun _ member => member
  have fresh : ∀ k ∈ row.named.map (·.1), ([] : Fields String).lookup k = none := fun _ _ => rfl
  have bound : row.named.length < limit + 1 :=
    Nat.lt_succ_of_le (entries.length_le.trans room)
  obtain ⟨parts, taken, filled⟩ := readContent_entries entries known (by rwa [names]) fresh bound
    (tagName tag.source) name true es
  refine ⟨Row.ofNamed fields parts, ofNamed_filled once filled, ?_⟩
  rw [readRow, readFields, Tag.attributes_source tagWf, readAttributes_skip textField plain]
  dsimp only
  rw [Cursor.limit_before, taken]
  rfl

/-- Written rows are read as the same rows, up to the end tag around them. -/
theorem readRun_spread {fields : List String} (once : fields.Nodup)
    (plain : ∀ k ∈ fields, plainKey k = true) {key : String} {rows : List (Row fields)}
    {f : Forest} (wf : f.WellFormed) (has : HasRows key rows f) {limit : Nat}
    (room : f.spread.length ≤ limit) (record : String) (acc : List (Row fields)) {n : Nat}
    (bound : rows.length < n) (parent name : List Char) (trim : Bool) (es : List Event) :
    ∃ rows', rows'.map (·.map clean) = rows.map (·.map clean) ∧
      readRun record (readRow fields) key.toList parent acc n
        (Cursor.before (limit + 1) trim (f.spread ++ .stop name :: es)) =
          .ok (acc.reverse ++ rows', Cursor.before (limit + 1) true (.stop name :: es)) := by
  induction has generalizing acc n trim with
  | nil =>
    obtain ⟨n, rfl⟩ := Nat.exists_eq_add_of_le' (Nat.one_le_of_lt bound)
    refine ⟨[], rfl, ?_⟩
    rw [Forest.spread, List.nil_append, readRun.eq_def]
    dsimp only
    rw [Cursor.next_stop, List.append_nil]
    rfl
  | @cons row tag inner rest space more named inside after ih =>
    obtain ⟨n, rfl⟩ := Nat.exists_eq_add_of_le' (Nat.one_le_of_lt bound)
    obtain ⟨tagWf, innerWf, _, restWf⟩ := wf
    rw [Forest.spread, List.length_cons, List.length_append, List.length_cons] at room
    have own : tagName tag.source = key.toList := by rw [Forest.tagName_source tagWf, named]
    have innerRoom : inner.spread.length ≤ limit := by omega
    obtain ⟨row', sameRow, readOne⟩ := readRow_spread once plain tagWf innerWf inside innerRoom
      tag.name (rest.spread ++ .stop name :: es)
    obtain ⟨rows', sameRows, readMore⟩ := ih restWf (by omega) (row' :: acc)
      (Nat.lt_of_succ_lt_succ bound) true
    refine ⟨row' :: rows', by rw [List.map_cons, List.map_cons, sameRow, sameRows], ?_⟩
    rw [Forest.spread_element_append, readRun.eq_def]
    dsimp only
    rw [Cursor.next_start]
    dsimp only
    rw [if_pos own, readOne]
    dsimp only
    rw [readMore, List.reverse_cons, List.append_assoc]
    rfl

theorem length_le_of_hasRows {fields : List String} {key : String} {rows : List (Row fields)}
    {f : Forest} (has : HasRows key rows f) : rows.length ≤ f.spread.length := by
  induction has with
  | nil => exact Nat.le_refl _
  | cons _ _ _ ih =>
    rw [Forest.spread, List.length_cons, List.length_cons, List.length_append, List.length_cons]
    omega

/-- The rows of a listing are read from the content of its element. -/
theorem readContent_rows {fields : List String} (once : fields.Nodup)
    (plain : ∀ k ∈ fields, plainKey k = true) {key : String} (plainTag : plainKey key = true)
    {rows : List (Row fields)} {f : Forest} (wf : f.WellFormed) (has : HasRows key rows f)
    {limit : Nat} (room : f.spread.length ≤ limit + 1) (record : String) (parent name : List Char)
    (es : List Event) :
    ∃ parts rows', (parts.lookup key).getD [] = rows' ∧
      rows'.map (·.map clean) = rows.map (·.map clean) ∧
      Xml.readContent [key] (runField record (readRow fields)) parent [] (limit + 2)
        (Cursor.before (limit + 2) true (f.spread ++ .stop name :: es)) =
          .ok (parts, Cursor.before (limit + 2) true es) := by
  obtain ⟨rows', same, taken⟩ := readRun_spread once plain wf has room record []
    (Nat.lt_succ_of_le ((length_le_of_hasRows has).trans room)) parent name true es
  cases has with
  | nil => exact ⟨[], [], rfl, rfl, readContent_stop _ _ _ _ _ _ _ _ _⟩
  | @cons row tag inner rest space more named inside after =>
    have own : tagName tag.source = key.toList := by rw [Forest.tagName_source wf.1, named]
    rw [Forest.spread_element_append] at taken ⊢
    have run : (runField record (readRow fields)).ofElements parent
        (Cursor.before (limit + 2) true (.start tag.source :: (inner.spread ++ .stop tag.name ::
          (rest.spread ++ .stop name :: es)))) =
        .ok (rows', Cursor.before (limit + 2) true (.stop name :: es)) := by
      rw [runField]
      dsimp only
      rw [Cursor.next_start, Cursor.limit_before]
      dsimp only
      rw [own]
      exact taken
    refine ⟨[(key, rows')], rows', by simp, same, ?_⟩
    rw [Xml.readContent.eq_def]
    dsimp only
    rw [Cursor.next_start]
    dsimp only
    rw [own, localName_plainKey plainTag, if_pos (List.mem_singleton.mpr rfl), run]
    exact readContent_stop _ _ _ _ _ _ _ _ _

/-- Indicators that are the same once their texts are cleaned. -/
def SameIndicator (i j : Indicator) : Prop := i.map clean = j.map clean

theorem readAttributes_indicator {key : String} {i : Indicator} {tag : Tag}
    (has : HasIndicator key i tag) :
    readAttributes indicatorKeys textField []
        (tag.attributes.map fun a => .ok ⟨a.name, a.value⟩) =
      .ok [("@Date", i.date), ("@Title", i.title)] := by
  obtain ⟨_, title, date, attrs, titleName, titleValue, dateName, dateValue⟩ := has
  have titleKey : String.ofList ('@' :: attributeKey "Title".toList) = "@Title" := by decide
  have dateKey : String.ofList ('@' :: attributeKey "Date".toList) = "@Date" := by decide
  have first : textField.ofAttribute title.value = .ok i.title := by
    simp only [textField, titleValue, String.ofList_toList]
  have second : textField.ofAttribute date.value = .ok i.date := by
    simp only [textField, dateValue, String.ofList_toList]
  have titleKnown : "@Title" ∈ indicatorKeys := by decide
  have dateKnown : "@Date" ∈ indicatorKeys := by decide
  have apart : onlyOnce [("@Title", i.title)] "@Date" = .ok () := rfl
  rw [attrs, List.map_cons, List.map_cons, List.map_nil, readAttributes, titleName, titleKey]
  dsimp only
  rw [if_pos titleKnown, onlyOnce, first]
  simp only [List.lookup_nil, Option.isSome_none, Bool.false_eq_true, if_false]
  rw [readAttributes, dateName, dateKey]
  dsimp only
  rw [if_pos dateKnown, apart, second]
  rfl

/-- The value of an indicator is read after its attributes. -/
theorem readContent_indicator {i : Indicator} {inner : Forest} (holds : Holds i.value inner)
    (limit : Nat) (parent name : List Char) (es : List Event) :
    ∃ parts, SameIndicator (indicatorOf parts) i ∧
      Xml.readContent indicatorKeys textField parent [("@Date", i.date), ("@Title", i.title)]
        (limit + 2) (Cursor.before (limit + 2) true (inner.spread ++ .stop name :: es)) =
          .ok (parts, Cursor.before (limit + 2) true es) := by
  have without : indicatorOf [("@Date", i.date), ("@Title", i.title)] = ⟨i.title, i.date, ""⟩ := rfl
  cases holds with
  | nothing empty =>
    refine ⟨_, ?_, readContent_stop _ _ _ _ _ _ _ _ _⟩
    rw [without, SameIndicator, Indicator.map, Indicator.map, empty]
  | @text w reads =>
    obtain ⟨u, trimmed, same⟩ := unescape_trim reads
    have cleaned := Text.clean_eq same
    rw [String.ofList_toList] at cleaned
    have shape : (Forest.text w .nil).spread ++ .stop name :: es =
        .text w :: .stop name :: es := rfl
    rw [shape]
    by_cases blank : w.dropWhile isSpace = []
    · have nothing : trimBy isSpace w = [] := by rw [trimBy, blank]; rfl
      rw [nothing] at trimmed
      cases trimmed
      rw [Cursor.before_blank blank]
      refine ⟨_, ?_, readContent_stop _ _ _ _ _ _ _ _ _⟩
      rw [without, SameIndicator, Indicator.map, Indicator.map, ← cleaned]
      rfl
    · have known : textKey ∈ indicatorKeys := by decide
      have unread : onlyOnce [("@Date", i.date), ("@Title", i.title)] textKey = .ok () := rfl
      refine ⟨[(textKey, String.ofList u), ("@Date", i.date), ("@Title", i.title)], ?_, ?_⟩
      · have whole : indicatorOf [(textKey, String.ofList u), ("@Date", i.date),
            ("@Title", i.title)] = ⟨i.title, i.date, String.ofList u⟩ := rfl
        rw [whole, SameIndicator, Indicator.map, Indicator.map, cleaned]
      · rw [Xml.readContent.eq_def]
        dsimp only
        rw [Cursor.next_text blank trimmed]
        dsimp only
        rw [if_pos known, unread]
        exact readContent_stop _ _ _ _ _ _ _ _ _

theorem readIndicator_start {key : String} {i : Indicator} {tag : Tag} (tagWf : tag.WellFormed)
    (has : HasIndicator key i tag) (limit : Nat) (trim : Bool) (es : List Event) :
    readIndicator (Cursor.before (limit + 1) trim (.start tag.source :: es)) =
      (Xml.readContent indicatorKeys textField (tagName tag.source)
        [("@Date", i.date), ("@Title", i.title)] (limit + 1)
        (Cursor.before (limit + 1) true es)).map fun (parts, c) => (indicatorOf parts, c) := by
  rw [readIndicator, readRecord, Cursor.next_start]
  dsimp only
  rw [readFields, Tag.attributes_source tagWf, readAttributes_indicator has]
  dsimp only
  rw [Cursor.limit_before]

/-- Written indicators are read one after the other. -/
theorem entries_of_hasIndicators {named : List (String × Indicator)} {f : Forest}
    (wf : f.WellFormed) (has : HasIndicators named f)
    (plain : ∀ k ∈ named.map (·.1), plainKey k = true) (record : String) (limit : Nat) :
    Entries (recordField record readIndicator) SameIndicator (limit + 2) named f.spread := by
  induction has with
  | nil => exact .nil
  | @single key i tag more rest tagged empty after ih =>
    have known := localName_plainKey (plain key (by simp))
    rw [Forest.spread_single]
    refine .cons ?_ ?_ (ih wf.2 fun k member => plain k (List.mem_cons_of_mem _ member))
    · rw [Forest.tagName_source wf.1, tagged.1, known]
    · intro parent trim es
      obtain ⟨parts, same, taken⟩ := readContent_indicator (.nothing empty) limit
        (tagName tag.source) tag.name es
      refine ⟨indicatorOf parts, same, ?_⟩
      rw [recordField]
      dsimp only
      have closed : [.stop tag.name] ++ es = Forest.nil.spread ++ .stop tag.name :: es := rfl
      rw [readIndicator_start wf.1 tagged, closed, taken]
      rfl
  | @element key i tag inner rest space more tagged inside after ih =>
    have known := localName_plainKey (plain key (by simp))
    rw [Forest.spread_element]
    refine .cons ?_ ?_ (ih wf.2.2.2 fun k member => plain k (List.mem_cons_of_mem _ member))
    · rw [Forest.tagName_source wf.1, tagged.1, known]
    · intro parent trim es
      obtain ⟨parts, same, taken⟩ := readContent_indicator inside limit (tagName tag.source)
        tag.name es
      refine ⟨indicatorOf parts, same, ?_⟩
      rw [recordField]
      dsimp only
      rw [readIndicator_start wf.1 tagged, List.append_assoc, List.singleton_append, taken]
      rfl

/-- The headline of the indicators that were read. -/
theorem headlineOf_filled {h : Headline} {parts : Fields Indicator}
    (filled : Filled SameIndicator (indicators h) [] parts) :
    (headlineOf parts).map clean = h.map clean := by
  have one : ∀ key i, (indicators h).lookup key = some i →
      ((parts.lookup key).getD {}).map clean = i.map clean := by
    intro key i there
    rcases filled key with ⟨x, y, found, read, same⟩ | ⟨missing, _⟩
    · rw [there] at found
      cases found
      rw [read]
      exact same
    · rw [there] at missing
      cases missing
  rw [Headline.map, headlineOf]
  dsimp only
  rw [one "keyRate" h.keyRate rfl, one "Inflation" h.inflation rfl,
    one "stavka_ref" h.refinancingRate rfl, one "GoldBaks" h.reserves rfl]
  rfl

/-- Names under which a response is read: none is that of an attribute, and no field of a row has
the name of another one. -/
def plainSchema : Schema → Bool
  | .listing _ _ tag fields => plainKey tag && fields.all plainKey && decide fields.Nodup
  | .headline => headlineKeys.all plainKey

/-- The content of an element that carries a response is read as the response. -/
theorem readContent_spread {s : Schema} (plain : plainSchema s = true) {r : Response s} {tag : Tag}
    {inner : Forest} (tagWf : tag.WellFormed) (wf : inner.WellFormed) (has : HasContent r inner)
    {limit : Nat} (room : inner.spread.length ≤ limit) (name : List Char) :
    ∃ r', Response.readContent s (Cursor.before (limit + 2) true
        (.start tag.source :: (inner.spread ++ [.stop name]))) = .ok r' ∧
      r'.sanitize = r.sanitize := by
  cases r with
  | @rows response row key fields rows =>
    rw [plainSchema, Bool.and_eq_true, Bool.and_eq_true, List.all_eq_true,
      decide_eq_true_eq] at plain
    obtain ⟨⟨plainTag, plainFields⟩, once⟩ := plain
    have plainKeys : ∀ k ∈ [key], plainKey k = true := by
      intro k member
      rwa [List.mem_singleton.mp member]
    obtain ⟨parts, rows', found, same, taken⟩ := readContent_rows once plainFields plainTag wf has
      (Nat.le_succ_of_le room) (recordName row) (tagName tag.source) name []
    refine ⟨.rows rows', ?_, ?_⟩
    · rw [Response.readContent, readRecord, Cursor.next_start]
      dsimp only
      rw [readFields, Tag.attributes_source tagWf, readAttributes_skip _ plainKeys]
      dsimp only
      rw [Cursor.limit_before, taken, ← found]
      rfl
    · rw [sanitize, sanitize, Response.map, Response.map, same]
  | headline h =>
    rw [plainSchema, List.all_eq_true] at plain
    have names : (indicators h).map (·.1) = headlineKeys := rfl
    have entries := entries_of_hasIndicators wf has (by rwa [names]) (recordName "Indicator") limit
    have known : ∀ k ∈ (indicators h).map (·.1), k ∈ headlineKeys := fun _ member => member
    have once : ((indicators h).map (·.1)).Nodup := by
      rw [names]
      decide
    have fresh : ∀ k ∈ (indicators h).map (·.1), ([] : Fields Indicator).lookup k = none :=
      fun _ _ => rfl
    have bound : (indicators h).length < limit + 2 := by
      have := entries.length_le
      omega
    obtain ⟨parts, taken, filled⟩ := readContent_entries entries known once fresh bound
      (tagName tag.source) name true []
    refine ⟨.headline (headlineOf parts), ?_, ?_⟩
    · rw [Response.readContent, readRecord, Cursor.next_start]
      dsimp only
      rw [readFields, Tag.attributes_source tagWf, readAttributes_skip _ plain]
      dsimp only
      rw [Cursor.limit_before, taken]
      rfl
    · rw [sanitize, sanitize, Response.map, Response.map, headlineOf_filled filled]

/-- An element that carries a response is read as the response. -/
theorem readContent_carries {s : Schema} (plain : plainSchema s = true) {r : Response s}
    {node : Forest} (wf : node.WellFormed) (carries : Carries r node) :
    ∃ r', Response.readContent s (Cursor.ofText node.source) = .ok r' ∧
      r'.sanitize = r.sanitize := by
  have markup : node.isText = false := by cases carries <;> rfl
  rw [Cursor.ofText_source wf (Forest.unmarked_of_markup markup)]
  cases carries with
  | @single tag content =>
    have nothing : Forest.nil.WellFormed := trivial
    exact readContent_spread plain wf.1 nothing content (Nat.zero_le _) tag.name
  | @element tag inner space content =>
    have room : inner.spread.length ≤
        (Forest.element tag inner space .nil).spread.length + 1 := by
      rw [Forest.spread, List.length_cons, List.length_append, List.length_cons]
      omega
    exact readContent_spread plain wf.1 wf.2.1 content room tag.name

end SoapGateway.Response

namespace SoapGateway.Operation

open Xml (Doctype Document Forest Heading)

theorem plainSchema (o : Operation) : Response.plainSchema o.descriptor.response = true := by
  cases o <;> decide

/-- A response that stands in a document, in the first element with the target's name, is decoded
as the same rows or indicators in the same order, padding of their texts aside. The document has no
byte order mark in front, after which texts are cut out too early, and if it has a document type
declaration, that is one that is seen whole. -/
theorem decode_document {o : Operation} {r : Response o.descriptor.response} {doc : Document}
    {node : Forest} (document : doc.WellFormed) (unmarked : doc.marked = false)
    (whole : ∀ h ∈ doc.heading, h.doctype.IsSeenWhole)
    (first : doc.body.first? o.descriptor.target.toList = some node) (carries : r.Carries node) :
    (o.decode (Utf8.encode doc.source)).map Response.sanitize = .ok r.sanitize := by
  obtain ⟨r', read, same⟩ := Response.readContent_carries o.plainSchema
    (Forest.first?_wellFormed document.body first) carries
  rw [decode, Response.decode, Utf8.decode_encode]
  dsimp only
  rw [Document.locate_source document unmarked whole, first]
  dsimp only
  rw [read]
  exact congrArg Except.ok same

/-- A declaration whose brackets balance in a comment, a prefix, a comment with the target's name,
one tag for an empty field and markup in a text make no difference. -/
theorem decode_document_keyRate :
    let row : Row ["DT", "Rate"] := ⟨["", "\t7 < 8 & 9"], rfl⟩
    let r : Response keyRate.descriptor.response := .rows [row]
    let rate : Forest := .text "\t7 &lt; 8 &#38; 9".toList .nil
    let fields : Forest := .single { name := "DT".toList }
      (.element { name := "Rate".toList } rate [] .nil)
    let node : Forest := .element { name := "x:KeyRate".toList }
      (.element { name := "KR".toList } fields [' '] .nil) [] .nil
    let heading : Heading :=
      ⟨.instruction "xml version='1.0'".toList .nil,
        { name := "Envelope".toList, more := " [<!-- a -> b -->]".toList }⟩
    let doc : Document :=
      { heading := some heading
        body := .element { name := "Envelope".toList } (.comment "<KeyRate/>".toList node) [] .nil }
    doc.WellFormed ∧ doc.marked = false ∧ (∀ h ∈ doc.heading, h.doctype.IsSeenWhole) ∧
      doc.body.first? keyRate.descriptor.target.toList = some node ∧ r.Carries node ∧
      (keyRate.decode (Utf8.encode doc.source)).map Response.sanitize =
        .ok (.rows [⟨["", "7 < 8 & 9"], rfl⟩]) := by
  intro row r rate fields node heading doc
  have named : ∀ t ∈ ["DT", "Rate", "KR", "x:KeyRate", "Envelope"],
      Xml.isName t.toList = true := by decide
  have plain : ∀ t ∈ ["DT", "Rate", "KR", "x:KeyRate", "Envelope"],
      ({ name := t.toList } : Xml.Tag).WellFormed := fun t member =>
    Xml.Tag.wellFormed_name (named t member)
  have rateWf : rate.WellFormed := ⟨by decide, by decide, rfl, trivial⟩
  have fieldsWf : fields.WellFormed :=
    ⟨plain "DT" (by simp), plain "Rate" (by simp), rateWf, rfl, trivial⟩
  have nodeWf : node.WellFormed :=
    ⟨plain "x:KeyRate" (by simp), ⟨plain "KR" (by simp), fieldsWf, rfl, trivial⟩, rfl, trivial⟩
  have inside : ¬ "?>".toList <:+: "xml version='1.0'".toList := by decide +kernel
  have silent : ¬ "--".toList <:+: "<KeyRate/>".toList := by decide +kernel
  have document : doc.WellFormed := by
    refine ⟨?before, ?doctype, ⟨plain "Envelope" (by simp), ⟨silent, by decide, nodeWf⟩, rfl,
      trivial⟩, rfl⟩
    case before =>
      rintro h ⟨⟩
      exact ⟨⟨by decide, inside, trivial⟩, rfl⟩
    case doctype =>
      rintro h ⟨⟩
      exact ⟨by decide, rfl, named "Envelope" (by simp)⟩
  have whole : ∀ h ∈ doc.heading, h.doctype.IsSeenWhole := by
    rintro h ⟨⟩
    exact ⟨" [<!-- a -> b --".toList, "]>".toList, by decide +kernel, by decide +kernel, by decide⟩
  have first : doc.body.first? keyRate.descriptor.target.toList = some node := by decide +kernel
  have carries : r.Carries node := by
    refine .element (.cons rfl (.single rfl rfl (.element rfl (.text ?_) .nil)) .nil)
    decide +kernel
  have cleaned : row.map Text.clean = ⟨["", "7 < 8 & 9"], rfl⟩ := by decide +kernel
  refine ⟨document, rfl, whole, first, carries, ?_⟩
  rw [decode_document document rfl whole first carries, ← cleaned]
  rfl

/-- After a byte order mark the text that is cut out loses the end of its last tag, so that nothing
is decoded. After a declaration whose brackets balance in a quoted text, the rest of that text is
read as markup, and what looks like an element there is decoded in place of the one in the
document. -/
theorem decode_document_misread :
    let r : Response keyRate.descriptor.response := .rows [⟨["1", ""], rfl⟩]
    let fields : Forest := .element { name := "DT".toList } (.text "1".toList .nil) []
      (.single { name := "Rate".toList } .nil)
    let node : Forest := .element { name := "KeyRate".toList }
      (.element { name := "KR".toList } fields [] .nil) [] .nil
    let body : Forest := .element { name := "r".toList } node [] .nil
    let marked : Document := { marked := true, body }
    let doctype : Doctype := { name := "r".toList, more := " [<!ENTITY a \">><KeyRate/>\">]".toList }
    let declared : Document := { heading := some { doctype }, body }
    marked.WellFormed ∧ declared.WellFormed ∧
      body.first? keyRate.descriptor.target.toList = some node ∧ r.Carries node ∧
      (∃ f, keyRate.decode (Utf8.encode marked.source) = .error f) ∧
      keyRate.decode (Utf8.encode declared.source) = .ok (.rows []) ∧
      (.rows [] : Response keyRate.descriptor.response).sanitize ≠ r.sanitize := by
  intro r fields node body marked doctype declared
  have named : ∀ t ∈ ["DT", "Rate", "KR", "KeyRate", "r"], Xml.isName t.toList = true := by decide
  have plain : ∀ t ∈ ["DT", "Rate", "KR", "KeyRate", "r"],
      ({ name := t.toList } : Xml.Tag).WellFormed := fun t member =>
    Xml.Tag.wellFormed_name (named t member)
  have fieldsWf : fields.WellFormed :=
    ⟨plain "DT" (by simp), ⟨by decide, by decide, rfl, trivial⟩, rfl, plain "Rate" (by simp),
      trivial⟩
  have bodyWf : body.WellFormed :=
    ⟨plain "r" (by simp), ⟨plain "KeyRate" (by simp),
      ⟨plain "KR" (by simp), fieldsWf, rfl, trivial⟩, rfl, trivial⟩, rfl, trivial⟩
  have first : body.first? keyRate.descriptor.target.toList = some node := by decide +kernel
  have carries : r.Carries node := by
    refine .element (.cons rfl (.element rfl (.text ?_) (.single rfl rfl .nil)) .nil)
    decide +kernel
  have cut : ∃ f, keyRate.decode (Utf8.encode marked.source) = .error f := by
    have failed : (keyRate.decode (Utf8.encode marked.source)).toOption = none := by
      decide +kernel
    cases decoded : keyRate.decode (Utf8.encode marked.source) with
    | error f => exact ⟨f, rfl⟩
    | ok r' =>
      rw [decoded] at failed
      cases failed
  have lost : keyRate.decode (Utf8.encode declared.source) = .ok (.rows []) := by decide +kernel
  refine ⟨⟨nofun, nofun, bodyWf, rfl⟩, ⟨?before, ?doctype, bodyWf, rfl⟩, first, carries, cut, lost,
    fun same => ?rows⟩
  case before =>
    rintro h ⟨⟩
    exact ⟨trivial, rfl⟩
  case doctype =>
    rintro h ⟨⟩
    exact ⟨by decide, rfl, named "r" (by simp)⟩
  case rows => simp [Response.sanitize, Response.map, r] at same

end SoapGateway.Operation
