import SoapGateway.Proofs.Json.Text

/-!
# Written objects are read back as records

The compact text of an object with the members of a record is read as that record, if its members
are read from their own texts whatever follows them.
-/
namespace SoapGateway.Json

open Utf8 (encode encode_append encode_cons)

theorem encode_quote (s rest : List Char) :
    encode (quote s ++ rest) = 0x22 :: (encode (s.flatMap escapeChar) ++ 0x22 :: encode rest) := by
  simp only [quote, List.cons_append, List.append_assoc, encode_cons, encode_append]
  rfl

theorem commaSeparated_cons (s : List Char) (more : List (List Char)) :
    commaSeparated (s :: more) = s ++ more.flatMap (',' :: ·) := by
  induction more generalizing s with
  | nil => simp [commaSeparated]
  | cons t more ih =>
    change s ++ ',' :: commaSeparated (t :: more) = _
    rw [ih, List.flatMap_cons]
    rfl

/-- A document that a reader takes as a value, whatever follows it. -/
def ReadsBack {α : Type} (item : Reader α) (v : Value) (x : α) : Prop :=
  ∀ rest, item (encode v.render ++ rest) = .ok (x, rest)

namespace Reader

theorem text_readsBack (s : String) : ReadsBack text (.text s) s := by
  intro rest
  have octets := encode_quote s.toList []
  rw [List.append_nil] at octets
  rw [Value.render, octets, List.cons_append, List.append_assoc]
  exact readText_quoted s rest

/-- The text of a member. -/
def memberText (k : String) (v : Value) : List Char := quote k.toList ++ ':' :: v.render

theorem renderMembers_eq (members : List (String × Value)) :
    Value.renderMembers members = members.map fun m => memberText m.1 m.2 := by
  induction members with
  | nil => rfl
  | cons m members ih => rw [Value.renderMembers, ih]; rfl

theorem render_members (m : String × Value) (members : List (String × Value)) :
    (Value.object (m :: members)).render = '{' :: (memberText m.1 m.2 ++
      (members.flatMap fun m => ',' :: memberText m.1 m.2) ++ ['}']) := by
  rw [Value.render, renderMembers_eq, List.map_cons, commaSeparated_cons, List.flatMap_map]
  rfl

theorem nextKey_first (rest : List UInt8) : nextKey true (0x22 :: rest) = .ok (some rest) := rfl

theorem nextKey_more (rest : List UInt8) :
    nextKey false (0x2C :: 0x22 :: rest) = .ok (some rest) := rfl

variable {α β : Type} {item : Reader α} {keys : List String} {acc : Members α} {k : String}
  {v : Value} {x : α}

/-- One member is read, and the reader goes on after it. -/
theorem membersFrom_member {first : Bool} {input rest : List UInt8} {n : Nat}
    (next : nextKey first input = .ok (some
      (encode (k.toList.flatMap escapeChar) ++ 0x22 :: 0x3A :: (encode v.render ++ rest))))
    (known : k ∈ keys) (new : acc.lookup k = none) (read : ReadsBack item v x) :
    membersFrom keys item acc first (n + 1) input =
      membersFrom keys item ((k, x) :: acc) false n rest := by
  have once : ¬ (k ∈ keys ∧ (acc.lookup k).isSome = true) := by simp [new]
  rw [membersFrom, next]
  dsimp only
  rw [readText_quoted]
  dsimp only
  rw [if_neg once]
  change (if (0x3A : UInt8) ≠ 0x3A then _ else _) = _
  rw [if_neg (by decide), if_pos known, read]

/-- A member of a written object: its name, its document, and the value that is read from it. -/
structure Entry (α : Type) where
  key : String
  document : Value
  value : α

/-- Members that a record can be read from: all are known and read back, and none comes twice. -/
structure Readable (keys : List String) (item : Reader α) (entries : List (Entry α)) : Prop where
  known : ∀ e ∈ entries, e.key ∈ keys
  once : (entries.map Entry.key).Nodup
  read : ∀ e ∈ entries, ReadsBack item e.document e.value

theorem encode_memberText (k : String) (v : Value) (rest : List UInt8) :
    encode (memberText k v) ++ rest = 0x22 ::
      (encode (k.toList.flatMap escapeChar) ++ 0x22 :: 0x3A :: (encode v.render ++ rest)) := by
  rw [memberText, encode_quote, encode_cons, List.cons_append, List.append_assoc]
  rfl

theorem encode_comma (s : List Char) (rest : List UInt8) :
    encode (',' :: s) ++ rest = 0x2C :: (encode s ++ rest) := rfl

theorem Readable.tail {e : Entry α} {entries : List (Entry α)}
    (readable : Readable keys item (e :: entries)) : Readable keys item entries :=
  ⟨fun e' member => readable.known e' (List.mem_cons_of_mem _ member),
    (List.nodup_cons.mp readable.once).2,
    fun e' member => readable.read e' (List.mem_cons_of_mem _ member)⟩

theorem Readable.unlike {e : Entry α} {entries : List (Entry α)}
    (readable : Readable keys item (e :: entries)) {acc : Members α}
    (new : ∀ e' ∈ e :: entries, acc.lookup e'.key = none) :
    ∀ e' ∈ entries, ((e.key, e.value) :: acc).lookup e'.key = none := by
  intro e' member
  have other : e'.key ≠ e.key := fun same =>
    (List.nodup_cons.mp readable.once).1 (same ▸ List.mem_map_of_mem member)
  rw [List.lookup_cons, beq_eq_false_iff_ne.mpr other]
  exact new e' (List.mem_cons_of_mem _ member)

theorem membersFrom_more {entries : List (Entry α)} {rest : List UInt8} {n : Nat}
    (readable : Readable keys item entries) (new : ∀ e ∈ entries, acc.lookup e.key = none)
    (fuel : entries.length < n) :
    membersFrom keys item acc false n
        (encode (entries.flatMap fun e => ',' :: memberText e.key e.document) ++ 0x7D :: rest) =
      .ok (acc.reverse ++ entries.map fun e => (e.key, e.value), 0x7D :: rest) := by
  induction entries generalizing acc n with
  | nil =>
    obtain ⟨n, rfl⟩ : ∃ k, n = k + 1 := ⟨n - 1, by omega⟩
    simp only [List.map_nil, List.append_nil]
    rfl
  | cons e entries ih =>
    obtain ⟨n, rfl⟩ : ∃ k, n = k + 1 := ⟨n - 1, by omega⟩
    rw [List.flatMap_cons, encode_append, List.append_assoc, encode_comma, encode_memberText]
    rw [membersFrom_member (nextKey_more _) (readable.known e List.mem_cons_self)
      (new e List.mem_cons_self) (readable.read e List.mem_cons_self),
      ih readable.tail (readable.unlike new) (Nat.lt_of_succ_lt_succ fuel)]
    simp

theorem record_of_members {build : Members α → Except String β} {y : β} {members : Members α}
    {inner rest : List UInt8} (made : build members = .ok y)
    (read : membersFrom keys item [] true (inner.length + 1) inner = .ok (members, 0x7D :: rest))
    (name : String) : record name keys item build (0x7B :: inner) = .ok (y, rest) := by
  have start : skipBlanks (0x7B :: inner) = 0x7B :: inner := rfl
  have closed : closeObject (0x7D :: rest) = .ok rest := rfl
  unfold record
  rw [start]
  dsimp only
  rw [if_neg (by decide), if_pos rfl, read]
  dsimp only
  rw [made, closed]
  rfl

theorem render_object (e : Entry α) (entries : List (Entry α)) (rest : List UInt8) :
    encode (Value.object ((e :: entries).map fun e => (e.key, e.document))).render ++ rest =
      0x7B :: (encode (memberText e.key e.document) ++
        (encode (entries.flatMap fun e => ',' :: memberText e.key e.document) ++
          0x7D :: rest)) := by
  have opened (s : List Char) : encode ('{' :: s) = 0x7B :: encode s := rfl
  have closed : encode ['}'] = [0x7D] := rfl
  rw [List.map_cons, render_members, List.flatMap_map, opened, encode_append, encode_append, closed,
    List.cons_append, List.append_assoc, List.append_assoc]
  rfl

theorem length_le_members (entries : List (Entry α)) : entries.length ≤
    (encode (entries.flatMap fun e => ',' :: memberText e.key e.document)).length := by
  refine Nat.le_trans ?_ (Utf8.length_le_encode _)
  induction entries with
  | nil => exact Nat.zero_le _
  | cons e entries ih =>
    rw [List.flatMap_cons, List.length_append, List.length_cons, List.length_cons]
    omega

/-- A record is read from the object of its members. -/
theorem record_readsBack {entries : List (Entry α)} {build : Members α → Except String β} {y : β}
    (readable : Readable keys item entries)
    (built : build (entries.map fun e => (e.key, e.value)) = .ok y) (name : String) :
    ReadsBack (record name keys item build)
      (.object (entries.map fun e => (e.key, e.document))) y := by
  intro rest
  cases entries with
  | nil => exact record_of_members built rfl name
  | cons e entries =>
    rw [render_object]
    refine record_of_members built ?_ name
    have enough : entries.length < (encode (memberText e.key e.document) ++
        (encode (entries.flatMap fun e => ',' :: memberText e.key e.document) ++
          0x7D :: rest)).length := by
      have written := length_le_members entries
      rw [List.length_append, List.length_append, List.length_cons]
      omega
    rw [encode_memberText] at enough ⊢
    rw [membersFrom_member (nextKey_first _) (readable.known e List.mem_cons_self) List.lookup_nil
      (readable.read e List.mem_cons_self), membersFrom_more readable.tail
        (readable.unlike fun _ _ => List.lookup_nil) enough]
    rfl

/-- A member whose value is a text. -/
def Entry.ofText (m : String × String) : Entry String := ⟨m.1, .text m.2, m.2⟩

/-- A record of texts is read from the object that has them. -/
theorem record_of_texts (texts : List (String × String))
    {build : Members String → Except String β} {y : β} (known : ∀ m ∈ texts, m.1 ∈ keys)
    (once : (texts.map Prod.fst).Nodup) (built : build texts = .ok y) (name : String) :
    ReadsBack (record name keys text build)
      (.object (texts.map fun m => (m.1, .text m.2))) y := by
  have readable : Readable keys text (texts.map Entry.ofText) := by
    refine ⟨?_, ?_, ?_⟩
    · intro e member
      obtain ⟨m, given, rfl⟩ := List.mem_map.mp member
      exact known m given
    · rw [List.map_map]
      exact once
    · intro e member
      obtain ⟨m, _, rfl⟩ := List.mem_map.mp member
      exact text_readsBack m.2
  have pairs : (texts.map Entry.ofText).map (fun e => (e.key, e.value)) = texts := by
    rw [List.map_map]
    exact List.map_id texts
  have documents : (texts.map Entry.ofText).map (fun e => (e.key, e.document)) =
      texts.map fun m => (m.1, .text m.2) := List.map_map
  have rebuilt : build ((texts.map Entry.ofText).map fun e => (e.key, e.value)) = .ok y := by
    rw [pairs, built]
  have read := record_readsBack readable rebuilt name
  rwa [documents] at read

/-- A document is read back from its compact text. -/
theorem document_readsBack {v : Value} (read : ReadsBack item v x) :
    document item (Utf8.bytesOf v.compact) = .ok x := by
  have whole := read []
  rw [List.append_nil] at whole
  rw [document, Utf8.bytesOf, Value.compact, String.toList_ofList, whole]
  rfl

end Reader

end SoapGateway.Json
