import SoapGateway.Proofs.Json.Record

/-!
# Written arrays are read back as lists

The compact text of an array is read as the list of what its items are read as. The reader finds out
by one octet whether another item comes, so an item must not begin like the end of the array.
-/
namespace SoapGateway.Json.Reader

open Utf8 (encode encode_append)

/-- A document whose text begins neither with a blank nor with a closing bracket. -/
def Opens (v : Value) : Prop :=
  ∃ b tail, encode v.render = b :: tail ∧ isBlankByte b = false ∧ b ≠ 0x5D

theorem opens_object (members : List (String × Value)) : Opens (.object members) :=
  ⟨0x7B, _, rfl, rfl, by decide⟩

theorem skipBlanks_solid {b : UInt8} (solid : isBlankByte b = false) (rest : List UInt8) :
    skipBlanks (b :: rest) = b :: rest := by
  rw [skipBlanks, List.dropWhile_cons, solid]
  rfl

theorem nextItem_first {v : Value} (opens : Opens v) (rest : List UInt8) :
    nextItem true (encode v.render ++ rest) = .ok (some (encode v.render ++ rest)) := by
  obtain ⟨b, tail, written, solid, other⟩ := opens
  have neither : ¬ (b = 0x2C ∧ true = false) := by simp
  rw [written, List.cons_append, nextItem, skipBlanks_solid solid]
  dsimp only
  rw [if_neg other, if_neg neither, if_pos rfl]

theorem nextItem_more {v : Value} (opens : Opens v) (rest : List UInt8) :
    nextItem false (0x2C :: (encode v.render ++ rest)) = .ok (some (encode v.render ++ rest)) := by
  obtain ⟨b, tail, written, solid, other⟩ := opens
  have comma : skipBlanks (0x2C :: (b :: (tail ++ rest))) = 0x2C :: (b :: (tail ++ rest)) := rfl
  rw [written, List.cons_append, nextItem, comma]
  dsimp only
  rw [if_neg (by decide), if_pos ⟨rfl, rfl⟩, skipBlanks_solid solid]
  dsimp only
  rw [if_neg other]

variable {α : Type} {item : Reader α}

/-- Items that a list can be read from, each with the value that is read from it. -/
structure Listable (item : Reader α) (entries : List (Value × α)) : Prop where
  opens : ∀ e ∈ entries, Opens e.1
  read : ∀ e ∈ entries, ReadsBack item e.1 e.2

theorem Listable.tail {e : Value × α} {entries : List (Value × α)}
    (listable : Listable item (e :: entries)) : Listable item entries :=
  ⟨fun e' member => listable.opens e' (List.mem_cons_of_mem _ member),
    fun e' member => listable.read e' (List.mem_cons_of_mem _ member)⟩

/-- Items after the first one are read up to the closing bracket. -/
theorem itemsFrom_more {entries : List (Value × α)} (listable : Listable item entries) (x : α)
    (acc : List α) (rest : List UInt8) {n : Nat} (fuel : entries.length < n) :
    itemsFrom item (x :: acc) n
        (encode (entries.flatMap fun e => ',' :: e.1.render) ++ 0x5D :: rest) =
      .ok ((x :: acc).reverse ++ entries.map Prod.snd, 0x5D :: rest) := by
  induction entries generalizing x acc n with
  | nil =>
    obtain ⟨n, rfl⟩ : ∃ k, n = k + 1 := ⟨n - 1, by omega⟩
    simp only [List.map_nil, List.append_nil]
    rfl
  | cons e entries ih =>
    obtain ⟨n, rfl⟩ : ∃ k, n = k + 1 := ⟨n - 1, by omega⟩
    have next := nextItem_more (listable.opens e List.mem_cons_self)
      (encode (entries.flatMap fun e => ',' :: e.1.render) ++ 0x5D :: rest)
    have taken := listable.read e List.mem_cons_self
      (encode (entries.flatMap fun e => ',' :: e.1.render) ++ 0x5D :: rest)
    rw [List.flatMap_cons, encode_append, List.append_assoc, encode_comma, itemsFrom,
      List.isEmpty_cons, next]
    dsimp only
    rw [taken]
    dsimp only
    rw [ih listable.tail e.2 (x :: acc) (Nat.lt_of_succ_lt_succ fuel)]
    simp

theorem renderItems_eq (items : List Value) :
    Value.renderItems items = items.map Value.render := by
  induction items with
  | nil => rfl
  | cons v items ih => rw [Value.renderItems, ih]; rfl

theorem render_items (v : Value) (items : List Value) : (Value.array (v :: items)).render =
    '[' :: (v.render ++ (items.flatMap fun v => ',' :: v.render) ++ [']']) := by
  rw [Value.render, renderItems_eq, List.map_cons, commaSeparated_cons, List.flatMap_map]
  rfl

theorem render_array (e : Value × α) (entries : List (Value × α)) (rest : List UInt8) :
    encode (Value.array ((e :: entries).map Prod.fst)).render ++ rest =
      0x5B :: (encode e.1.render ++
        (encode (entries.flatMap fun e => ',' :: e.1.render) ++ 0x5D :: rest)) := by
  have opened (s : List Char) : encode ('[' :: s) = 0x5B :: encode s := rfl
  have closed : encode [']'] = [0x5D] := rfl
  rw [List.map_cons, render_items, List.flatMap_map, opened, encode_append, encode_append, closed,
    List.cons_append, List.append_assoc, List.append_assoc]
  rfl

theorem list_of_items {inner rest : List UInt8} {xs : List α}
    (read : itemsFrom item [] (inner.length + 1) inner = .ok (xs, 0x5D :: rest)) :
    list item (0x5B :: inner) = .ok (xs, rest) := by
  have start : skipBlanks (0x5B :: inner) = 0x5B :: inner := rfl
  have closed : closeList (0x5D :: rest) = .ok rest := rfl
  unfold list
  rw [start]
  dsimp only
  rw [if_pos rfl, read]
  dsimp only
  rw [closed]
  rfl

theorem length_le_items (entries : List (Value × α)) : entries.length ≤
    (encode (entries.flatMap fun e => ',' :: e.1.render)).length := by
  refine Nat.le_trans ?_ (Utf8.length_le_encode _)
  induction entries with
  | nil => exact Nat.zero_le _
  | cons e entries ih =>
    rw [List.flatMap_cons, List.length_append, List.length_cons, List.length_cons]
    omega

/-- A list is read from the array of its items. -/
theorem list_readsBack {entries : List (Value × α)} (listable : Listable item entries) :
    ReadsBack (list item) (.array (entries.map Prod.fst)) (entries.map Prod.snd) := by
  intro rest
  cases entries with
  | nil => exact list_of_items rfl
  | cons e entries =>
    have next := nextItem_first (listable.opens e List.mem_cons_self)
      (encode (entries.flatMap fun e => ',' :: e.1.render) ++ 0x5D :: rest)
    have taken := listable.read e List.mem_cons_self
      (encode (entries.flatMap fun e => ',' :: e.1.render) ++ 0x5D :: rest)
    have enough : entries.length < (encode e.1.render ++
        (encode (entries.flatMap fun e => ',' :: e.1.render) ++ 0x5D :: rest)).length := by
      have written := length_le_items entries
      rw [List.length_append, List.length_append, List.length_cons]
      omega
    rw [render_array]
    apply list_of_items
    rw [itemsFrom, List.isEmpty_nil, next]
    dsimp only
    rw [taken]
    dsimp only
    rw [itemsFrom_more listable.tail e.2 [] rest enough]
    rfl

end SoapGateway.Json.Reader
