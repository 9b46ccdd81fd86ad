import SoapGateway.Proofs.Json.Array
import SoapGateway.Proofs.Json.Grammar
import SoapGateway.Proofs.Text.Blank
import SoapGateway.Proofs.Text.Decimal

/-!
# Written documents are documents

The compact text of a document is that document by the grammar, and no other one. What is written
for a part is shown to be read as it before whatever may come after a part.
-/
namespace SoapGateway.Json

open Reader (memberText render_items render_members)
open Text (digits digits_front digits_shape hexChar hexValue?_hexChar isDigit isDigit_digits
  ne_of_isDigit toList_ofInt valueOf_digits)

/-- What may follow a document. -/
def Halts (rest : List Char) : Prop := ∀ c ∈ rest.head?, c ∈ [',', ']', '}']

/-- A number does not go on with what follows a document. -/
theorem Halts.foreign {rest : List Char} (halts : Halts rest) {c : Char} (front : c ∈ rest.head?) :
    isDigit c = false ∧ c ∉ ['.', 'e', 'E'] := by
  have known := halts c front
  simp only [List.mem_cons, List.not_mem_nil, or_false] at known
  rcases known with rfl | rfl | rfl
  · decide
  · decide
  · decide

theorem unit?_hex {a b c d : Nat} (ha : a < 16) (hb : b < 16) (hc : c < 16) (hd : d < 16)
    (rest : List Char) : unit? (hexChar a :: hexChar b :: hexChar c :: hexChar d :: rest) =
      some (((a * 16 + b) * 16 + c) * 16 + d, rest) := by
  simp [unit?, Text.valueOf, hexValue?_hexChar, ha, hb, hc, hd]

theorem character?_plain {c : Char} (quote : c ≠ '"') (slash : c ≠ '\\')
    (control : ¬ c.toNat < 0x20) (rest : List Char) : character? (c :: rest) = some (c, rest) := by
  unfold character?
  split
  · next empty => cases empty
  · next eq => exact absurd (List.cons.inj eq).1 slash
  · next eq => exact absurd (List.cons.inj eq).1 slash
  · next eq =>
    obtain ⟨rfl, rfl⟩ := List.cons.inj eq
    simp [quote, slash, control]

theorem character?_escapeChar (c : Char) (rest : List Char) :
    character? (escapeChar c ++ rest) = some (c, rest) := by
  unfold escapeChar
  split
  · next quote => rw [quote]; rfl
  next quote =>
  split
  · next slash => rw [slash]; rfl
  next slash =>
  split
  · next backspace => rw [backspace]; rfl
  split
  · next feed => rw [feed]; rfl
  split
  · next newline => rw [newline]; rfl
  split
  · next carriage => rw [carriage]; rfl
  split
  · next tab => rw [tab]; rfl
  split
  · next control =>
    have value : ((0 * 16 + 0) * 16 + c.toNat / 16) * 16 + c.toNat % 16 = c.toNat := by omega
    have unit := unit?_hex (by decide : 0 < 16) (by decide : 0 < 16)
      (by omega : c.toNat / 16 < 16) (by omega : c.toNat % 16 < 16) rest
    change units? (hexChar 0 :: hexChar 0 :: hexChar _ :: hexChar _ :: rest) = _
    rw [units?, unit, value]
    dsimp only
    rw [if_pos (.inl (by omega)), Char.ofNat_toNat]
  · next control => exact character?_plain quote slash control rest

theorem spells_escaped (s rest : List Char) :
    Spells (s.flatMap escapeChar ++ '"' :: rest) s rest := by
  induction s with
  | nil => exact .done
  | cons c s ih =>
    rw [List.flatMap_cons, List.append_assoc]
    exact .more (character?_escapeChar c _) ih

theorem natural?_digits (n : Nat) {rest : List Char} (halts : Halts rest) :
    natural? (digits n ++ rest) = some (n, rest) := by
  have stop : ∀ c ∈ rest.head?, isDigit c = false := fun c front => (halts.foreign front).1
  have whole : ¬ rest.head?.any (· ∈ ['.', 'e', 'E']) = true := by
    rw [Option.any_eq_true]
    rintro ⟨c, front, after⟩
    exact (halts.foreign front).2 (of_decide_eq_true after)
  obtain ⟨c, t, shape, single⟩ := digits_shape n
  have led : ¬ (digits n = [] ∨ (digits n).head? = some '0' ∧ (digits n).length ≠ 1) := by
    rw [shape]
    rintro (empty | ⟨zero, long⟩)
    · cases empty
    · rw [single (Option.some.inj zero)] at long
      exact long rfl
  unfold natural?
  rw [Text.takeWhile_run (isDigit_digits n) stop, Text.dropWhile_run (isDigit_digits n) stop]
  dsimp only
  rw [if_neg led, if_neg whole, valueOf_digits]

theorem number?_ofInt (n : Int) {rest : List Char} (halts : Halts rest) :
    number? ((Text.ofInt n).toList ++ rest) = some (n, rest) := by
  have read := natural?_digits n.natAbs halts
  rw [toList_ofInt]
  split
  · next negative =>
    have value : -(n.natAbs : Int) = n := by omega
    rw [List.cons_append, number?, read]
    exact congrArg (fun n => some (n, rest)) value
  · next positive =>
    have value : (n.natAbs : Int) = n := by omega
    obtain ⟨c, t, shape, digit⟩ := digits_front n.natAbs
    have unsigned (s : List Char) : digits n.natAbs ++ rest ≠ '-' :: s := by
      rw [shape]
      exact fun same => ne_of_isDigit digit (by decide) (List.cons.inj same).1
    rw [number?.eq_2 _ unsigned, read]
    exact congrArg (fun n => some (n, rest)) value

/-- The text of a number begins with a digit or a minus sign. -/
theorem ofInt_front (n : Int) : ∃ c t, (Text.ofInt n).toList = c :: t ∧
    ∀ d, isDigit d = false → d ≠ '-' → c ≠ d := by
  rw [toList_ofInt]
  split
  · exact ⟨'-', _, rfl, fun d _ sign => sign.symm⟩
  · obtain ⟨c, t, shape, digit⟩ := digits_front n.natAbs
    exact ⟨c, t, shape, fun d foreign _ => ne_of_isDigit digit foreign⟩

theorem word?_ofInt (n : Int) {rest : List Char} (halts : Halts rest) :
    word? ((Text.ofInt n).toList ++ rest) = some (.number n, rest) := by
  have read := number?_ofInt n halts
  obtain ⟨c, t, shape, front⟩ := ofInt_front n
  have other (d : Char) (letter : isDigit d = false ∧ d ≠ '-') (s : List Char) :
      (Text.ofInt n).toList ++ rest ≠ d :: s := by
    rw [shape]
    exact fun eq => front d letter.1 letter.2 (List.cons.inj eq).1
  rw [word?.eq_4 _ (fun s => other 'n' (by decide) _) (fun s => other 't' (by decide) _)
    (fun s => other 'f' (by decide) _), read]
  rfl

/-- No gap stands before a written document. -/
theorem render_front (v : Value) : ∃ c t, v.render = c :: t ∧ isGap c = false := by
  cases v with
  | null => exact ⟨'n', _, rfl, rfl⟩
  | bool b =>
    cases b with
    | false => exact ⟨'f', _, rfl, rfl⟩
    | true => exact ⟨'t', _, rfl, rfl⟩
  | number n =>
    obtain ⟨c, t, shape, front⟩ := ofInt_front n
    have solid (d : Char) (gap : isDigit d = false ∧ d ≠ '-') : c ≠ d := front d gap.1 gap.2
    refine ⟨c, t, shape, ?_⟩
    simp [isGap, solid ' ' (by decide), solid '\t' (by decide), solid '\n' (by decide),
      solid '\r' (by decide)]
  | text s => exact ⟨'"', _, rfl, rfl⟩
  | array items => exact ⟨'[', _, rfl, rfl⟩
  | object members => exact ⟨'{', _, rfl, rfl⟩

theorem afterGap_render (v : Value) (rest : List Char) :
    afterGap (v.render ++ rest) = v.render ++ rest := by
  obtain ⟨c, t, shape, solid⟩ := render_front v
  rw [shape, afterGap, List.cons_append, List.dropWhile_cons_of_neg (by simp [solid])]

theorem part?_first (v : Value) (rest : List Char) :
    part? true (v.render ++ rest) = some (v.render ++ rest) :=
  congrArg some (afterGap_render v rest)

theorem part?_comma (v : Value) (rest : List Char) :
    part? false (',' :: (v.render ++ rest)) = some (v.render ++ rest) :=
  congrArg some (afterGap_render v rest)

/-- Either a comma or the closing mark comes after a part of a document. -/
theorem halts_parts {α : Type} (text : α → List Char) (parts : List α) (c : Char)
    (closing : c ∈ [']', '}']) (rest : List Char) :
    Halts ((parts.flatMap fun p => ',' :: text p) ++ c :: rest) := by
  cases parts with
  | nil =>
    rintro d ⟨⟩
    exact List.mem_cons_of_mem _ closing
  | cons p parts =>
    rintro d ⟨⟩
    exact List.mem_cons_self

theorem binds_member {first : Bool} {s x rest : List Char} {k : String} {v : Value}
    {members : List (String × Value)} (next : part? first s = some (memberText k v ++ x))
    (value : Begins (v.render ++ x) v x) (others : Binds false x members rest) :
    Binds first s ((k, v) :: members) rest := by
  have spells := spells_escaped k.toList (':' :: (v.render ++ x))
  rw [memberText, quote, List.append_assoc, List.cons_append, List.cons_append,
    List.append_assoc] at next
  rw [← afterGap_render] at value
  have bound := Binds.more next spells rfl value others
  rwa [String.ofList_toList] at bound

-- Recursion is on the document, through its lists of items and members.
mutual

/-- A written document is read for what it is, whatever comes after it. -/
theorem begins_render (v : Value) {rest : List Char} (halts : Halts rest) :
    Begins (v.render ++ rest) v rest := by
  cases v with
  | null => exact .word rfl
  | bool b =>
    cases b with
    | false => exact .word rfl
    | true => exact .word rfl
  | number n => exact .word (word?_ofInt n halts)
  | text s =>
    have text := Begins.text (spells_escaped s.toList rest)
    rw [String.ofList_toList] at text
    rw [Value.render, quote, List.cons_append, List.cons_append, List.append_assoc]
    exact text
  | array items =>
    cases items with
    | nil => exact .array (.done rfl)
    | cons v items =>
      have item := begins_render v (halts_parts Value.render items ']' (by decide) rest)
      rw [render_items, List.cons_append, List.append_assoc, List.append_assoc]
      exact .array (.more (part?_first v _) item (lists_items items rest))
  | object members =>
    cases members with
    | nil => exact .object (.done rfl)
    | cons m members =>
      have value := begins_render m.2
        (halts_parts (fun m => memberText m.1 m.2) members '}' (by decide) rest)
      rw [render_members, List.cons_append, List.append_assoc, List.append_assoc]
      exact .object (binds_member rfl value (binds_members members rest))

theorem lists_items (items : List Value) (rest : List Char) :
    Lists false ((items.flatMap fun v => ',' :: v.render) ++ ']' :: rest) items rest := by
  cases items with
  | nil => exact .done rfl
  | cons v items =>
    have item := begins_render v (halts_parts Value.render items ']' (by decide) rest)
    rw [List.flatMap_cons, List.append_assoc, List.cons_append]
    exact .more (part?_comma v _) item (lists_items items rest)

theorem binds_members (members : List (String × Value)) (rest : List Char) :
    Binds false ((members.flatMap fun m => ',' :: memberText m.1 m.2) ++ '}' :: rest) members
      rest := by
  cases members with
  | nil => exact .done rfl
  | cons m members =>
    have value := begins_render m.2
      (halts_parts (fun m => memberText m.1 m.2) members '}' (by decide) rest)
    rw [List.flatMap_cons, List.append_assoc, List.cons_append]
    exact binds_member rfl value (binds_members members rest)

end

theorem isDocument_render (v : Value) : IsDocument v.render v := by
  have written := @begins_render v [] nofun
  have front := afterGap_render v []
  rw [List.append_nil] at written front
  rw [← front] at written
  exact ⟨[], written, rfl⟩

/-- A written document is a document, and no other one. -/
theorem isDocument_compact {v v' : Value} : IsDocument v.compact.toList v' ↔ v' = v := by
  rw [Value.compact, String.toList_ofList]
  constructor
  · exact fun other => other.unique (isDocument_render v)
  · rintro rfl
    exact isDocument_render v'

end SoapGateway.Json
