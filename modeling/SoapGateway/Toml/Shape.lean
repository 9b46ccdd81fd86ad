import SoapGateway.Toml.Value

/-!
# Shapes of TOML values

Reading values of a known type out of a document. A record is filled from a table, in the order of
the table, or from a list, in the order of its fields; what is not given keeps its default, and what
is not known is passed over. The first value that does not fit is reported.
-/
namespace SoapGateway.Toml

inductive ShapeFault where
  /-- A value of another type. -/
  | wrongType (found : Value) (expected : String)
  /-- A number out of range. -/
  | outOfRange (n : Int) (expected : String)
  deriving Repr

def ShapeFault.message : ShapeFault → String
  | wrongType found expected => "invalid type: " ++ found.shown ++ ", expected " ++ expected
  | outOfRange n expected =>
    "invalid value: " ++ (Value.integer n).shown ++ ", expected " ++ expected

def Value.asText : Value → Except ShapeFault String
  | text s => .ok s
  | v => .error (.wrongType v "a string")

def Value.asFlag : Value → Except ShapeFault Bool
  | boolean b => .ok b
  | v => .error (.wrongType v "a boolean")

/-- Reads a number that is not negative; `word` is what a message calls such numbers. -/
def Value.asCount (word : String) : Value → Except ShapeFault Nat
  | integer n => if 0 ≤ n then .ok n.toNat else .error (.outOfRange n word)
  | v => .error (.wrongType v word)

/-- A field of a record: its name, and how a value is put into it. -/
structure RecordField (σ : Type) where
  name : String
  put : σ → Value → Except ShapeFault σ

namespace RecordField

def ofText {σ : Type} (name : String) (put : σ → String → σ) : RecordField σ :=
  ⟨name, fun s v => v.asText.map (put s)⟩

def ofFlag {σ : Type} (name : String) (put : σ → Bool → σ) : RecordField σ :=
  ⟨name, fun s v => v.asFlag.map (put s)⟩

/-- A field that takes a number; `word` is what a message calls such numbers. -/
def ofCount {σ : Type} (word name : String) (put : σ → Nat → σ) : RecordField σ :=
  ⟨name, fun s v => (v.asCount word).map (put s)⟩

/-- Puts members of a table into a record, in order. -/
def putMembers {σ : Type} (fields : List (RecordField σ)) (s : σ) :
    List (String × Value) → Except ShapeFault σ
  | [] => .ok s
  | (name, v) :: rest =>
    match fields.find? (fun f => f.name == name) with
    | none => putMembers fields s rest
    | some f =>
      match f.put s v with
      | .error e => .error e
      | .ok s => putMembers fields s rest

/-- Puts items of a list into the fields of a record, in order. -/
def putItems {σ : Type} (s : σ) : List (RecordField σ) → List Value → Except ShapeFault σ
  | f :: fields, v :: rest =>
    match f.put s v with
    | .error e => .error e
    | .ok s => putItems s fields rest
  | _, _ => .ok s

/-- Fills a record, called `name` in messages, from a value. -/
def putRecord {σ : Type} (name : String) (fields : List (RecordField σ)) (s : σ) :
    Value → Except ShapeFault σ
  | .table members => putMembers fields s members
  | .array items => putItems s fields items
  | .moment => .ok s
  | v => .error (.wrongType v ("struct " ++ name))

def ofRecord {σ τ : Type} (name record : String) (fields : List (RecordField τ)) (get : σ → τ)
    (put : σ → τ → σ) : RecordField σ :=
  ⟨name, fun s v => (putRecord record fields (get s) v).map (put s)⟩

end RecordField

end SoapGateway.Toml
