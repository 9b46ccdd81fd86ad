import SoapGateway.Json.Reader
import SoapGateway.Json.Value
import SoapGateway.Operation
import SoapGateway.Text.Blank

/-!
# Responses

What an operation answers: a list of rows, each with one text for every field of the operation's
schema, or the four headline indicators. Responses are cleaned field by field and written as JSON
with their members in the order of the schema.
-/
namespace SoapGateway

structure Row (fields : List String) where
  values : List String
  filled : values.length = fields.length
  deriving DecidableEq, Repr

namespace Row

/-- The row that takes each field from a list of named texts, empty where there is none. -/
def ofNamed (fields : List String) (named : List (String × String)) : Row fields :=
  ⟨fields.map fun f => (named.lookup f).getD "", by simp⟩

def map {fields : List String} (g : String → String) (r : Row fields) : Row fields :=
  ⟨r.values.map g, by simp [r.filled]⟩

def named {fields : List String} (r : Row fields) : List (String × String) := fields.zip r.values

end Row

structure Indicator where
  title : String := ""
  date : String := ""
  value : String := ""
  deriving DecidableEq, Repr

def Indicator.map (g : String → String) (i : Indicator) : Indicator :=
  ⟨g i.title, g i.date, g i.value⟩

structure Headline where
  keyRate : Indicator := {}
  inflation : Indicator := {}
  refinancingRate : Indicator := {}
  reserves : Indicator := {}
  deriving DecidableEq, Repr

def Headline.map (g : String → String) (h : Headline) : Headline :=
  ⟨h.keyRate.map g, h.inflation.map g, h.refinancingRate.map g, h.reserves.map g⟩

inductive Response : Schema → Type where
  | rows {response row tag : String} {fields : List String} (rows : List (Row fields)) :
    Response (.listing response row tag fields)
  | headline (h : Headline) : Response .headline
  deriving DecidableEq, Repr

namespace Response

/-- Changes every text of a response. -/
def map (g : String → String) : {s : Schema} → Response s → Response s
  | _, rows rs => rows (rs.map fun r => r.map g)
  | _, headline h => headline (h.map g)

/-- Strips the padding of every text. -/
def sanitize {s : Schema} (r : Response s) : Response s := r.map Text.clean

def object (members : List (String × String)) : Json.Value :=
  .object (members.map fun m => (m.1, .text m.2))

def indicatorJson (i : Indicator) : Json.Value :=
  object [("Title", i.title), ("Date", i.date), ("Value", i.value)]

def json : {s : Schema} → Response s → Json.Value
  | .listing _ _ tag _, rows rs => .object [(tag, .array (rs.map fun r => object r.named))]
  | _, headline h =>
    .object [("keyRate", indicatorJson h.keyRate), ("Inflation", indicatorJson h.inflation),
      ("stavka_ref", indicatorJson h.refinancingRate), ("GoldBaks", indicatorJson h.reserves)]

def payload {s : Schema} (r : Response s) : String := r.json.compact

def indicatorKeys : List String := ["@Title", "@Date", "$text"]

def headlineKeys : List String := ["keyRate", "Inflation", "stavka_ref", "GoldBaks"]

/-- The indicator with the parts that were read. -/
def indicatorOf (parts : List (String × String)) : Indicator :=
  ⟨(parts.lookup "@Title").getD "", (parts.lookup "@Date").getD "", (parts.lookup "$text").getD ""⟩

/-- The headline with the indicators that were read. -/
def headlineOf (parts : List (String × Indicator)) : Headline :=
  ⟨(parts.lookup "keyRate").getD {}, (parts.lookup "Inflation").getD {},
    (parts.lookup "stavka_ref").getD {}, (parts.lookup "GoldBaks").getD {}⟩

def recordName (name : String) : String := "struct " ++ name

open Json (Reader)

/-- Reads a row from JSON. Members may be missing. -/
def rowReader (row : String) (fields : List String) : Reader (Row fields) :=
  Reader.record (recordName row) fields Reader.text fun m => .ok (Row.ofNamed fields m)

/-- Reads a response from JSON. Members may be missing. -/
def reader : (s : Schema) → Reader (Response s)
  | .listing response row tag fields =>
    Reader.record (recordName response) [tag] (Reader.list (rowReader row fields)) fun m =>
      .ok (.rows ((m.get? tag).getD []))
  | .headline =>
    Reader.record (recordName "MainInfoData") headlineKeys
      (Reader.record (recordName "Indicator") indicatorKeys Reader.text fun m =>
        .ok (indicatorOf m))
      fun m => .ok (.headline (headlineOf m))

end Response

end SoapGateway
