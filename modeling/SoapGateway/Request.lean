import SoapGateway.Json.Reader
import SoapGateway.Layouts
import SoapGateway.Xml.Element

/-!
# Requests

What a caller may send with an operation. A body is read as JSON of the shape that the operation
takes, and checked: dates have to be readable, a range must not end before it starts, a currency
code must not be blank. A request is written as one element named after the operation, with its
dates in the layout of the remote service.
-/
namespace SoapGateway

inductive RequestShape where
  | empty | onDate | dateRange | currencyRange | directory
  deriving DecidableEq, Repr

inductive Request where
  | empty
  | onDate (date : String)
  | dateRange (start stop : String)
  /-- A range of dates for one currency, by its internal code. -/
  | currencyRange (start stop code : String)
  /-- The currency directory, for monthly or for daily quotes. -/
  | directory (monthly : Bool)
  deriving DecidableEq, Repr

namespace RequestShape

open Json (Reader)

def reader : RequestShape → Reader Request
  | empty => Reader.record "struct Empty" [] Reader.text fun _ => .ok .empty
  | onDate => Reader.record "struct OnDate" ["OnDate"] Reader.text fun m =>
    (m.need "OnDate").map .onDate
  | dateRange => Reader.record "struct DateRange" ["FromDate", "ToDate"] Reader.text fun m =>
    match m.need "FromDate", m.need "ToDate" with
    | .ok start, .ok stop => .ok (.dateRange start stop)
    | .error e, _ => .error e
    | _, .error e => .error e
  | currencyRange =>
    Reader.record "struct CursDynamic" ["FromDate", "ToDate", "ValutaCode"] Reader.text fun m =>
      match m.need "FromDate", m.need "ToDate", m.need "ValutaCode" with
      | .ok start, .ok stop, .ok code => .ok (.currencyRange start stop code)
      | .error e, _, _ => .error e
      | _, .error e, _ => .error e
      | _, _, .error e => .error e
  | directory => Reader.record "struct EnumValutesRequest" ["Seld"] Reader.flag fun m =>
    .ok (.directory ((m.get? "Seld").getD false))

end RequestShape

namespace Request

/-- The two days of a range, which must not be in reverse. -/
def readRange (l : Layouts) (start stop : String) :
    Except Failure (Calendar.Date × Calendar.Date) :=
  match l.readDate "FromDate" start with
  | .error f => .error f
  | .ok a =>
    match l.readDate "ToDate" stop with
    | .error f => .error f
    | .ok b => if b.before a then .error (.reversedRange start stop) else .ok (a, b)

def check (l : Layouts) : Request → Except Failure Unit
  | empty => .ok ()
  | onDate date => (l.readDate "OnDate" date).map fun _ => ()
  | dateRange start stop => (readRange l start stop).map fun _ => ()
  | currencyRange start stop code =>
    if Text.trim code = "" then .error (.badBody "ValutaCode must not be empty")
    else (readRange l start stop).map fun _ => ()
  | directory _ => .ok ()

/-- A body of blanks reads as an object without members. -/
def orEmptyObject (body : List UInt8) : List UInt8 :=
  if body.all Text.isAsciiBlank then Utf8.bytesOf "\x7b\x7d" else body

def parse (shape : RequestShape) (l : Layouts) (body : List UInt8) : Except Failure Request :=
  let body := orEmptyObject body
  match Json.Reader.document shape.reader body with
  | .error f => .error (.badBody (f.message body))
  | .ok r =>
    match r.check l with
    | .error f => .error f
    | .ok () => .ok r

/-- The text elements of a request, in order. -/
def fields (l : Layouts) : Request → Except Failure (List (String × String))
  | empty => .ok []
  | onDate date =>
    match l.readDate "OnDate" date with
    | .error f => .error f
    | .ok d => (l.writeDate d).map fun s => [("On_date", s)]
  | dateRange start stop =>
    match readRange l start stop with
    | .error f => .error f
    | .ok (a, b) =>
      match l.writeDate a, l.writeDate b with
      | .ok s, .ok t => .ok [("fromDate", s), ("ToDate", t)]
      | .error f, _ => .error f
      | _, .error f => .error f
  | currencyRange start stop code =>
    match readRange l start stop with
    | .error f => .error f
    | .ok (a, b) =>
      match l.writeDate a, l.writeDate b with
      | .ok s, .ok t => .ok [("FromDate", s), ("ToDate", t), ("ValutaCode", Text.trim code)]
      | .error f, _ => .error f
      | _, .error f => .error f
  | directory monthly => .ok [("Seld", if monthly then "true" else "false")]

/-- The element that carries a request, named `name` in the namespace `xmlns`. -/
def element (name xmlns : String) (l : Layouts) (r : Request) : Except Failure Xml.FlatElement :=
  match r.fields l with
  | .error f => .error f
  | .ok fields =>
    match Xml.checkName name with
    | .error f => .error (.envelope ("serializing <" ++ name ++ ">: " ++ f.message))
    | .ok () => .ok ⟨name, xmlns, fields⟩

def write (name xmlns : String) (l : Layouts) (r : Request) : Except Failure String :=
  (r.element name xmlns l).map fun e => String.ofList e.render

end Request

end SoapGateway
