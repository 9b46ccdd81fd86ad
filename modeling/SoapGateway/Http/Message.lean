import SoapGateway.Calendar.Instant
import SoapGateway.Failure
import SoapGateway.Http.Status
import SoapGateway.Json.Value
import SoapGateway.Text.Blank
import SoapGateway.Text.Utf8

/-!
# HTTP messages

Requests as they arrive and the responses that the gateway makes. Every failure is answered with a
JSON document whose one member holds the reason phrase and the wording of the failure.
-/
namespace SoapGateway.Http

/-- A header. Names are compared without regard to the case of ASCII letters. -/
structure Header where
  name : String
  value : List UInt8
  deriving DecidableEq, Repr

/-- Request methods; those that no route knows are kept by name. -/
inductive Method where
  | get | head | post | delete
  | other (name : String)
  deriving DecidableEq, Repr

/-- The method with a name; names are matched exactly. -/
def Method.ofText : String → Method
  | "GET" => get
  | "HEAD" => head
  | "POST" => post
  | "DELETE" => delete
  | name => other name

/-- A request; `target` is what stands after the method. -/
structure Request where
  method : Method
  target : String
  headers : List Header := []
  body : List UInt8 := []
  deriving DecidableEq, Repr

structure Response where
  status : Nat
  headers : List Header := []
  body : List UInt8 := []
  deriving DecidableEq, Repr

def isHeaderByte (b : UInt8) : Bool := (0x20 ≤ b && b != 0x7F) || b == 0x09

/-- An octet of a header that can be read as text: printable ASCII or a tab. -/
def isVisibleByte (b : UInt8) : Bool := (0x20 ≤ b && b < 0x7F) || b == 0x09

/-- The text of a header, unless it holds other octets than printable ASCII and tabs. -/
def visibleText? (value : List UInt8) : Option (List Char) :=
  if value.all isVisibleByte then some (value.map fun b => Char.ofNat b.toNat) else none

/-- The first header with a name. -/
def Request.header? (r : Request) (name : String) : Option (List UInt8) :=
  (r.headers.find? fun h => Text.sameAscii h.name.toList name.toList).map (·.value)

namespace Response

def header (name value : String) : Header := ⟨name, Utf8.bytesOf value⟩

def plain (status : Nat) (text : String) : Response :=
  ⟨status, [header "content-type" "text/plain; charset=utf-8"], Utf8.bytesOf text⟩

def ofJsonText (status : Nat) (text : String) : Response :=
  ⟨status, [header "content-type" "application/json"], Utf8.bytesOf text⟩

def json (status : Nat) (v : Json.Value) : Response := ofJsonText status v.compact

/-- What is said about an error: the reason phrase, and the detail in parentheses. -/
def errorText (status : Nat) (detail : String) : String := reason status ++ " (" ++ detail ++ ")"

def error (status : Nat) (detail : String) : Response :=
  json status (.object [("error", .text (errorText status detail))])

def ofFailure (f : Failure) : Response := error 500 f.message

/-- Sends the caller to another place, with the same method and body. A place that cannot stand in a
header is an error. -/
def temporaryRedirect (location : String) : Response :=
  if (Utf8.bytesOf location).all isHeaderByte then ⟨307, [header "location" location], []⟩
  else error 500 "failed to parse header value"

/-- A result with the JSON text `payload`, when it was fetched, and whether the cache held it. -/
def fetched (payload : String) (createdAt : Calendar.Instant) (fromCache : Bool) : Response :=
  let r := ofJsonText 200 payload
  { r with headers := r.headers ++ [header "x-cache" (if fromCache then "hit" else "miss"),
      header "x-cache-created-at" (Calendar.Instant.milliText createdAt)] }

end Response

end SoapGateway.Http
