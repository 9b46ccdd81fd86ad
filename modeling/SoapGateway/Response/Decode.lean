import SoapGateway.Response
import SoapGateway.Xml.Content
import SoapGateway.Xml.Locate

/-!
# Reading responses from XML

A response stands in the first element with the target's name. Its rows are the run of child
elements with the row's name; an indicator takes its title and date from attributes and its value
from its text.
-/
namespace SoapGateway.Response

open Xml (Cursor ContentFault)

def readRow (fields : List String) (tag : List Char) (c : Cursor) :
    Except ContentFault (Row fields × Cursor) :=
  (Xml.readFields fields Xml.textField tag c).map fun (parts, c) => (Row.ofNamed fields parts, c)

def readIndicator (c : Cursor) : Except ContentFault (Indicator × Cursor) :=
  (Xml.readRecord (recordName "Indicator") indicatorKeys Xml.textField c).map fun (parts, c) =>
    (indicatorOf parts, c)

def readContent (s : Schema) (c : Cursor) : Except ContentFault (Response s) :=
  match s with
  | .listing response row tag fields =>
    (Xml.readRecord (recordName response) [tag]
      (Xml.runField (recordName row) (readRow fields)) c).map fun (parts, _) =>
        .rows ((parts.lookup tag).getD [])
  | .headline =>
    (Xml.readRecord (recordName "MainInfoData") headlineKeys
      (Xml.recordField (recordName "Indicator") readIndicator) c).map fun (parts, _) =>
        .headline (headlineOf parts)

def locateFailure (target : String) : Xml.LocateFault → Failure
  | .notFound => .nodeNotFound target
  | .malformed f =>
    .badAnswer ("malformed response while looking for <" ++ target ++ ">: " ++ f.message)
  | .unterminated f => .badAnswer ("unterminated <" ++ target ++ ">: " ++ f.message)

/-- The source text of the first element named `target`. -/
def locate (target xml : String) : Except Failure String :=
  match Xml.locate xml.toList target.toList with
  | .ok s => .ok (String.ofList s)
  | .error f => .error (locateFailure target f)

def utf8Message (f : Utf8.Fault) : String :=
  match f.length? with
  | some n =>
    "invalid utf-8 sequence of " ++ Text.ofNat n ++ " bytes from index " ++ Text.ofNat f.index
  | none => "incomplete utf-8 byte sequence from index " ++ Text.ofNat f.index

/-- Reads the response in the first element named `target`. -/
def decode (s : Schema) (target : String) (body : List UInt8) : Except Failure (Response s) :=
  match Utf8.decode body with
  | .error f => .error (.badAnswer ("response is not UTF-8: " ++ utf8Message f))
  | .ok xml =>
    match Xml.locate xml target.toList with
    | .error f => .error (locateFailure target f)
    | .ok fragment =>
      match readContent s (Cursor.ofText fragment) with
      | .ok r => .ok r
      | .error f => .error (.badAnswer ("<" ++ target ++ ">: " ++ f.message))

end SoapGateway.Response
