import SoapGateway.Envelope
import SoapGateway.Response.Decode

/-!
# Calls and answers

A call to the remote service is made from a request, and its answer is read as the response of the
operation. Namespace and layouts are fixed for a gateway.
-/
namespace SoapGateway

structure SoapRequest where
  /-- The namespace followed by the name of the operation. -/
  action : String
  contentType : String
  body : String
  deriving DecidableEq, Repr

structure Codec where
  xmlns : String := "http://web.cbr.ru/"
  layouts : Layouts := {}
  deriving DecidableEq, Repr

namespace Codec

def encode (c : Codec) (name : String) (r : Request) : Except Failure SoapRequest :=
  match r.write name c.xmlns c.layouts with
  | .error f => .error f
  | .ok fragment =>
    match Envelope.splice fragment with
    | .error f => .error f
    | .ok body => .ok ⟨c.xmlns ++ name, Envelope.contentType, body⟩

end Codec

end SoapGateway
