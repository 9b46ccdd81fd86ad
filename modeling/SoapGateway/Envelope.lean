import SoapGateway.Failure
import SoapGateway.Text.Pieces

/-!
# The envelope

An envelope is a skeleton with a slot, into which the element of a request is put. The skeleton is
cut at the slot, so the element itself is never searched; it is refused beforehand if it holds the
reserved token of the slot.
-/
namespace SoapGateway.Envelope

def contentType : String := "text/xml; charset=utf-8"

def slotToken : String := "__GATEWAY_PAYLOAD_SLOT__"

def slot : String := "<gateway-payload-slot>" ++ slotToken ++ "</gateway-payload-slot>"

/-- What every envelope begins with. -/
def head : String :=
  "<soap:Envelope xmlns:xsi=\"http://www.w3.org/2001/XMLSchema-instance\"" ++
    " xmlns:xsd=\"http://www.w3.org/2001/XMLSchema\"" ++
    " xmlns:soap=\"http://schemas.xmlsoap.org/soap/envelope/\"><soap:Body>"

def tail : String := "</soap:Body></soap:Envelope>"

def skeleton : String := head ++ slot ++ tail

/-- Puts a fragment in the place of the one marker in a text. -/
def spliceInto (skeleton marker fragment : String) : Except Failure String :=
  match Text.pieces marker.toList skeleton.toList with
  | [before, after] => .ok (String.ofList (before ++ fragment.toList ++ after))
  | pieces =>
    .error (.envelope ("expected 2 pieces around the payload slot, got " ++
      Text.ofNat pieces.length))

/-- Wraps a fragment in the envelope. -/
def splice (fragment : String) : Except Failure String :=
  if Text.occursIn slotToken.toList fragment.toList then
    .error (.envelope "payload contains the reserved slot token")
  else spliceInto skeleton slot fragment

end SoapGateway.Envelope
