import SoapGateway.Codec
import SoapGateway.Dispatcher
import SoapGateway.Http.Message
import SoapGateway.Url

/-!
# The transport

How a call becomes a request to the remote service, and what is made of the answer. What happens on
the network is given as an `Exchange`. An endpoint or an action that cannot be sent is found out
before anything is sent.
-/
namespace SoapGateway

inductive Exchange where
  /-- No connection comes about. -/
  | refused
  | timedOut
  | answered (status : Nat) (body : List UInt8)
  deriving DecidableEq, Repr

structure Transport where
  endpoint : String
  limit : Calendar.Span
  deriving DecidableEq, Repr

namespace Transport

def maxErrorBody : Nat := 512

def fault (t : Transport) (message : String) : CallFault := .request t.endpoint message

/-- A message about a URL. -/
def aboutUrl (message : String) (u : Url) : String := message ++ " for url (" ++ u.text ++ ")"

/-- Whether a host can stand in the first line of a request. -/
def isSendable (u : Url) : Bool :=
  !((u.host.map Url.Host.text).getD []).any fun c => ['"', '\x60', '\x7b', '\x7d'].contains c

/-- The URL that a call goes to. -/
def target (t : Transport) (action : String) : Except CallFault Url :=
  match Url.parse t.endpoint with
  | .error _ => .error (t.fault "builder error")
  | .ok u =>
    if !u.hasHost then .error (t.fault (aboutUrl "builder error" u))
    else if !(Utf8.bytesOf action).all Http.isHeaderByte then .error (t.fault "builder error")
    else
      let u := u.withoutCredentials
      if (u.scheme != "http".toList && u.scheme != "https".toList) || !isSendable u then
        .error (t.fault (aboutUrl "builder error" u))
      else .ok u

/-- What is reported of an unsuccessful answer: its beginning, without blanks around it. -/
def errorBody (body : List UInt8) : String :=
  Text.trim (String.ofList ((Utf8.decodeLossy body).toList.take maxErrorBody))

def call (t : Transport) (c : SoapRequest) (network : Exchange) : Except CallFault (List UInt8) :=
  match t.target c.action with
  | .error f => .error f
  | .ok u =>
    match network with
    | .refused => .error (t.fault (aboutUrl "error sending request" u))
    | .timedOut => .error (.timeout t.limit)
    | .answered status body =>
      if 200 ≤ status ∧ status < 300 then .ok body else .error (.status status (errorBody body))

end Transport

end SoapGateway
