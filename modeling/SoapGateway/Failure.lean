import SoapGateway.Calendar.Instant

/-!
# Failures of a request

Every way in which a request can fail, with the one wording that callers see. A failure of the
remote stage is annotated with the operation that it belongs to; the annotation is written once and
does not change what kind of failure it is.
-/
namespace SoapGateway

inductive CallFault where
  /-- The request could not be sent or its answer not be read. -/
  | request (endpoint message : String)
  /-- The remote service answered with an unsuccessful status. -/
  | status (code : Nat) (body : String)
  | timeout (limit : Calendar.Span)
  /-- The client could not be set up. -/
  | setup (message : String)
  deriving DecidableEq, Repr

def CallFault.message : CallFault → String
  | request endpoint message => "request to " ++ endpoint ++ " failed: " ++ message
  | status code body => "remote service answered " ++ Text.ofNat code ++ ": " ++ body
  | timeout limit => "remote call timed out after " ++ Calendar.Span.text limit
  | setup message => "transport setup failed: " ++ message

inductive Failure where
  /-- The request was cancelled or ran out of time. -/
  | expired
  | prohibited (operation : String)
  /-- The body of the request cannot be used. -/
  | badBody (detail : String)
  /-- A range of dates that ends before it starts. -/
  | reversedRange (start stop : String)
  | envelope (detail : String)
  | call (fault : CallFault)
  | nodeNotFound (target : String)
  /-- The answer has not the expected shape. -/
  | badAnswer (detail : String)
  | inOperation (operation : String) (source : Failure)
  deriving DecidableEq, Repr

/-- Classes of failures that are counted together. -/
inductive FailureKind where
  | expired | prohibited | badRequest | envelope | transport | decode
  /-- A root that is an annotation itself. -/
  | operation
  deriving DecidableEq, Repr

def FailureKind.label : FailureKind → String
  | expired => "expired"
  | prohibited => "prohibited"
  | badRequest => "bad_request"
  | envelope => "envelope"
  | transport => "transport"
  | decode => "decode"
  | operation => "operation"

namespace Failure

def message : Failure → String
  | expired => "request expired"
  | prohibited operation => "method is prohibited: " ++ operation
  | badBody detail => "bad raw data: " ++ detail
  | reversedRange start stop => "bad input date data: " ++ start ++ " is after " ++ stop
  | envelope detail => "envelope assembly failed: " ++ detail
  | call fault => fault.message
  | nodeNotFound target => "response node <" ++ target ++ "> not found"
  | badAnswer detail => "response decode failed: " ++ detail
  | inOperation operation source => operation ++ ": " ++ source.message

/-- The failure without its annotations. -/
def root : Failure → Failure
  | inOperation _ source => source.root
  | f => f

/-- Names of the annotations from the outside in. -/
def layers : Failure → List String
  | inOperation operation source => operation :: source.layers
  | _ => []

/-- The class of a failure, which is told from its root. -/
def kind (f : Failure) : FailureKind :=
  match f.root with
  | expired => .expired
  | prohibited _ => .prohibited
  | badBody _ => .badRequest
  | reversedRange _ _ => .badRequest
  | envelope _ => .envelope
  | call _ => .transport
  | nodeNotFound _ => .decode
  | badAnswer _ => .decode
  | inOperation _ _ => .operation

/-- Annotates a failure with an operation, unless it has an annotation already. -/
def within (operation : String) : Failure → Failure
  | inOperation first source => inOperation first source
  | f => inOperation operation f

end Failure

end SoapGateway
