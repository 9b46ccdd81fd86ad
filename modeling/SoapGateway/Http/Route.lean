import SoapGateway.Http.Message
import SoapGateway.Operation
import SoapGateway.Text.Percent
import SoapGateway.Text.Pieces

/-!
# Routes

Which resource a request is about. The path of the target is matched as it stands: nothing in it is
decoded, and neither a slash at its end nor the query is ignored or added. Only the one segment that
names an operation to be forgotten is decoded.
-/
namespace SoapGateway.Http

inductive Route where
  /-- Answers an operation. -/
  | operation (o : Operation)
  /-- Drops the cached result of the operation that the segment names. -/
  | withoutCache (segment : List Char)
  | health
  | status
  | cache
  | operations
  deriving DecidableEq, Repr

/-- The path after `scheme://authority`. -/
def pathAfterAuthority (s : List Char) : List Char :=
  match s.dropWhile (· != '/') with
  | [] => ['/']
  | path => path

/-- The path of a request target, which may be a whole URI. A target that names only an authority
has no path. -/
def pathOf (target : String) : List Char :=
  let t := target.toList.takeWhile fun c => c != '?' && c != '#'
  match t with
  | '/' :: _ => t
  | ['*'] => t
  | _ =>
    match Text.pieces "://".toList t with
    | _ :: after :: _ => pathAfterAuthority after
    | _ => []

/-- The text of a segment, unless its octets are no text. -/
def segmentText? (segment : List Char) : Option String :=
  Utf8.decode? (Text.percentDecode (Utf8.encode segment))

namespace Route

def withoutCachePath : String := "/GetMethodDataWithoutCache/"

/-- The route of a path that is neither fixed nor administrative. -/
def ofOperationPath? (path : List Char) : Option Route :=
  match Text.dropStart? withoutCachePath.toList path with
  | some segment =>
    if segment.isEmpty || segment.contains '/' then none else some (.withoutCache segment)
  | none =>
    match path with
    | '/' :: name => (Operation.find? (String.ofList name)).map .operation
    | _ => none

/-- The route of a path. The administrative ones exist only where they are enabled. -/
def find? (admin : Bool) (path : List Char) : Option Route :=
  if path = "/health".toList then some .health
  else if admin ∧ path = "/admin/status".toList then some .status
  else if admin ∧ path = "/admin/cache".toList then some .cache
  else if admin ∧ path = "/admin/operations".toList then some .operations
  else ofOperationPath? path

def isAdmin : Route → Bool
  | status | cache | operations => true
  | operation _ | withoutCache _ | health => false

def accepts : Route → Method → Bool
  | operation _, m | withoutCache _, m => m == .post
  | cache, m => m == .get || m == .head || m == .delete
  | health, m | status, m | operations, m => m == .get || m == .head

/-- The methods of a route as a header lists them. -/
def allow : Route → String
  | operation _ | withoutCache _ => "POST"
  | cache => "GET,HEAD,DELETE"
  | health | status | operations => "GET,HEAD"

end Route

end SoapGateway.Http
