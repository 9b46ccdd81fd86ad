import SoapGateway.Dispatcher
import SoapGateway.Http.Route
import SoapGateway.Number.Power
import SoapGateway.Rehearsal
import SoapGateway.Settings

/-!
# The HTTP server

What a request is answered, and what it changes. `accept` takes a request as far as it gets without
a run of the dispatcher: it checks the announced length, finds the route, checks the key, the
method and the body, in this order. Whatever the answer, it leaves with the name of the request and
its length.
-/
namespace SoapGateway.Http

structure Server where
  settings : Settings := {}
  /-- Text of the instant at which the server started. -/
  startedAt : String := ""
  /-- Whole seconds since then. -/
  uptime : Int := 0
  deriving DecidableEq, Repr

/-- How far the server gets with a request by itself. -/
inductive Accepted where
  | answered (response : Response) (shelf : Shelf)
  /-- The dispatcher has to answer the operation. -/
  | running (o : Operation)

/-- Octets of a body that are read at most, whatever the settings allow. -/
def bufferLimit : Nat := 2097152

/-- The length that a request announces. An announcement that is no number of 64 bits is ignored. -/
def Request.announcedLength? (r : Request) : Option Nat :=
  match (r.header? "content-length").bind visibleText? with
  | none => none
  | some text =>
    let digits := match text with
      | '+' :: rest => rest
      | rest => rest
    (Text.readNat? digits).bind fun n => if n < Number.twoPow 64 then some n else none

def requestIdHeader : String := "x-request-id"

/-- The name of a request in the context of its run. -/
def Request.contextName (r : Request) : String :=
  match (r.header? requestIdHeader).bind visibleText? with
  | some text => String.ofList text
  | none => "unknown"

namespace Server

/-- The dispatcher that the settings ask for. -/
def dispatcher (s : Server) : Dispatcher :=
  ⟨⟨s.settings.remote.actionNamespace, s.settings.dates⟩, s.settings.cache.ttlSecs * 1000000⟩

/-- The cache, still empty, and the deny-list that the settings ask for. -/
def shelf (s : Server) : Shelf :=
  ⟨.empty s.settings.cache.maxEntries, .ofText s.settings.permissions.denyList⟩

def route? (s : Server) (r : Request) : Option Route :=
  Route.find? s.settings.admin.enabled (pathOf r.target)

def authorizes (s : Server) (r : Request) : Bool :=
  match (r.header? "authorization").bind visibleText? with
  | some text => text == "Bearer ".toList ++ s.settings.admin.apiKey.toList
  | none => false

/-- How many octets the body of a request may have, unless it announces too many. -/
def bodyLimit? (s : Server) (r : Request) : Option Nat :=
  let limit := s.settings.security.maxBodySize
  match r.announcedLength? with
  | none => some limit
  | some n => if limit < n then none else some (min limit n)

def tooLong : Response :=
  .plain 413 "Failed to buffer the request body: length limit exceeded"

def statusJson (s : Server) (shelf : Shelf) : Json.Value :=
  .object [("version", .text "0.1.0"), ("status", .text "operational"),
    ("started_at", .text s.startedAt), ("uptime_secs", .number s.uptime),
    ("remote_endpoint", .text s.settings.remote.endpoint),
    ("operations", .number Operation.all.length), ("cache_entries", .number shelf.cache.size),
    ("denied", .array (shelf.denied.names.map .text))]

def cacheJson (d : Dispatcher) (shelf : Shelf) : Json.Value :=
  .object [("entries", .number shelf.cache.size), ("capacity", .number shelf.cache.capacity),
    ("ttl_secs", .number (d.ttl / 1000000 : Nat))]

def operationJson (shelf : Shelf) (o : Operation) : Json.Value :=
  .object [("name", .text o.name), ("target_node", .text o.descriptor.target),
    ("cache_policy", .text o.descriptor.policy.label), ("prohibited", .bool (shelf.prohibits o))]

/-- Drops the cached result of the operation that a segment names, unless it is refused, and sends
the caller to that operation. -/
def forget (shelf : Shelf) (limit : Nat) (segment : List Char) (body : List UInt8) :
    Response × Shelf :=
  match segmentText? segment with
  | none => (.plain 400 "Invalid URL: Invalid UTF-8 in `operation`", shelf)
  | some name =>
    if limit < body.length then (tooLong, shelf)
    else
      match Operation.find? name with
      | none => (.error 404 ("unknown operation: " ++ name), shelf)
      | some o =>
        (.temporaryRedirect ("/" ++ o.name),
          if shelf.prohibits o then shelf else (shelf.invalidate o body).2)

def perform (s : Server) (d : Dispatcher) (shelf : Shelf) (limit : Nat) (r : Request) :
    Route → Accepted
  | .operation o =>
    if limit < r.body.length then .answered tooLong shelf else .running o
  | .withoutCache segment =>
    let (response, shelf) := forget shelf limit segment r.body
    .answered response shelf
  | .health => .answered (.json 200 (.object [("status", .text "ok")])) shelf
  | .status => .answered (.json 200 (s.statusJson shelf)) shelf
  | .cache =>
    if r.method = .delete then
      let (removed, cache) := shelf.cache.clear
      .answered (.json 200 (.object [("cleared", .number removed)])) { shelf with cache := cache }
    else .answered (.json 200 (cacheJson d shelf)) shelf
  | .operations => .answered (.json 200 (.array (Operation.all.map (operationJson shelf)))) shelf

/-- Takes a request as far as it gets without a run of the dispatcher. -/
def accept (s : Server) (d : Dispatcher) (shelf : Shelf) (r : Request) : Accepted :=
  match s.bodyLimit? r with
  | none => .answered (.plain 413 "length limit exceeded") shelf
  | some limit =>
    match s.route? r with
    | none => .answered (.error 404 "no such route") shelf
    | some route =>
      if route.isAdmin && !s.authorizes r then
        .answered (.error 401 "missing or invalid bearer token") shelf
      else if route.accepts r.method then s.perform d shelf (min limit bufferLimit) r route
      else .answered ⟨405, [], []⟩ shelf

def context (s : Server) (now : Nat) (r : Request) : Context :=
  let c : Context := { requestId := some r.contextName }
  c.withTimeout now (s.settings.timeouts.requestSecs * 1000)

def ofResult : Except Failure Answer → Response
  | .ok a => .fetched a.payload a.createdAt a.fromCache
  | .error f => .ofFailure f

/-- The methods that a response has to list: those of a route that does not answer the method. -/
def allowed (s : Server) (r : Request) : List Header :=
  match s.route? r with
  | none => []
  | some route =>
    if route.accepts r.method then [] else [Response.header "allow" route.allow]

/-- Completes a response: methods, length, the name of the request or else `freshId`. The answer to
HEAD keeps the length and loses the body. -/
def complete (s : Server) (freshId : String) (r : Request) (response : Response) : Response :=
  let length := Response.header "content-length" (Text.ofNat response.body.length)
  let id : Header := ⟨requestIdHeader, (r.header? requestIdHeader).getD (Utf8.bytesOf freshId)⟩
  { response with
    headers := response.headers ++ s.allowed r ++ [length, id]
    body := if r.method = .head then [] else response.body }

def rehearse (s : Server) (freshId : String) (w : Stagecraft) (r : Request) :
    Response × Stagecraft :=
  match s.accept w.dispatcher w.shelf r with
  | .answered response shelf => (s.complete freshId r response, { w with shelf := shelf })
  | .running o =>
    let (w, results) := w.play [⟨o, r.body, .cached, s.context w.time r, .waiting⟩]
    (s.complete freshId r (ofResult ((results.head?).getD (.error .expired))), w)

end Server

end SoapGateway.Http
