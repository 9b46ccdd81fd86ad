import SoapGateway.Proofs.Http.Server

/-!
# What a request can do

A request that the server takes leaves the shelf as it was, with three exceptions: it has one result
dropped, it empties the cache, or it makes the dispatcher run an operation. Each of them needs a
path, a method and a body of its own, and emptying the cache needs the key besides.
-/
namespace SoapGateway

theorem Operation.name_of_find? {name : String} {o : Operation} (found : find? name = some o) :
    o.name = name := by
  unfold find? at found
  have same := List.find?_some found
  exact eq_of_beq same

namespace Http

namespace Route

/-- The paths that lead to a route. -/
inductive Leads (admin : Bool) (path : List Char) : Route → Prop
  | operation {o : Operation} (named : path = ("/" ++ o.name).toList) :
    Leads admin path (.operation o)
  | withoutCache {segment : List Char} (after : path = withoutCachePath.toList ++ segment)
      (single : '/' ∉ segment) : Leads admin path (.withoutCache segment)
  | health (same : path = "/health".toList) : Leads admin path .health
  | status (enabled : admin = true) (same : path = "/admin/status".toList) :
    Leads admin path .status
  | cache (enabled : admin = true) (same : path = "/admin/cache".toList) : Leads admin path .cache
  | operations (enabled : admin = true) (same : path = "/admin/operations".toList) :
    Leads admin path .operations

theorem leads_of_ofOperationPath? {admin : Bool} {path : List Char} {route : Route}
    (found : ofOperationPath? path = some route) : Leads admin path route := by
  unfold ofOperationPath? at found
  split at found
  · next segment dropped =>
    split at found
    · cases found
    · next shape =>
      cases found
      simp only [Bool.or_eq_true, not_or, List.contains_iff_mem] at shape
      exact .withoutCache (Text.eq_append_of_dropStart? dropped) shape.2
  · split at found
    · next name _ =>
      obtain ⟨o, known, rfl⟩ := Option.map_eq_some_iff.mp found
      refine .operation ?_
      rw [Operation.name_of_find? known, String.toList_append]
      simp
    · cases found

theorem leads_of_find? {admin : Bool} {path : List Char} {route : Route}
    (found : find? admin path = some route) : Leads admin path route := by
  unfold find? at found
  split at found
  · next same =>
    cases found
    exact .health same
  · split at found
    · next same =>
      cases found
      exact .status same.1 same.2
    · split at found
      · next same =>
        cases found
        exact .cache same.1 same.2
      · split at found
        · next same =>
          cases found
          exact .operations same.1 same.2
        · exact leads_of_ofOperationPath? found

end Route

namespace Server

variable {s : Server} {r : Request} {o : Operation}

/-- A request that empties the cache: it shows the key, and the administrative paths exist. -/
structure Clears (s : Server) (r : Request) : Prop where
  enabled : s.settings.admin.enabled = true
  method : r.method = .delete
  target : pathOf r.target = "/admin/cache".toList
  authorized : s.authorizes r = true
  announced : ∃ limit, s.bodyLimit? r = some limit

/-- What a request can come to that the server takes, with the shelf that it leaves. -/
inductive Acceptance (s : Server) (shelf : Shelf) (r : Request) : Accepted → Prop
  | kept (response : Response) : Acceptance s shelf r (.answered response shelf)
  | dropped {o : Operation} (asks : r.AsksToDrop o) (fits : s.Fits r)
      (allowed : shelf.prohibits o = false) :
    Acceptance s shelf r
      (.answered (.temporaryRedirect ("/" ++ o.name)) (shelf.invalidate o r.body).2)
  | cleared (clears : s.Clears r) :
    Acceptance s shelf r (.answered
      (.json 200 (.object [("cleared", .number shelf.cache.size)]))
      { shelf with cache := shelf.cache.clear.2 })
  | running {o : Operation} (posts : r.Posts ("/" ++ o.name)) (fits : s.Fits r) :
    Acceptance s shelf r (.running o)

/-- A body that is not longer than what is read at most keeps to every limit. -/
theorem fits_of_within {limit : Nat} (known : s.bodyLimit? r = some limit)
    (within : ¬ min limit bufferLimit < r.body.length) : s.Fits r := by
  rw [Nat.not_lt, Nat.le_min] at within
  exact ⟨limit, known, within⟩

/-- What comes of a segment that names an operation to be forgotten, or none. -/
theorem forget_cases {segment : List Char} {limit : Nat} (shelf : Shelf)
    (method : r.method = .post)
    (target : pathOf r.target = Route.withoutCachePath.toList ++ segment)
    (single : '/' ∉ segment) (known : s.bodyLimit? r = some limit) :
    Acceptance s shelf r (.answered
      (forget shelf (min limit bufferLimit) segment r.body).1
      (forget shelf (min limit bufferLimit) segment r.body).2) := by
  unfold forget
  split
  · exact .kept _
  · next name decoded =>
    split
    · exact .kept _
    · next within =>
      split
      · exact .kept _
      · next o found =>
        have asks : r.AsksToDrop o :=
          ⟨method, segment, target, single, by rw [decoded, Operation.name_of_find? found]⟩
        cases denied : shelf.prohibits o with
        | true => exact .kept _
        | false => exact .dropped asks (fits_of_within known within) denied

/-- What comes of a request whose route answers its method, and whose key is right if it needs
one. -/
theorem perform_cases {d : Dispatcher} {route : Route} {limit : Nat} (shelf : Shelf)
    (leads : route.Leads s.settings.admin.enabled (pathOf r.target))
    (accepts : route.accepts r.method = true)
    (authorized : route.isAdmin = true → s.authorizes r = true)
    (known : s.bodyLimit? r = some limit) :
    Acceptance s shelf r (s.perform d shelf (min limit bufferLimit) r route) := by
  cases leads with
  | @operation o named =>
    have method : r.method = .post := eq_of_beq accepts
    rw [perform]
    split
    · exact .kept tooLong
    · next within => exact .running ⟨method, named⟩ (fits_of_within known within)
  | withoutCache after single =>
    have method : r.method = .post := eq_of_beq accepts
    exact forget_cases shelf method after single known
  | cache enabled same =>
    rw [perform]
    split
    · next method => exact .cleared ⟨enabled, method, same, authorized rfl, limit, known⟩
    · exact .kept _
  | health => exact .kept _
  | status => exact .kept _
  | operations => exact .kept _

theorem accept_cases (s : Server) (d : Dispatcher) (shelf : Shelf) (r : Request) :
    Acceptance s shelf r (s.accept d shelf r) := by
  unfold accept
  cases known : s.bodyLimit? r with
  | none => exact .kept _
  | some limit =>
    cases found : s.route? r with
    | none => exact .kept _
    | some route =>
      dsimp only
      split
      · exact .kept _
      · next keyed =>
        split
        · next accepts =>
          refine perform_cases shelf (Route.leads_of_find? found) accepts (fun admin => ?_) known
          simpa [admin] using keyed
        · exact .kept _

theorem accept_clear (clears : s.Clears r) (d : Dispatcher) (shelf : Shelf) :
    s.accept d shelf r = .answered
      (.json 200 (.object [("cleared", .number shelf.cache.size)]))
      { shelf with cache := shelf.cache.clear.2 } := by
  obtain ⟨limit, known⟩ := clears.announced
  have route : s.route? r = some .cache := by
    rw [route?, clears.target, clears.enabled]
    decide
  rw [accept, known]
  dsimp only
  rw [route]
  simp [Route.isAdmin, Route.accepts, clears.method, clears.authorized, perform, Cache.clear,
    Cache.size]

end Server

end Http

end SoapGateway
