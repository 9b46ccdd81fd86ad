import SoapGateway.Http.Clients
import SoapGateway.Proofs.Http.Acceptance

/-!
# Secrecy of the administrative paths

A request shows the key in one way only, octet by octet. Without it a path that begins as the
administrative ones do is answered from the settings and the request alone, so that no two states of
the gateway can be told apart, and nothing changes.
-/
namespace SoapGateway

theorem Utf8.encode_injective {s s' : List Char} (same : encode s = encode s') : s = s' := by
  rw [← lossy_encode s, same, lossy_encode]

theorem Operation.name_head (o : Operation) : o.name.toList.head? ≠ some 'a' := by
  cases o <;> decide

namespace Http

theorem toNat_of_isVisibleByte {b : UInt8} (visible : isVisibleByte b = true) :
    b.toNat < 0x80 := by
  rw [isVisibleByte, Bool.or_eq_true, Bool.and_eq_true, decide_eq_true_eq, decide_eq_true_eq,
    beq_iff_eq] at visible
  rcases visible with ⟨_, below⟩ | rfl
  · exact Nat.lt_of_lt_of_le (UInt8.lt_iff_toNat_lt.mp below) (by decide)
  · decide

/-- Visible octets are the characters that they stand for. -/
theorem encode_visible {value : List UInt8} (visible : value.all isVisibleByte = true) :
    Utf8.encode (value.map fun b => Char.ofNat b.toNat) = value := by
  have valid {b : UInt8} (member : b ∈ value) : (Char.ofNat b.toNat).toNat = b.toNat := by
    have low := toNat_of_isVisibleByte (List.all_eq_true.mp visible b member)
    exact Utf8.toNat_ofNat (.inl (by omega))
  rw [Utf8.encode_ascii, List.map_map]
  · refine (List.map_congr_left fun b member => ?_).trans (List.map_id value)
    rw [Function.comp, valid member]
    exact UInt8.ofNat_toNat
  · intro c member
    obtain ⟨b, there, rfl⟩ := List.mem_map.mp member
    rw [valid there]
    exact toNat_of_isVisibleByte (List.all_eq_true.mp visible b there)

/-- A header is read as a text exactly if it is written in visible octets, which are those of the
text. -/
theorem visibleText?_eq_some {value : List UInt8} {text : List Char} :
    visibleText? value = some text ↔
      value.all isVisibleByte = true ∧ value = Utf8.encode text := by
  unfold visibleText?
  constructor
  · intro read
    split at read
    · next visible =>
      cases read
      exact ⟨visible, (encode_visible visible).symm⟩
    · cases read
  · rintro ⟨visible, same⟩
    rw [if_pos visible, Utf8.encode_injective ((encode_visible visible).trans same)]

/-- A path that begins as the administrative ones do leads to one of them, where they exist. -/
theorem Route.Leads.isAdmin {admin : Bool} {path : List Char} {route : Route}
    (leads : route.Leads admin path) (begins : "/admin".toList <+: path) :
    admin = true ∧ route.isAdmin = true := by
  obtain ⟨rest, whole⟩ := begins
  have second : (path.drop 1).head? = some 'a' := by
    rw [← whole]
    rfl
  cases leads with
  | @operation o named =>
    rw [named, String.toList_append] at second
    exact absurd second o.name_head
  | withoutCache after =>
    rw [after] at second
    cases second
  | health same =>
    rw [same] at second
    cases second
  | status enabled => exact ⟨enabled, rfl⟩
  | cache enabled => exact ⟨enabled, rfl⟩
  | operations enabled => exact ⟨enabled, rfl⟩

namespace Response

/-- A response without the name of its request. -/
def unnamed (response : Response) : Response :=
  { response with headers := response.headers.filter fun h => h.name != requestIdHeader }

end Response

namespace Server

open Traffic (Scene)

variable {s s' : Server} {r : Request}

/-- The octets of the header that shows the key. -/
def keyBytes (s : Server) : List UInt8 := Utf8.bytesOf ("Bearer " ++ s.settings.admin.apiKey)

/-- A request shows the key exactly if the first header for it is those octets, all visible. -/
theorem authorizes_iff :
    s.authorizes r = true ↔
      r.header? "authorization" = some s.keyBytes ∧ s.keyBytes.all isVisibleByte = true := by
  unfold authorizes
  cases header : r.header? "authorization" with
  | none => simp
  | some value =>
    rw [Option.bind_some]
    constructor
    · intro shown
      split at shown
      · next text read =>
        obtain ⟨visible, own⟩ := visibleText?_eq_some.mp read
        rw [eq_of_beq shown, ← String.toList_append] at own
        rw [own] at visible
        exact ⟨congrArg some own, visible⟩
      · cases shown
    · rintro ⟨own, visible⟩
      obtain rfl : value = s.keyBytes := Option.some.inj own
      have read : visibleText? s.keyBytes = some ("Bearer " ++ s.settings.admin.apiKey).toList :=
        visibleText?_eq_some.mpr ⟨visible, rfl⟩
      rw [read, String.toList_append]
      exact beq_self_eq_true _

/-- A request does not show the key where the administrative paths exist: the first header for it is
missing, has other octets, or has some that are not visible. -/
def LacksKey (s : Server) (r : Request) : Prop :=
  s.settings.admin.enabled = true → ∀ value, r.header? "authorization" = some value →
    value.all isVisibleByte = true → value ≠ s.keyBytes

theorem not_authorizes_of_lacksKey (lacks : s.LacksKey r)
    (enabled : s.settings.admin.enabled = true) : s.authorizes r = false := by
  rw [Bool.eq_false_iff]
  intro shown
  obtain ⟨own, visible⟩ := authorizes_iff.mp shown
  exact lacks enabled s.keyBytes own visible rfl

/-- The answer on an administrative path to a request without the key. -/
def rejection (s : Server) (r : Request) : Response :=
  match s.bodyLimit? r, s.route? r with
  | none, _ => .plain 413 "length limit exceeded"
  | some _, none => .error 404 "no such route"
  | some _, some _ => .error 401 "missing or invalid bearer token"

theorem accept_of_lacksKey (begins : "/admin".toList <+: pathOf r.target) (lacks : s.LacksKey r)
    (d : Dispatcher) (shelf : Shelf) :
    s.accept d shelf r = .answered (s.rejection r) shelf := by
  unfold accept rejection
  cases s.bodyLimit? r with
  | none => rfl
  | some limit =>
    cases found : s.route? r with
    | none => rfl
    | some route =>
      obtain ⟨enabled, admin⟩ := (Route.leads_of_find? found).isAdmin begins
      dsimp only
      rw [admin, not_authorizes_of_lacksKey lacks enabled]
      rfl

theorem rehearse_of_lacksKey (begins : "/admin".toList <+: pathOf r.target)
    (lacks : s.LacksKey r) (id : String) (w : Stagecraft) :
    s.rehearse id w r = (s.complete id r (s.rejection r), w) := by
  rw [rehearse, accept_of_lacksKey begins lacks]

/-- Nothing but the settings of the server goes into that answer. -/
theorem complete_rejection (same : s'.settings = s.settings) (r : Request) (id : String) :
    s'.complete id r (s'.rejection r) = s.complete id r (s.rejection r) := by
  obtain ⟨settings, startedAt, uptime⟩ := s
  obtain ⟨settings', startedAt', uptime'⟩ := s'
  obtain rfl : settings' = settings := same
  rfl

/-- The name that is given to a request shows in its own header only. -/
theorem unnamed_complete (s : Server) (id id' : String) (r : Request) (response : Response) :
    (s.complete id r response).unnamed = (s.complete id' r response).unnamed := by
  simp [complete, Response.unnamed, List.filter_append, List.filter_cons]

theorem complete_named {name : List UInt8} (named : r.header? requestIdHeader = some name)
    (s : Server) (id id' : String) (response : Response) :
    s.complete id r response = s.complete id' r response := by
  rw [complete, complete, named]
  rfl

/-- Two gateways with the same settings, whatever their dispatchers hold and whenever they were
started, cannot be told apart by a request without the key on a path that begins as the
administrative ones do. The request is rejected. The answers are the same but for the name that it
is given, and entirely the same if it has a name of its own or is given the same. Neither gateway
changes, and neither does one that serves many clients at once. -/
theorem admin_reveals_nothing (same : s'.settings = s.settings)
    (begins : "/admin".toList <+: pathOf r.target) (lacks : s.LacksKey r) (w w' : Stagecraft)
    (v : Scene) (id id' : String) :
    let (response, after) := s.rehearse id w r
    let (response', after') := s'.rehearse id' w' r
    after = w ∧ after' = w' ∧ s.serve v (.arrive r) = v ∧
    response = s.complete id r (s.rejection r) ∧
    response.unnamed = response'.unnamed ∧
    ((id = id' ∨ (r.header? requestIdHeader).isSome = true) → response = response') := by
  have lacks' : s'.LacksKey r := by
    rw [LacksKey, keyBytes, same]
    exact lacks
  rw [rehearse_of_lacksKey begins lacks, rehearse_of_lacksKey begins lacks',
    complete_rejection same]
  refine ⟨rfl, rfl, ?served, rfl, s.unnamed_complete id id' r _, ?named⟩
  case served => rw [serve, accept_of_lacksKey begins lacks]
  case named =>
    rintro (rfl | own)
    · rfl
    · obtain ⟨name, named⟩ := Option.isSome_iff_exists.mp own
      exact complete_named named s id id' _

/-- To a key with a letter in the wrong case a full cache answers as an empty one does, and to the
key itself it does not. -/
theorem admin_reveals_nothing_cache :
    let s : Server := { settings := { admin := { enabled := true, apiKey := "key" } } }
    let r (key : String) : Request :=
      ⟨.get, "/admin/cache", [Response.header "Authorization" ("Bearer " ++ key)], []⟩
    let w : Stagecraft :=
      { dispatcher := { ttl := 0 }, shelf := ⟨⟨1, [(⟨"DVXML", "1"⟩, ⟨.foreign, 3⟩)]⟩, {}⟩ }
    let w' : Stagecraft := { dispatcher := { ttl := 60000000 } }
    (s.rehearse "a" w (r "Key")).1 = (s.rehearse "a" w' (r "Key")).1 ∧
    (s.rehearse "a" w (r "Key")).1.status = 401 ∧
    (s.rehearse "a" w (r "key")).1 ≠ (s.rehearse "a" w' (r "key")).1 := by
  intro s r w w'
  have begins : "/admin".toList <+: pathOf (r "Key").target := by decide +kernel
  have lacks : s.LacksKey (r "Key") := by
    intro _ value shown _ own
    rw [own] at shown
    revert shown
    decide +kernel
  obtain ⟨_, _, _, _, _, alike⟩ :=
    admin_reveals_nothing (rfl : s.settings = s.settings) begins lacks w w' {} "a" "a"
  exact ⟨alike (.inl rfl), by decide +kernel, by decide +kernel⟩

end Server

end Http

end SoapGateway
