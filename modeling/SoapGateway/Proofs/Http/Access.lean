import SoapGateway.Proofs.Http.Secrecy
import SoapGateway.Settings.Rule

/-!
# Keys that give access

The key is compared with a header that is read as a text, and a header is read so only if it is
printable ASCII. A key that may stand in a header opens the administrative routes exactly if it is
written in ASCII. With any other one they are closed to every request, though no rule for settings
speaks against it.
-/
namespace SoapGateway.Http

/-- Of the octets that may stand in a header, those of ASCII can be read as text. -/
theorem isVisibleByte_of_legal {b : UInt8} (legal : isHeaderByte b = true) (low : b.toNat < 0x80) :
    isVisibleByte b = true := by
  rw [isHeaderByte, Bool.or_eq_true, Bool.and_eq_true, bne_iff_ne] at legal
  rw [isVisibleByte, Bool.or_eq_true, Bool.and_eq_true]
  rcases legal with ⟨printable, delete⟩ | tab
  · have other : b.toNat ≠ (0x7F : UInt8).toNat := fun same => delete (UInt8.toNat_inj.mp same)
    have value : (0x7F : UInt8).toNat = 127 := rfl
    refine .inl ⟨printable, decide_eq_true ?_⟩
    rw [UInt8.lt_iff_toNat_lt]
    omega
  · exact .inr tab

/-- A text that may stand in a header can be read back from it exactly if it is ASCII. -/
theorem visible_iff_ascii {text : List Char}
    (legal : (Utf8.encode text).all isHeaderByte = true) :
    (Utf8.encode text).all isVisibleByte = true ↔ ∀ c ∈ text, c.toNat < 0x80 := by
  constructor
  · intro visible c member
    -- The octets are the characters that they stand for, so all of those are ASCII.
    have own : text = (Utf8.encode text).map fun b => Char.ofNat b.toNat :=
      Utf8.encode_injective (encode_visible visible).symm
    rw [own, List.mem_map] at member
    obtain ⟨b, there, rfl⟩ := member
    have low := toNat_of_isVisibleByte (List.all_eq_true.mp visible b there)
    rwa [Utf8.toNat_ofNat (.inl (by omega))]
  · intro ascii
    rw [List.all_eq_true]
    intro b member
    refine isVisibleByte_of_legal (List.all_eq_true.mp legal b member) ?_
    rw [Utf8.encode_ascii ascii, List.mem_map] at member
    obtain ⟨c, there, rfl⟩ := member
    have low := ascii c there
    rwa [Utf8.toNat_octet (by omega)]

/-- A request that an administrative route answers. -/
inductive Request.Administers (r : Request) : Route → Prop
  | status (target : pathOf r.target = "/admin/status".toList)
      (method : r.method = .get ∨ r.method = .head) : Administers r .status
  | cache (target : pathOf r.target = "/admin/cache".toList)
      (method : r.method = .get ∨ r.method = .head ∨ r.method = .delete) : Administers r .cache
  | operations (target : pathOf r.target = "/admin/operations".toList)
      (method : r.method = .get ∨ r.method = .head) : Administers r .operations

namespace Request.Administers

variable {r : Request} {route : Route}

theorem begins (asks : r.Administers route) : "/admin".toList <+: pathOf r.target := by
  cases asks with
  | status target =>
    rw [target]
    decide
  | cache target =>
    rw [target]
    decide
  | operations target =>
    rw [target]
    decide

theorem accepts (asks : r.Administers route) : route.accepts r.method = true := by
  cases asks with
  | status _ method => rcases method with same | same <;> rw [same] <;> rfl
  | cache _ method => rcases method with same | same | same <;> rw [same] <;> rfl
  | operations _ method => rcases method with same | same <;> rw [same] <;> rfl

end Request.Administers

namespace Server

variable {s : Server} {r : Request} {route : Route}

/-- What the routes of the administration answer, and the shelf that they leave. -/
inductive Handled (s : Server) (d : Dispatcher) (shelf : Shelf) (r : Request) :
    Route → Response → Shelf → Prop
  | status : Handled s d shelf r .status (.json 200 (s.statusJson shelf)) shelf
  | shown (reads : r.method ≠ .delete) :
    Handled s d shelf r .cache (.json 200 (cacheJson d shelf)) shelf
  | cleared (deletes : r.method = .delete) :
    Handled s d shelf r .cache (.json 200 (.object [("cleared", .number shelf.cache.size)]))
      { shelf with cache := shelf.cache.clear.2 }
  | operations :
    Handled s d shelf r .operations
      (.json 200 (.array (Operation.all.map (operationJson shelf)))) shelf

/-- Every character of the key is ASCII. -/
def HasAsciiKey (s : Server) : Prop := ∀ c ∈ s.settings.admin.apiKey.toList, c.toNat < 0x80

/-- The only header of a request for the key has the octets that show it. -/
def ShowsKey (s : Server) (r : Request) : Prop :=
  (r.headers.filter fun h => Text.sameAscii h.name.toList "authorization".toList).map (·.value) =
    [s.keyBytes]

instance : Decidable (s.ShowsKey r) := inferInstanceAs (Decidable (_ = _))

theorem header?_of_showsKey (shows : s.ShowsKey r) :
    r.header? "authorization" = some s.keyBytes := by
  rw [Request.header?, ← List.head?_filter, ← List.head?_map, shows]
  rfl

theorem keyBytes_visible_iff (legal : s.keyBytes.all isHeaderByte = true) :
    s.keyBytes.all isVisibleByte = true ↔ s.HasAsciiKey := by
  rw [keyBytes, Utf8.bytesOf, visible_iff_ascii legal, String.toList_append]
  have scheme : ∀ c ∈ "Bearer ".toList, c.toNat < 0x80 := by simp
  exact ⟨fun all c member => all c (List.mem_append_right _ member), fun ascii c member =>
    (List.mem_append.mp member).elim (scheme c) (ascii c)⟩

theorem authorizes_of_showsKey (legal : s.keyBytes.all isHeaderByte = true)
    (shows : s.ShowsKey r) : s.authorizes r = true ↔ s.HasAsciiKey := by
  rw [authorizes_iff, keyBytes_visible_iff legal]
  exact and_iff_right (header?_of_showsKey shows)

/-- With a key that cannot be read back from a header no request shows it. -/
theorem lacksKey_of_hidden (hidden : ¬ s.keyBytes.all isVisibleByte = true) (r : Request) :
    s.LacksKey r := by
  rintro - value - visible rfl
  exact hidden visible

theorem route?_of_administers (enabled : s.settings.admin.enabled = true)
    (asks : r.Administers route) : s.route? r = some route := by
  rw [route?, enabled]
  cases asks with
  | status target =>
    rw [target]
    decide
  | cache target =>
    rw [target]
    decide
  | operations target =>
    rw [target]
    decide

/-- A request that announces no more than is allowed gets past the check of the length. -/
theorem exists_bodyLimit
    (announced : ∀ n, r.announcedLength? = some n → n ≤ s.settings.security.maxBodySize) :
    ∃ limit, s.bodyLimit? r = some limit := by
  unfold bodyLimit?
  cases length : r.announcedLength? with
  | none => exact ⟨_, rfl⟩
  | some n => exact ⟨_, if_neg (Nat.not_lt.mpr (announced n length))⟩

/-- The answer of a route to a request that is let in. -/
theorem accept_administers {limit : Nat} (enabled : s.settings.admin.enabled = true)
    (asks : r.Administers route) (announced : s.bodyLimit? r = some limit)
    (authorized : s.authorizes r = true) (d : Dispatcher) (shelf : Shelf) :
    ∃ response shelf', s.accept d shelf r = .answered response shelf' ∧
      s.Handled d shelf r route response shelf' := by
  rw [accept, announced]
  dsimp only
  rw [route?_of_administers enabled asks]
  dsimp only
  rw [authorized, asks.accepts]
  cases asks with
  | status => exact ⟨_, _, rfl, .status⟩
  | operations => exact ⟨_, _, rfl, .operations⟩
  | cache =>
    by_cases deletes : r.method = .delete
    · refine ⟨_, _, ?_, .cleared deletes⟩
      simp [perform, deletes, Cache.clear, Cache.size]
    · refine ⟨_, _, ?_, .shown deletes⟩
      simp [perform, deletes]

/-- With a key that cannot be read back from a header nobody is let in. -/
theorem accept_of_hidden {limit : Nat} (enabled : s.settings.admin.enabled = true)
    (asks : r.Administers route) (announced : s.bodyLimit? r = some limit)
    (hidden : ¬ s.keyBytes.all isVisibleByte = true) (d : Dispatcher) (shelf : Shelf) :
    s.accept d shelf r = .answered (.error 401 "missing or invalid bearer token") shelf := by
  rw [accept_of_lacksKey asks.begins (lacksKey_of_hidden hidden r), rejection, announced,
    route?_of_administers enabled asks]

/-- A key that may stand in a header gives access exactly if it is written in ASCII. Then a request
that an administrative route answers, and whose only header for the key shows it, is handled there.
Otherwise every such request is turned away, whatever its headers, and nothing changes. -/
theorem key_gives_access (enabled : s.settings.admin.enabled = true)
    (legal : s.keyBytes.all isHeaderByte = true) (asks : r.Administers route)
    (announced : ∀ n, r.announcedLength? = some n → n ≤ s.settings.security.maxBodySize)
    (d : Dispatcher) (shelf : Shelf) :
    (s.HasAsciiKey → s.ShowsKey r →
      ∃ response shelf', s.accept d shelf r = .answered response shelf' ∧
        s.Handled d shelf r route response shelf') ∧
    (¬ s.HasAsciiKey →
      s.accept d shelf r = .answered (.error 401 "missing or invalid bearer token") shelf) := by
  obtain ⟨limit, known⟩ := exists_bodyLimit announced
  constructor
  · intro ascii shows
    exact accept_administers enabled asks known ((authorizes_of_showsKey legal shows).mpr ascii) d
      shelf
  · intro foreign
    exact accept_of_hidden enabled asks known (mt (keyBytes_visible_iff legal).mp foreign) d shelf

/-- A key with a tab and a blank in it empties the cache. -/
theorem key_gives_access_cache :
    let s : Server := { settings := { admin := { enabled := true, apiKey := "s3 \tcret~" } } }
    let r : Request :=
      ⟨.delete, "/admin/cache", [⟨"accept", []⟩, ⟨"AUTHORIZATION", s.keyBytes⟩], []⟩
    let shelf : Shelf := ⟨⟨1, [(⟨"DVXML", "1"⟩, ⟨.foreign, 3⟩)]⟩, {}⟩
    s.accept s.dispatcher shelf r =
      .answered (.json 200 (.object [("cleared", .number 1)])) ⟨⟨1, []⟩, {}⟩ := by
  intro s r shelf
  have asks : r.Administers .cache := .cache (by decide +kernel) (.inr (.inr rfl))
  have ascii : s.HasAsciiKey := by
    rw [HasAsciiKey]
    simp [s]
  have silent : r.announcedLength? = none := by decide +kernel
  have announced : ∀ n, r.announcedLength? = some n → n ≤ 65536 := fun n length => by
    rw [silent] at length
    cases length
  obtain ⟨response, shelf', answered, handled⟩ :=
    (key_gives_access rfl (by decide +kernel) asks announced s.dispatcher shelf).1 ascii
      (by decide +kernel)
  cases handled with
  | shown reads => exact absurd rfl reads
  | cleared => exact answered

/-- A key in Cyrillic letters violates no rule and may stand in a header, and whoever shows it is
turned away. -/
theorem key_denies_access :
    let s : Server := { settings := { admin := { enabled := true, apiKey := "ключ" } } }
    let r : Request := ⟨.delete, "/admin/cache", [⟨"authorization", s.keyBytes⟩], []⟩
    s.settings.violations = [] ∧ s.keyBytes.all isHeaderByte = true ∧ s.ShowsKey r ∧
      r.Administers .cache ∧ ∀ d shelf,
        s.accept d shelf r = .answered (.error 401 "missing or invalid bearer token") shelf := by
  intro s r
  have asks : r.Administers .cache := .cache (by decide +kernel) (.inr (.inr rfl))
  refine ⟨by decide +kernel, by decide +kernel, by decide +kernel, asks, fun d shelf => ?_⟩
  have known : s.bodyLimit? r = some 65536 := by decide +kernel
  exact accept_of_hidden rfl asks known (by decide +kernel) d shelf

end Server

end SoapGateway.Http
