import SoapGateway.Proofs.Http.Server
import SoapGateway.Proofs.Text.Replacement

/-!
# Which entry a body drops

A key holds the body as a tolerant reader reads it. Bodies that are texts have keys of their own, so
dropping the result for one of them leaves those of the others alone, whether the dispatcher is told
to or a client posts to the path for it. A body with malformed octets shares its key with others.
-/
namespace SoapGateway

open Utf8 (lossy IsPlain ToldApart)

namespace Operation

theorem policy_cases (o : Operation) :
    o.descriptor.policy = .ttl ∨ o.descriptor.policy = .snapshot := by
  cases o.descriptor.policy with
  | ttl => exact .inl rfl
  | snapshot => exact .inr rfl

/-- What two keys have in common when they are one. -/
theorem cacheKey_eq_iff {o o' : Operation} {a b : List UInt8} :
    o.cacheKey a = o'.cacheKey b ↔
      o = o' ∧ (o.descriptor.policy = .snapshot ∨ lossy a = lossy b) := by
  constructor
  · intro same
    obtain rfl := eq_of_cacheKey same
    refine ⟨rfl, ?_⟩
    rcases o.policy_cases with policy | policy
    · exact .inr (alike_of_cacheKey policy same)
    · exact .inl policy
  · rintro ⟨rfl, snapshot | read⟩
    · rw [cacheKey_snapshot snapshot, cacheKey_snapshot snapshot]
    · rcases o.policy_cases with policy | policy
      · rw [cacheKey_ttl policy, cacheKey_ttl policy, read]
      · rw [cacheKey_snapshot policy, cacheKey_snapshot policy]

theorem cacheKey_eq_iff_of_told {o o' : Operation} {a b : List UInt8} (told : ToldApart a b) :
    o.cacheKey a = o'.cacheKey b ↔ o = o' ∧ (o.descriptor.policy = .snapshot ∨ a = b) := by
  rw [cacheKey_eq_iff]
  constructor
  · rintro ⟨same, snapshot | read⟩
    · exact ⟨same, .inl snapshot⟩
    · exact ⟨same, .inr (told.eq_of_lossy read)⟩
  · rintro ⟨same, snapshot | rfl⟩
    · exact ⟨same, .inl snapshot⟩
    · exact ⟨same, .inr rfl⟩

/-- A key of an operation whose results age belongs to one body alone exactly if that is plain. -/
theorem cacheKey_alone_iff {o : Operation} (policy : o.descriptor.policy = .ttl)
    (a : List UInt8) : (∀ b, o.cacheKey b = o.cacheKey a → b = a) ↔ IsPlain a := by
  have ages : ¬ o.descriptor.policy = .snapshot := by
    rw [policy]
    decide
  rw [Utf8.isPlain_iff_alone]
  constructor
  · intro alone b read
    exact alone b (cacheKey_eq_iff.mpr ⟨rfl, .inr read⟩)
  · intro alone b same
    have read := (cacheKey_eq_iff.mp same).2.resolve_left ages
    exact alone b read

end Operation

theorem Dispatcher.get?_forgotten_other {s : Shelf} {o : Operation} {body : List UInt8}
    {k : CacheKey} (other : k ≠ o.cacheKey body) :
    (forgotten s o body).cache.get? k = s.cache.get? k := by
  unfold forgotten
  split
  · rfl
  · exact Shelf.get?_invalidate_other other

namespace Http

/-- A post to the path for dropping a result is answered at once. It drops the result, or its body
is too long and nothing is done. -/
theorem Server.accept_withoutCache_cases {s : Server} {r : Request} {o : Operation}
    (posts : r.Posts (Route.withoutCachePath ++ o.name)) (d : Dispatcher) (shelf : Shelf) :
    ∃ response shelf', s.accept d shelf r = .answered response shelf' ∧
      (shelf' = shelf ∨ shelf' = Dispatcher.forgotten shelf o r.body) := by
  have route : s.route? r = some (.withoutCache o.name.toList) := by
    rw [route?, posts.target, Route.find?_withoutCache]
  cases limited : s.bodyLimit? r with
  | none =>
    refine ⟨.plain 413 "length limit exceeded", shelf, ?_, .inl rfl⟩
    rw [accept, limited]
  | some limit =>
    by_cases long : min limit bufferLimit < r.body.length
    · refine ⟨tooLong, shelf, ?_, .inl rfl⟩
      rw [accept, limited]
      dsimp only
      rw [route]
      simp [Route.isAdmin, Route.accepts, posts.method, perform, forget, segmentText?_name, long]
    · have fits : s.Fits r := ⟨limit, limited, by omega, by omega⟩
      exact ⟨_, _, accept_withoutCache posts fits d shelf, .inr rfl⟩

/-- Dropping what is cached for an operation and a body leaves the entry under a key alone, also
where a client asks for it. -/
structure Spares (o : Operation) (body : List UInt8) (key : CacheKey) : Prop where
  directly : ∀ shelf : Shelf, (shelf.invalidate o body).2.cache.get? key = shelf.cache.get? key
  onRequest : ∀ (s : Server) (d : Dispatcher) (shelf : Shelf) (r : Request),
    r.Posts (Route.withoutCachePath ++ o.name) → r.body = body →
    ∃ response shelf', s.accept d shelf r = .answered response shelf' ∧
      shelf'.cache.get? key = shelf.cache.get? key

theorem spares_other {o : Operation} {body : List UInt8} {key : CacheKey}
    (other : key ≠ o.cacheKey body) : Spares o body key := by
  constructor
  · intro shelf
    exact Shelf.get?_invalidate_other other
  · rintro s d shelf r posts rfl
    obtain ⟨response, shelf', answered, same | forgot⟩ := s.accept_withoutCache_cases posts d shelf
    · exact ⟨response, shelf', answered, by rw [same]⟩
    · refine ⟨response, shelf', answered, ?_⟩
      rw [forgot]
      exact Dispatcher.get?_forgotten_other other

/-- Bodies that tolerant reading tells apart have one key exactly if the operation is the same and
takes no members, or the bodies are the same octet by octet; then dropping the result for one of
them spares that of the other. Only plain texts are told apart from everything: each other body of
an operation whose results age shares its key. -/
theorem cacheKey_exact (o o' : Operation) (a b : List UInt8) :
    (ToldApart a b →
      (o.cacheKey a = o'.cacheKey b ↔
        o = o' ∧ (o.descriptor.policy = .snapshot ∨ a = b)) ∧
      (o.descriptor.policy = .ttl → ¬ (o = o' ∧ a = b) → Spares o a (o'.cacheKey b))) ∧
    (o.descriptor.policy = .ttl →
      ((∀ c, o.cacheKey c = o.cacheKey a → c = a) ↔ IsPlain a)) := by
  refine ⟨fun told => ⟨Operation.cacheKey_eq_iff_of_told told, ?_⟩,
    fun policy => Operation.cacheKey_alone_iff policy a⟩
  intro policy different
  apply spares_other
  intro same
  obtain ⟨own, snapshot | equal⟩ := (Operation.cacheKey_eq_iff_of_told told).mp same.symm
  · rw [policy] at snapshot
    cases snapshot
  · exact different ⟨own, equal⟩

/-- A body and the same body with a blank more, of which the first holds a replacement character. -/
theorem cacheKey_exact_keyRate :
    let a := Utf8.encode [Char.ofNat 0xFFFD]
    let b := Utf8.encode [Char.ofNat 0xFFFD, ' ']
    ToldApart a b ∧ a ≠ b ∧ Operation.keyRate.cacheKey a ≠ Operation.keyRate.cacheKey b ∧
      Spares .keyRate a (Operation.keyRate.cacheKey b) := by
  intro a b
  have told : ToldApart a b := .inl ⟨⟨_, rfl⟩, ⟨_, rfl⟩⟩
  have different : a ≠ b := by decide
  obtain ⟨⟨keys, spares⟩, _⟩ := And.imp_left (· told) (cacheKey_exact .keyRate .keyRate a b)
  refine ⟨told, different, ?_, spares rfl fun same => different same.2⟩
  intro same
  rcases (keys.mp same).2 with snapshot | equal
  · cases snapshot
  · exact different equal

/-- Two accepted bodies that differ in a malformed octet share their key, and dropping the result
for one of them drops that of the other. -/
theorem cacheKey_shared_enumValutes :
    let around (b : UInt8) : List UInt8 := [0x7B, 0x22, 0x78, 0x22, 0x3A, 0x22, b, 0x22, 0x7D]
    let o := Operation.enumValutes
    let entry : CacheEntry Stored := ⟨.response .enumValutes (.rows []), 0⟩
    let shelf : Shelf := ⟨⟨0, [(o.cacheKey (around 0xFF), entry)]⟩, {}⟩
    o.descriptor.policy = .ttl ∧ around 0xFF ≠ around 0xFE ∧
      o.parse {} (around 0xFF) = .ok (.directory false) ∧
      o.parse {} (around 0xFE) = .ok (.directory false) ∧
      o.cacheKey (around 0xFF) = o.cacheKey (around 0xFE) ∧
      shelf.cache.get? (o.cacheKey (around 0xFF)) = some entry ∧
      (shelf.invalidate o (around 0xFE)).2.cache.get? (o.cacheKey (around 0xFF)) = none := by
  decide +kernel

end Http

end SoapGateway
