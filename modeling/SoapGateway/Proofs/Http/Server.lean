import SoapGateway.Http.Server
import SoapGateway.Proofs.Operation.CacheKey
import SoapGateway.Proofs.Rehearsal
import SoapGateway.Proofs.Text.Pieces

/-!
# Requests to an operation

Every operation has its path and a path under which its cached result is dropped. What the server
makes of a request to either of them, if the body is not too long.
-/
namespace SoapGateway

theorem Text.percentDecode_of_plain {s : List UInt8} (plain : 0x25 ∉ s) :
    percentDecode s = s := by
  fun_induction percentDecode s with
  | case1 => rfl
  | case2 => simp at plain
  | case3 => simp at plain
  | case4 b rest _ ih => rw [ih (List.not_mem_of_not_mem_cons plain)]

namespace Operation

theorem name_nonempty (o : Operation) : o.name.toList ≠ [] := by
  cases o <;> simp [name, descriptor]

theorem name_all_range (o : Operation) :
    o.name.toList.all (fun c => 0x30 ≤ c.toNat && c.toNat ≤ 0x7A) = true := by
  cases o <;> simp [name, descriptor]

/-- Names are written in characters between the first digit and the last letter. -/
theorem name_range {o : Operation} {c : Char} (member : c ∈ o.name.toList) :
    0x30 ≤ c.toNat ∧ c.toNat ≤ 0x7A := by
  have range := List.all_eq_true.mp o.name_all_range c member
  rw [Bool.and_eq_true] at range
  exact ⟨of_decide_eq_true range.1, of_decide_eq_true range.2⟩

theorem slash_not_mem_name (o : Operation) : '/' ∉ o.name.toList :=
  fun member => absurd (name_range member).1 (by decide)

theorem name_ne {name : String} (unknown : find? name = none) (o : Operation) : o.name ≠ name := by
  rintro rfl
  rw [find?_name] at unknown
  cases unknown

/-- The octets of a name are its characters. -/
theorem mem_bytesOf_name {o : Operation} {b : UInt8} (member : b ∈ Utf8.bytesOf o.name) :
    0x30 ≤ b.toNat ∧ b.toNat ≤ 0x7A := by
  have ascii : ∀ c ∈ o.name.toList, c.toNat < 0x80 := fun c member => by
    have := name_range member
    omega
  rw [Utf8.bytesOf, Utf8.encode_ascii ascii, List.mem_map] at member
  obtain ⟨c, named, rfl⟩ := member
  have range := name_range named
  rwa [Utf8.toNat_octet (by omega)]

end Operation

namespace Http

theorem segmentText?_name (o : Operation) : segmentText? o.name.toList = some o.name := by
  have plain : 0x25 ∉ Utf8.bytesOf o.name := fun member => by
    have range := Operation.mem_bytesOf_name member
    simp at range
  rw [segmentText?, ← Utf8.bytesOf, Text.percentDecode_of_plain plain, Utf8.bytesOf, Utf8.decode?,
    Utf8.decode_encode]
  simp

theorem nonempty_of_segmentText? {segment : List Char} {o : Operation}
    (decoded : segmentText? segment = some o.name) : segment ≠ [] := by
  rintro rfl
  have nothing : "" = o.name := Option.some.inj decoded
  exact o.name_nonempty (String.toList_eq_nil_iff.mpr nothing.symm)

theorem isHeaderByte_of_printable {b : UInt8} (low : 0x20 ≤ b.toNat) (high : b.toNat < 0x7F) :
    isHeaderByte b = true := by
  have above : (0x20 : UInt8) ≤ b := UInt8.le_iff_toNat_le.mpr low
  have below : b ≠ 0x7F := by
    rintro rfl
    exact absurd high (Nat.lt_irrefl 0x7F)
  rw [isHeaderByte, decide_eq_true above, bne_iff_ne.mpr below]
  rfl

theorem temporaryRedirect_name (o : Operation) :
    Response.temporaryRedirect ("/" ++ o.name) =
      ⟨307, [Response.header "location" ("/" ++ o.name)], []⟩ := by
  have octets : Utf8.bytesOf ("/" ++ o.name) = 0x2F :: Utf8.bytesOf o.name := by
    rw [Utf8.bytesOf, String.toList_append]
    rfl
  have sound : (Utf8.bytesOf ("/" ++ o.name)).all isHeaderByte = true := by
    rw [octets, List.all_cons, List.all_eq_true.mpr fun b member => ?_]
    · rfl
    · have range := Operation.mem_bytesOf_name member
      exact isHeaderByte_of_printable (Nat.le_trans (by decide) range.1)
        (Nat.lt_of_le_of_lt range.2 (by decide))
  rw [Response.temporaryRedirect, if_pos sound]

namespace Route

theorem find?_of_free {path : List Char} (health : path ≠ "/health".toList)
    (status : path ≠ "/admin/status".toList) (cache : path ≠ "/admin/cache".toList)
    (operations : path ≠ "/admin/operations".toList) (admin : Bool) :
    find? admin path = ofOperationPath? path := by
  rw [find?, if_neg health, if_neg fun h => status h.2, if_neg fun h => cache h.2,
    if_neg fun h => operations h.2]

theorem find?_operation (admin : Bool) (o : Operation) :
    find? admin ("/" ++ o.name).toList = some (.operation o) := by
  have other (name : String) (unknown : Operation.find? name = none) :
      ("/" ++ o.name).toList ≠ ("/" ++ name).toList := by
    intro same
    rw [String.toList_append, String.toList_append] at same
    exact o.name_ne unknown (String.toList_inj.mp (List.append_cancel_left same))
  rw [find?_of_free (other "health" (by decide)) (other "admin/status" (by decide))
    (other "admin/cache" (by decide)) (other "admin/operations" (by decide)), String.toList_append]
  change ofOperationPath? ('/' :: o.name.toList) = _
  -- The path for dropping results goes on after a second slash, and no name holds one.
  have dropped : Text.dropStart? withoutCachePath.toList ('/' :: o.name.toList) = none := by
    rw [Option.eq_none_iff_forall_ne_some]
    intro rest found
    have same : o.name.toList = withoutCachePath.toList.drop 1 ++ rest :=
      congrArg (List.drop 1) (Text.eq_append_of_dropStart? found)
    refine o.slash_not_mem_name ?_
    rw [same]
    exact List.mem_append_left _ (by decide)
  unfold ofOperationPath?
  rw [dropped]
  change (Operation.find? (String.ofList o.name.toList)).map operation = _
  rw [String.ofList_toList, Operation.find?_name]
  rfl

theorem find?_segment (admin : Bool) {segment : List Char} (nonempty : segment ≠ [])
    (single : '/' ∉ segment) :
    find? admin (withoutCachePath.toList ++ segment) = some (.withoutCache segment) := by
  have second : ((withoutCachePath.toList ++ segment).drop 1).head? = some 'G' := rfl
  rw [find?_of_free]
  · have named : (segment.isEmpty || segment.contains '/') = false := by
      rw [Bool.or_eq_false_iff, List.isEmpty_eq_false_iff, List.contains_eq_mem]
      exact ⟨nonempty, decide_eq_false single⟩
    unfold ofOperationPath?
    rw [Text.dropStart?_append]
    dsimp only
    rw [named]
    rfl
  all_goals
    intro same
    rw [same] at second
    revert second
    decide

theorem find?_withoutCache (admin : Bool) (o : Operation) :
    find? admin (withoutCachePath ++ o.name).toList = some (.withoutCache o.name.toList) := by
  rw [String.toList_append]
  exact find?_segment admin o.name_nonempty o.slash_not_mem_name

end Route

/-- A POST to a path, in whatever form the target has it. -/
structure Request.Posts (r : Request) (path : String) : Prop where
  method : r.method = .post
  target : pathOf r.target = path.toList

/-- A POST that asks to have the cached result of an operation dropped. The name of the operation
may be written with escapes. -/
structure Request.AsksToDrop (r : Request) (o : Operation) : Prop where
  method : r.method = .post
  target : ∃ segment, pathOf r.target = Route.withoutCachePath.toList ++ segment ∧
    '/' ∉ segment ∧ segmentText? segment = some o.name

theorem Request.Posts.asksToDrop {r : Request} {o : Operation}
    (posts : r.Posts (Route.withoutCachePath ++ o.name)) : r.AsksToDrop o where
  method := posts.method
  target := ⟨o.name.toList, by rw [posts.target, String.toList_append], o.slash_not_mem_name,
    segmentText?_name o⟩

namespace Server

/-- The body of a request keeps to every limit on its size. -/
def Fits (s : Server) (r : Request) : Prop :=
  ∃ limit, s.bodyLimit? r = some limit ∧ r.body.length ≤ limit ∧ r.body.length ≤ bufferLimit

variable {s : Server} {r : Request} {o : Operation}

/-- A request that announces the length it has, or none, only has to keep to the configured limit
and to that of the buffer. -/
theorem fits_of_announced
    (announced : ∀ n, r.announcedLength? = some n → n = r.body.length)
    (configured : r.body.length ≤ s.settings.security.maxBodySize)
    (buffered : r.body.length ≤ bufferLimit) : s.Fits r := by
  unfold Fits bodyLimit?
  cases length : r.announcedLength? with
  | none => exact ⟨_, rfl, configured, buffered⟩
  | some n =>
    obtain rfl := announced n length
    dsimp only
    rw [if_neg (Nat.not_lt.mpr configured)]
    exact ⟨_, rfl, Nat.le_min.mpr ⟨configured, Nat.le_refl _⟩, buffered⟩

theorem accept_operation (posts : r.Posts ("/" ++ o.name)) (fits : s.Fits r) (d : Dispatcher)
    (shelf : Shelf) : s.accept d shelf r = .running o := by
  obtain ⟨limit, known, within, buffered⟩ := fits
  have route : s.route? r = some (.operation o) := by
    rw [route?, posts.target, Route.find?_operation]
  have short : ¬ min limit bufferLimit < r.body.length := by omega
  rw [accept, known]
  dsimp only
  rw [route]
  simp [Route.isAdmin, Route.accepts, posts.method, perform, short]

theorem accept_drop (asks : r.AsksToDrop o) (fits : s.Fits r) (d : Dispatcher) (shelf : Shelf) :
    s.accept d shelf r =
      .answered (.temporaryRedirect ("/" ++ o.name)) (Dispatcher.forgotten shelf o r.body) := by
  obtain ⟨limit, known, within, buffered⟩ := fits
  obtain ⟨segment, target, single, decoded⟩ := asks.target
  have route : s.route? r = some (.withoutCache segment) := by
    rw [route?, target, Route.find?_segment _ (nonempty_of_segmentText? decoded) single]
  have short : ¬ min limit bufferLimit < r.body.length := by omega
  rw [accept, known]
  dsimp only
  rw [route]
  simp [Route.isAdmin, Route.accepts, asks.method, perform, forget, decoded, short,
    Operation.find?_name, Dispatcher.forgotten]

theorem accept_withoutCache (posts : r.Posts (Route.withoutCachePath ++ o.name)) (fits : s.Fits r)
    (d : Dispatcher) (shelf : Shelf) :
    s.accept d shelf r =
      .answered (.temporaryRedirect ("/" ++ o.name)) (Dispatcher.forgotten shelf o r.body) :=
  accept_drop posts.asksToDrop fits d shelf

end Server

end Http

end SoapGateway
