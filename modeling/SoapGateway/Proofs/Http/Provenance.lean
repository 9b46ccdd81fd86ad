import SoapGateway.Http.Message
import SoapGateway.Proofs.Calendar.Timestamp
import SoapGateway.Proofs.Http.Server

/-!
# When a result was fetched

A result is answered with the instant at which it was fetched. The header is a UTC time of fixed
form that can be read back, and such headers are in the order of time.
-/
namespace SoapGateway.Http

open Calendar (Instant numbers? utcForm isDigit_or_mark)

/-- The UTC text of an instant may stand in a header. -/
theorem isHeaderByte_milliText {t : Int} (plain : Instant.IsPlain t) :
    (Utf8.bytesOf (Instant.milliText t)).all isHeaderByte = true := by
  have marks : ∀ c, .mark c ∈ utcForm → 0x20 ≤ c.toNat ∧ c.toNat < 0x7F := by
    intro c member
    simp only [utcForm, List.mem_cons, reduceCtorEq, Calendar.Place.mark.injEq, false_or,
      List.not_mem_nil, or_false] at member
    rcases member with rfl | rfl | rfl | rfl | rfl | rfl | rfl <;> decide
  have visible : ∀ c ∈ (Instant.milliText t).toList, 0x20 ≤ c.toNat ∧ c.toNat < 0x7F := by
    intro c member
    rcases isDigit_or_mark (Instant.numbers?_milliText plain) c member with digit | mark
    · have value := Text.value_of_isDigit digit
      omega
    · exact marks c mark
  have ascii : ∀ c ∈ (Instant.milliText t).toList, c.toNat < 0x80 := fun c member =>
    Nat.lt_succ_of_lt (visible c member).2
  rw [Utf8.bytesOf, Utf8.encode_ascii ascii, List.all_eq_true]
  intro b member
  obtain ⟨c, there, rfl⟩ := List.mem_map.mp member
  have range := visible c there
  have value := Utf8.toNat_octet (Nat.lt_trans range.2 (by decide : 0x7F < 256))
  rw [← value] at range
  exact isHeaderByte_of_printable range.1 range.2

/-- Whatever is answered and wherever it comes from, the one header that tells when it was fetched
is a UTC time of the form `YYYY-MM-DDTHH:MM:SS.mmmZ`. It is read as the instant rounded down to a
whole millisecond, with its day counted from 1 January 1970 through the calendar, and as nothing
else. The texts of two instants are in the same order as their whole milliseconds, and equal only if
these are. -/
theorem createdAt_header {t : Int} (plain : Instant.IsPlain t) (payload : String)
    (fromCache : Bool) :
    (Response.fetched payload t fromCache).headers.filter (·.name == "x-cache-created-at") =
        [⟨"x-cache-created-at", Utf8.bytesOf (Instant.milliText t)⟩] ∧
      (Utf8.bytesOf (Instant.milliText t)).all isHeaderByte = true ∧
      (∃ ns, numbers? utcForm (Instant.milliText t).toList = some ns) ∧
      (∀ m, Instant.ReadAs (Instant.milliText t) m ↔ m = t / 1000) ∧
      ∀ u, Instant.IsPlain u →
        (Instant.milliText t < Instant.milliText u ↔ t / 1000 < u / 1000) ∧
        (Instant.milliText t = Instant.milliText u ↔ t / 1000 = u / 1000) := by
  refine ⟨?header, isHeaderByte_milliText plain, ⟨_, Instant.numbers?_milliText plain⟩,
    fun m => Instant.readAs_milliText plain, fun u plainU =>
      ⟨Instant.milliText_lt_iff plain plainU, Instant.milliText_eq_iff plain plainU⟩⟩
  case header =>
    simp [Response.fetched, Response.ofJsonText, Response.header]

/-- The last microsecond of February 1900, which was no leap year, and the first of March. -/
theorem createdAt_header_february :
    Instant.IsPlain (-2203891200000001) ∧ Instant.IsPlain (-2203891200000000) ∧
      Instant.ReadAs (Instant.milliText (-2203891200000001)) (-2203891200001) ∧
      Instant.milliText (-2203891200000001) < Instant.milliText (-2203891200000000) := by
  have last : Instant.IsPlain (-2203891200000001) := ⟨by decide, by decide⟩
  have first : Instant.IsPlain (-2203891200000000) := ⟨by decide, by decide⟩
  obtain ⟨_, _, _, read, order⟩ := createdAt_header last "null" true
  exact ⟨last, first, (read _).mpr (by decide), (order _ first).1.mpr (by decide)⟩

example : Instant.milliText (-2203891200000001) = "1900-02-28T23:59:59.999Z" := by decide +kernel

end SoapGateway.Http
