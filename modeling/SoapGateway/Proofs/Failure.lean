import SoapGateway.Dispatcher
import SoapGateway.Proofs.Outcome
import SoapGateway.Proofs.Request

/-!
# Which stage fails how

A body is refused for what the caller wrote, a call that cannot be written is a fault of the
envelope, and an answer that cannot be read has no node or the wrong shape. A call is written from
a body that was checked, so it never fails for what the caller wrote.
-/
namespace SoapGateway

namespace Failure

/-- A failure for which the caller's body is to blame. -/
inductive OfBody : Failure → Prop
  | badBody (detail : String) : OfBody (.badBody detail)
  | reversedRange (start stop : String) : OfBody (.reversedRange start stop)

/-- A failure to write a call. -/
inductive OfEnvelope : Failure → Prop
  | envelope (detail : String) : OfEnvelope (.envelope detail)

/-- A failure to read an answer. -/
inductive OfAnswer : Failure → Prop
  | nodeNotFound (target : String) : OfAnswer (.nodeNotFound target)
  | badAnswer (detail : String) : OfAnswer (.badAnswer detail)

end Failure

namespace Layouts

theorem readDate_error {l : Layouts} {field value : String} {f : Failure}
    (failed : l.readDate field value = .error f) : f.OfBody := by
  unfold readDate at failed
  split at failed
  · cases failed
  · cases failed
    exact .badBody _

theorem writeDate_error {l : Layouts} {d : Calendar.Date} {f : Failure}
    (failed : l.writeDate d = .error f) : f.OfEnvelope := by
  unfold writeDate at failed
  split at failed
  · cases failed
  · cases failed
    exact .envelope _

end Layouts

namespace Request

theorem readRange_error {l : Layouts} {start stop : String} {f : Failure}
    (failed : readRange l start stop = .error f) : f.OfBody := by
  unfold readRange at failed
  split at failed
  · next first =>
    cases failed
    exact Layouts.readDate_error first
  · split at failed
    · next last =>
      cases failed
      exact Layouts.readDate_error last
    · split at failed
      · cases failed
        exact .reversedRange start stop
      · cases failed

theorem check_error {l : Layouts} {r : Request} {f : Failure} (failed : r.check l = .error f) :
    f.OfBody := by
  unfold check at failed
  cases r with
  | empty => cases failed
  | onDate date => exact Layouts.readDate_error (map_eq_error failed)
  | dateRange start stop => exact readRange_error (map_eq_error failed)
  | currencyRange start stop code =>
    dsimp only at failed
    split at failed
    · cases failed
      exact .badBody _
    · exact readRange_error (map_eq_error failed)
  | directory monthly => cases failed

/-- A body is refused for what the caller wrote. -/
theorem parse_error {s : RequestShape} {l : Layouts} {body : List UInt8} {f : Failure}
    (failed : parse s l body = .error f) : f.OfBody := by
  unfold parse at failed
  dsimp only at failed
  split at failed
  · cases failed
    exact .badBody _
  · split at failed
    · next checked =>
      cases failed
      exact check_error checked
    · cases failed

/-- Two dates that are written together fail only for the layout. -/
theorem writeBoth_error {l : Layouts} {a b : Calendar.Date}
    {g : String → String → List (String × String)} {f : Failure}
    (failed : (match l.writeDate a, l.writeDate b with
      | .ok s, .ok t => .ok (g s t)
      | .error f, _ => .error f
      | _, .error f => .error f) = Except.error f) : f.OfEnvelope := by
  split at failed
  · cases failed
  · next first =>
    cases failed
    exact Layouts.writeDate_error first
  · next last _ =>
    cases failed
    exact Layouts.writeDate_error last

/-- The text elements of a request that was checked fail only for the layout they are written in:
its dates can be read again. -/
theorem fields_error {l : Layouts} {r : Request} {f : Failure} (checked : r.check l = .ok ())
    (failed : r.fields l = .error f) : f.OfEnvelope := by
  unfold check at checked
  unfold fields at failed
  cases r with
  | empty => cases failed
  | onDate date =>
    obtain ⟨day, read, _⟩ := map_eq_ok checked
    simp only [read] at failed
    exact Layouts.writeDate_error (map_eq_error failed)
  | dateRange start stop =>
    obtain ⟨⟨a, b⟩, range, _⟩ := map_eq_ok checked
    simp only [range] at failed
    exact writeBoth_error failed
  | currencyRange start stop code =>
    dsimp only at checked
    split at checked
    · cases checked
    · obtain ⟨⟨a, b⟩, range, _⟩ := map_eq_ok checked
      simp only [range] at failed
      exact writeBoth_error failed
  | directory monthly => cases failed

theorem write_error {name xmlns : String} {l : Layouts} {r : Request} {f : Failure}
    (checked : r.check l = .ok ()) (failed : r.write name xmlns l = .error f) : f.OfEnvelope := by
  unfold write element at failed
  have failed := map_eq_error failed
  split at failed
  · next given =>
    cases failed
    exact fields_error checked given
  · split at failed
    · cases failed
      exact .envelope _
    · cases failed

end Request

theorem Envelope.spliceInto_error {skeleton marker fragment : String} {f : Failure}
    (failed : spliceInto skeleton marker fragment = .error f) : f.OfEnvelope := by
  unfold spliceInto at failed
  split at failed
  · cases failed
  · cases failed
    exact .envelope _

theorem Envelope.splice_error {fragment : String} {f : Failure}
    (failed : splice fragment = .error f) : f.OfEnvelope := by
  unfold splice at failed
  split at failed
  · cases failed
    exact .envelope _
  · exact spliceInto_error failed

/-- A call that cannot be written for a body that was accepted is a fault of the envelope. -/
theorem Codec.encode_error {c : Codec} {o : Operation} {body : List UInt8} {r : Request}
    {f : Failure} (accepted : o.parse c.layouts body = .ok r)
    (failed : c.encode o.name r = .error f) : f.OfEnvelope := by
  unfold encode at failed
  split at failed
  · next unwritten =>
    cases failed
    exact Request.write_error (Request.parse_ok accepted).2 unwritten
  · split at failed
    · next unspliced =>
      cases failed
      exact Envelope.splice_error unspliced
    · cases failed

/-- An answer that cannot be read has no node, or the wrong shape. -/
theorem Operation.decode_error {o : Operation} {answer : List UInt8} {f : Failure}
    (failed : o.decode answer = .error f) : f.OfAnswer := by
  unfold Operation.decode Response.decode at failed
  split at failed
  · cases failed
    exact .badAnswer _
  · split at failed
    · next fault _ =>
      cases failed
      cases fault with
      | notFound => exact .nodeNotFound _
      | malformed => exact .badAnswer _
      | unterminated => exact .badAnswer _
    · split at failed
      · cases failed
      · cases failed
        exact .badAnswer _

end SoapGateway
