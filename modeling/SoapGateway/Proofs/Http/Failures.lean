import SoapGateway.Http.Message
import SoapGateway.Proofs.Json.Writing
import SoapGateway.Proofs.Text.Utf8

/-!
# Failures are reported intact

An error is answered with a JSON document, from which the caller learns the exact wording of what
went wrong, whatever characters it has.
-/
namespace SoapGateway.Http

open Json (Value IsDocument isDocument_compact)

namespace Response

/-- The body is a JSON document. -/
def HasDocument (r : Response) (v : Value) : Prop :=
  ∃ text, Utf8.decode? r.body = some text ∧ IsDocument text.toList v

theorem hasDocument_json (status : Nat) (v v' : Value) :
    (json status v).HasDocument v' ↔ v' = v := by
  have decoded : Utf8.decode? (json status v).body = some v.compact := by
    rw [json, ofJsonText, Utf8.bytesOf, Utf8.decode?, Utf8.decode_encode]
    exact congrArg some String.ofList_toList
  rw [HasDocument, decoded]
  constructor
  · rintro ⟨text, read, document⟩
    obtain rfl := Option.some.inj read
    exact isDocument_compact.mp document
  · rintro rfl
    exact ⟨_, rfl, isDocument_compact.mpr rfl⟩

/-- What a caller takes for the detail of an error: what is in the parentheses after the reason
phrase. -/
def detail? (status : Nat) (v : Value) : Option String :=
  match v.member? "error" with
  | some (.text s) =>
    some (String.ofList (s.toList.drop ((reason status).toList.length + 2)).dropLast)
  | _ => none

theorem detail?_error (status : Nat) (detail : String) :
    detail? status (.object [("error", .text (errorText status detail))]) = some detail := by
  have opening : " (".toList = [' ', '('] := rfl
  have closing : ")".toList = [')'] := rfl
  have shape : (errorText status detail).toList =
      ((reason status).toList ++ [' ', '(']) ++ (detail.toList ++ [')']) := by
    rw [errorText, String.toList_append, String.toList_append, String.toList_append, opening,
      closing, List.append_assoc _ detail.toList]
  change some (String.ofList ((errorText status detail).toList.drop _).dropLast) = _
  rw [shape, List.drop_left' (by simp), List.dropLast_concat, String.ofList_toList]

/-- The document of an error tells its detail, and no other text. -/
theorem told_iff (status : Nat) (detail m : String) :
    (∃ v, (error status detail).HasDocument v ∧ detail? status v = some m) ↔ m = detail := by
  constructor
  · rintro ⟨v, document, told⟩
    rw [(hasDocument_json status _ v).mp document, detail?_error] at told
    exact (Option.some.inj told).symm
  · rintro rfl
    exact ⟨_, (hasDocument_json status _ _).mpr rfl, detail?_error status m⟩

/-- An error of any status and with any detail is answered with that status and with one document:
the object whose only member holds the reason phrase, or the word that stands for it, and the detail
in parentheses. A failure of whatever kind and with whatever annotations is answered with the status
500, and its wording is what the caller reads from the answer. -/
theorem failure_reported (status : Nat) (detail : String) (f : Failure) :
    ((error status detail).status = status ∧
      (error status detail).headers = [header "content-type" "application/json"] ∧
      ∀ v, (error status detail).HasDocument v ↔
        v = .object [("error",
          .text ((reason? status).getD "Error" ++ " (" ++ detail ++ ")"))]) ∧
    (ofFailure f).status = 500 ∧
      ∀ m, (∃ v, (ofFailure f).HasDocument v ∧ detail? 500 v = some m) ↔ m = f.message :=
  ⟨⟨rfl, rfl, fun v => hasDocument_json status _ v⟩, rfl, fun m => told_iff 500 f.message m⟩

example : (ofFailure (.within "DVXML" (.badAnswer "\"\n"))).body =
    Utf8.bytesOf ("\x7b\"error\":\"Internal Server Error " ++
      "(DVXML: response decode failed: \\\"\\n)\"\x7d") := by decide +kernel

end Response

end SoapGateway.Http
