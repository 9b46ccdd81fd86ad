import SoapGateway.Http.Server
import SoapGateway.Proofs.DenyList.Names
import SoapGateway.Proofs.Http.Server
import SoapGateway.Proofs.Text.OctetOrder
import SoapGateway.Proofs.Text.Words
import SoapGateway.Proofs.Traffic.Denials

/-!
# What the deny-list of the settings means

The text of the settings is cut into names twice: for the list that the dispatcher asks, and for the
report on names that belong to no operation. Both mean the same names, so each name either denies an
operation or is reported.
-/
namespace SoapGateway

open Calendar (Instant)

namespace Operation

theorem mem_all (o : Operation) : o ∈ all := by
  cases o <;> decide

theorem isNone_find? (name : String) :
    (find? name).isNone = decide (name ∉ all.map Operation.name) := by
  rw [Bool.eq_iff_iff, Option.isNone_iff_eq_none, decide_eq_true_iff, List.mem_map]
  constructor
  · rintro unknown ⟨o, _, named⟩
    exact name_ne unknown o named
  · intro foreign
    refine List.find?_eq_none.mpr fun o member same => foreign ⟨o, member, beq_iff_eq.mp same⟩

end Operation

/-- Names are reported as often as they are written and in that order, if no operation has them. -/
theorem DenyList.unknownNames_eq (text : String) : unknownNames text =
    (Text.words text).filter fun name => name ∉ Operation.all.map Operation.name := by
  rw [unknownNames]
  exact List.filter_congr fun name _ => Operation.isNone_find? name

namespace Dispatcher

/-- A run of a request that has not expired is refused if its operation is denied, and only then. -/
theorem run_prohibited_iff (d : Dispatcher) (w : Session) (o : Operation) (body : List UInt8)
    (mode : Mode) (wait : SoapRequest → Awaited) :
    (d.run w false o body mode wait).result = .error (.prohibited o.name) ↔
      w.shelf.denied.contains o.name = true := by
  constructor
  · intro refused
    have course := run_cases d w false o body mode wait
    generalize d.run w false o body mode wait = served at refused course
    cases course with
    | short begun =>
      dsimp only at refused
      rw [refused] at begun
      exact begun.denied_of_prohibited rfl
    | long begun finish =>
      have accounted := finish.accounted
      dsimp only at refused
      rw [refused] at accounted
      exact absurd rfl (accounted.not_prohibited o.name)
  · intro denied
    rw [run, begin_denied denied]
    rfl

/-- Whatever the cache holds and the caller sends, a live request for the operation is refused. -/
def Refuses (d : Dispatcher) (denied : DenyList) (o : Operation) : Prop :=
  ∀ cache clock body mode wait,
    (d.run ⟨⟨cache, denied⟩, clock⟩ false o body mode wait).result = .error (.prohibited o.name)

theorem refuses_iff (d : Dispatcher) {denied : DenyList} {o : Operation} :
    d.Refuses denied o ↔ denied.contains o.name = true := by
  constructor
  · intro refuses
    have wait : SoapRequest → Awaited := fun _ => ⟨.expired, 0, true⟩
    exact (run_prohibited_iff d ⟨⟨{}, denied⟩, 0⟩ o [] .cached wait).mp (refuses _ _ _ _ _)
  · intro contained cache clock body mode wait
    exact (run_prohibited_iff d _ o body mode wait).mpr contained

end Dispatcher

namespace Http.Server

/-- The names of the configured text are those between its white space: it can be cut into them in
no other way. With the names that are added later, each of them is in the list once, in increasing
order of characters and so of octets, and the list counts them. A name is reported as new if it is
none of them. A live request is refused if the name of its operation is one of them, and only then.
What is reported as unknown are the names of the text that no operation has, as often and in the
order in which they are written, so a name of the text is reported or denies an operation, never
both. -/
theorem deny_list_agrees (s : Server) (added : List String) :
    let text := s.settings.permissions.denyList
    let names := Text.words text
    let list := s.shelf.denied.addAll added
    (∀ words, Text.CutAs text.toList (words.map String.toList) ↔ words = names) ∧
    list.names.Perm (names ++ added).dedup ∧
    list.names.Pairwise (fun a b => a < b ∧ Utf8.bytesOf a < Utf8.bytesOf b) ∧
    list.size = (names ++ added).dedup.length ∧
    (∀ name, (list.add name).1 = true ↔ name ∉ names ∧ name ∉ added) ∧
    (∀ cache clock o body mode wait,
      (s.dispatcher.run ⟨⟨cache, list⟩, clock⟩ false o body mode wait).result =
        .error (.prohibited o.name) ↔ o.name ∈ names ∨ o.name ∈ added) ∧
    s.settings.unknownDenied = names.filter (fun name => name ∉ Operation.all.map Operation.name) ∧
    ∀ name ∈ names, (∃ o, o.name = name ∧ s.dispatcher.Refuses list o) ↔
      name ∉ s.settings.unknownDenied := by
  intro text names list
  have unknown : s.settings.unknownDenied =
      names.filter fun name => name ∉ Operation.all.map Operation.name :=
    DenyList.unknownNames_eq text
  have once : list.names.Perm (names ++ added).dedup := DenyList.perm_dedup
  have member (name : String) : name ∈ list.names ↔ name ∈ names ∨ name ∈ added := by
    rw [once.mem_iff, List.mem_dedup, List.mem_append]
  have contained (name : String) : list.contains name = true ↔ name ∈ names ∨ name ∈ added := by
    rw [DenyList.contains, List.contains_iff_mem, member]
  refine ⟨fun words => Text.cutAs_words text words, once, ?order, once.length_eq, ?new, ?refused,
    unknown, ?either⟩
  case order =>
    have ordered : list.IsOrdered := (DenyList.isOrdered_ofText text).addAll added
    exact List.Pairwise.imp (fun less => ⟨less, Utf8.encode_lt_encode (String.lt_iff.mp less)⟩)
      ordered
  case new =>
    intro name
    rw [DenyList.add_isNew, member, not_or]
  case refused =>
    intro cache clock o body mode wait
    rw [Dispatcher.run_prohibited_iff]
    exact contained o.name
  case either =>
    intro name written
    rw [unknown, List.mem_filter, decide_eq_true_iff, not_and_not_right, List.mem_map]
    constructor
    · rintro ⟨o, named, _⟩ _
      exact ⟨o, o.mem_all, named⟩
    · intro known
      obtain ⟨o, _, rfl⟩ := known written
      exact ⟨o, rfl, (Dispatcher.refuses_iff _).mpr ((contained o.name).mpr (.inl written))⟩

/-- A text with a name of other case and with repetitions, and a name that is added later. -/
theorem deny_list_agrees_keyRate :
    let s : Server := { settings := { permissions := {
      denyList := "\tKeyRateXML\u2003keyratexml\nKeyRateXML" } } }
    let list := s.shelf.denied.addAll ["DVXML"]
    list.size = 3 ∧ s.settings.unknownDenied = ["keyratexml"] ∧
      s.dispatcher.Refuses list .keyRate ∧ ¬ s.dispatcher.Refuses list .mainInfo := by
  intro s list
  obtain ⟨_, _, _, size, _, refused, unknown, _⟩ := deny_list_agrees s ["DVXML"]
  have wait : SoapRequest → Awaited := fun _ => ⟨.expired, 0, true⟩
  refine ⟨size.trans (by decide +kernel), unknown.trans (by decide +kernel), ?_, ?_⟩
  · intro cache clock body mode wait
    exact (refused cache clock .keyRate body mode wait).mpr (by decide +kernel)
  · intro refuses
    have named := (refused {} 0 .mainInfo [] .cached wait).mp (refuses _ _ _ _ _)
    exact absurd named (by decide +kernel)

end Http.Server

end SoapGateway
