import SoapGateway.Http.Server
import SoapGateway.Proofs.Calendar.Format
import SoapGateway.Proofs.Envelope
import SoapGateway.Proofs.Failure
import SoapGateway.Settings.Rule

/-!
# What valid settings can encode

Settings that violate no rule have layouts whose marks all exist. With them every accepted body is
written as a call, unless its request holds dates and the layout for the remote service asks for a
time zone, which the rules let pass: then no such body can be written.
-/
namespace SoapGateway

/-- Whether requests of a shape hold dates. -/
def RequestShape.isDated : RequestShape → Bool
  | onDate | dateRange | currencyRange => true
  | empty | directory => false

namespace Settings

theorem violations_eq_nil {s : Settings} :
    s.violations = [] ↔ ∀ rule ∈ rules, rule.check s = none := by
  rw [violations, List.filterMap_eq_nil_iff]
  constructor
  · intro none rule member
    exact Option.map_eq_none_iff.mp (none rule member)
  · intro none rule member
    rw [none rule member]
    rfl

theorem isValid_of_checkLayout {layout : String} (passed : checkLayout layout = none) :
    Calendar.Layout.isValid layout = true := by
  unfold checkLayout require at passed
  split at passed
  · next valid => exact valid
  · cases passed

/-- The layout for the remote service is valid if no rule is violated. -/
theorem isValid_response {s : Settings} (valid : s.violations = []) :
    Calendar.Layout.isValid s.dates.response = true := by
  apply isValid_of_checkLayout
  exact violations_eq_nil.mp valid
    ⟨"dates.response_layout", fun s => checkLayout s.dates.response⟩ (by simp [rules])

end Settings

namespace Request

variable {l : Layouts} {r : Request}

/-- The dates of a request that was checked can be read again, so its text elements are there if
dates can be written, or if it has none. -/
theorem fields_ok (checked : r.check l = .ok ())
    (writable : r.shape.isDated = true → ∀ d, ∃ s, l.writeDate d = .ok s) :
    ∃ children, r.fields l = .ok children := by
  unfold check at checked
  unfold fields
  cases r with
  | empty => exact ⟨[], rfl⟩
  | onDate date =>
    obtain ⟨day, read, _⟩ := map_eq_ok checked
    obtain ⟨s, written⟩ := writable rfl day
    simp only [read, written]
    exact ⟨_, rfl⟩
  | dateRange start stop =>
    obtain ⟨⟨a, b⟩, range, _⟩ := map_eq_ok checked
    obtain ⟨s, first⟩ := writable rfl a
    obtain ⟨t, last⟩ := writable rfl b
    simp only [range, first, last]
    exact ⟨_, rfl⟩
  | currencyRange start stop code =>
    dsimp only at checked
    split at checked
    · cases checked
    · obtain ⟨⟨a, b⟩, range, _⟩ := map_eq_ok checked
      obtain ⟨s, first⟩ := writable rfl a
      obtain ⟨t, last⟩ := writable rfl b
      simp only [range, first, last]
      exact ⟨_, rfl⟩
  | directory monthly => exact ⟨_, rfl⟩

/-- A request with dates has no text elements where no date can be written. -/
theorem fields_unwritable {f : Failure} (checked : r.check l = .ok ())
    (dated : r.shape.isDated = true) (unwritable : ∀ d, l.writeDate d = .error f) :
    r.fields l = .error f := by
  unfold check at checked
  unfold fields
  cases r with
  | empty => cases dated
  | onDate date =>
    obtain ⟨day, read, _⟩ := map_eq_ok checked
    simp only [read, unwritable]
    rfl
  | dateRange start stop =>
    obtain ⟨⟨a, b⟩, range, _⟩ := map_eq_ok checked
    simp only [range, unwritable]
  | currencyRange start stop code =>
    dsimp only at checked
    split at checked
    · cases checked
    · obtain ⟨⟨a, b⟩, range, _⟩ := map_eq_ok checked
      simp only [range, unwritable]
  | directory monthly => cases dated

end Request

namespace Settings

open Calendar.Layout (asksForZone)

/-- With valid settings, an accepted body whose written element is free of the reserved token is
written as a call, whatever the operation and the date. The exception is a request with dates where
the layout for the remote service asks for a time zone, which no day has: that fails for the layout,
always. -/
theorem encode_succeeds {s : Http.Server} {o : Operation} {body : List UInt8} {r : Request}
    (valid : s.settings.violations = [])
    (accepted : o.parse s.dispatcher.codec.layouts body = .ok r)
    (free : ∀ fragment,
      r.write o.name s.settings.remote.actionNamespace s.settings.dates = .ok fragment →
      Text.occursIn Envelope.slotToken.toList fragment.toList = false) :
    (¬ (o.descriptor.request.isDated = true ∧ asksForZone s.settings.dates.response = true) →
      ∃ call, s.dispatcher.codec.encode o.name r = .ok call) ∧
    (o.descriptor.request.isDated = true ∧ asksForZone s.settings.dates.response = true →
      s.dispatcher.codec.encode o.name r = .error s.settings.dates.unwritable) := by
  have sound := Settings.isValid_response valid
  have checked : r.check s.settings.dates = .ok () := (Request.parse_ok accepted).2
  have shape : r.shape = o.descriptor.request := Request.shape_of_parse accepted
  constructor
  · intro possible
    obtain ⟨children, given⟩ := Request.fields_ok checked fun dated d => by
      apply Layouts.writeDate_of_zoneless sound
      rw [shape] at dated
      rw [← Bool.not_eq_true]
      intro zoned
      exact possible ⟨dated, zoned⟩
    have written := Request.write_eq given o.checkName_name
      s.settings.remote.actionNamespace
    exact ⟨_, Codec.encode_eq written (free _ written)⟩
  · rintro ⟨dated, zoned⟩
    rw [← shape] at dated
    have failed := Request.fields_unwritable checked dated (Layouts.writeDate_of_zoned sound zoned)
    have unwritten : r.write o.name s.settings.remote.actionNamespace s.settings.dates =
        .error s.settings.dates.unwritable := by
      rw [Request.write, Request.element, failed]
      rfl
    rw [Codec.encode, Http.Server.dispatcher, unwritten]

/-- The settings that hold where nothing is said write the first day of the calendar. -/
theorem encode_succeeds_cursOnDate :
    let s : Http.Server := {}
    let body := Utf8.bytesOf "\x7b\"OnDate\":\"-262143-01-01\"\x7d"
    s.settings.violations = [] ∧
      Operation.cursOnDate.parse s.dispatcher.codec.layouts body = .ok (.onDate "-262143-01-01") ∧
      ∃ call, s.dispatcher.codec.encode Operation.cursOnDate.name (.onDate "-262143-01-01") =
        .ok call := by
  intro s body
  have valid : s.settings.violations = [] := by decide +kernel
  have accepted : Operation.cursOnDate.parse s.dispatcher.codec.layouts body =
      .ok (.onDate "-262143-01-01") := by decide +kernel
  have given : (Request.onDate "-262143-01-01").fields s.settings.dates =
      .ok [("On_date", "-262143-01-01T00:00:00")] := by decide +kernel
  have written := Request.write_eq given Operation.cursOnDate.checkName_name
    s.settings.remote.actionNamespace
  refine ⟨valid, accepted, (encode_succeeds valid accepted ?_).1 (by decide +kernel)⟩
  intro fragment success
  rw [written, Except.ok.injEq] at success
  rw [← success, String.toList_ofList]
  decide +kernel

/-- A layout with the offset from UTC violates no rule, and a body that is accepted with it cannot
be written. -/
theorem encode_fails_zoned :
    let s : Http.Server := { settings := { dates := { response := "%Y-%m-%dT%H:%M:%S%:z" } } }
    let body := Utf8.bytesOf "\x7b\"OnDate\":\"2023-06-22\"\x7d"
    let r : Request := .onDate "2023-06-22"
    s.settings.violations = [] ∧
      Operation.cursOnDate.parse s.dispatcher.codec.layouts body = .ok r ∧
      (∀ fragment,
        r.write Operation.cursOnDate.name s.settings.remote.actionNamespace s.settings.dates =
          .ok fragment →
        Text.occursIn Envelope.slotToken.toList fragment.toList = false) ∧
      ∀ call, s.dispatcher.codec.encode Operation.cursOnDate.name r ≠ .ok call := by
  intro s body r
  have valid : s.settings.violations = [] := by decide +kernel
  have accepted : Operation.cursOnDate.parse s.dispatcher.codec.layouts body = .ok r := by
    decide +kernel
  have failed : r.fields s.settings.dates = .error s.settings.dates.unwritable := by
    decide +kernel
  have unwritten :
      r.write Operation.cursOnDate.name s.settings.remote.actionNamespace s.settings.dates =
        .error s.settings.dates.unwritable := by
    rw [Request.write, Request.element, failed]
    rfl
  refine ⟨valid, accepted, ?_, ?_⟩
  · intro fragment success
    rw [unwritten] at success
    cases success
  · intro call
    rw [Codec.encode, Http.Server.dispatcher, unwritten]
    intro success
    cases success

end Settings

end SoapGateway
