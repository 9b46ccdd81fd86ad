import Mathlib.Data.List.Forall2
import SoapGateway.Proofs.Settings.Key
import SoapGateway.Proofs.Text.Blank
import SoapGateway.Settings.Load

/-!
# Violations are exactly the rules that are violated

What each key has to fulfil is said key by key (`Key.IsSound`), apart from the rules that check it.
`rules_enforce` sets the two side by side: the rules stand in the order of the keys, each complains
about nothing but an unsound key, and reads nothing that another key governs. What is reported
follows from that alone.
-/
namespace SoapGateway.Settings

open Calendar (Item)

/-- A date layout: it is not empty, and all of its marks exist. -/
def IsLayout (layout : String) : Prop :=
  layout ≠ "" ∧ Item.invalid ∉ Calendar.Layout.items layout

/-- A URL of the web. -/
def IsEndpoint (address : String) : Prop :=
  match Url.parse address with
  | .ok u => u.scheme = "http".toList ∨ u.scheme = "https".toList
  | .error _ => False

/-- A timeout from one second to one day. -/
def IsTimeout (seconds : Nat) : Prop := 1 ≤ seconds ∧ seconds ≤ 86400

namespace Key

/-- The keys with a rule of their own, in the order in which violations are reported. -/
def ruled : List Key :=
  [bindAddress, endpoint, callTimeout, actionNamespace, requestLayout, responseLayout, ttl,
    requestTimeout, maxBodySize, metricsAddress, apiKey]

/-- What stands under a key fulfils the rule for it. -/
def IsSound (s : Settings) : Key → Prop
  | bindAddress => Net.isSocketAddress s.listener.bindAddress = true
  | endpoint => IsEndpoint s.remote.endpoint
  | callTimeout => IsTimeout s.remote.timeoutSecs
  | actionNamespace => ∃ c ∈ s.remote.actionNamespace.toList, Text.isBlank c = false
  | requestLayout => IsLayout s.dates.request
  | responseLayout => IsLayout s.dates.response
  | ttl => 0 < s.cache.ttlSecs
  | requestTimeout => IsTimeout s.timeouts.requestSecs
  | maxBodySize => 0 < s.security.maxBodySize
  | metricsAddress =>
    s.observability.metricsEnabled = true →
      Net.isSocketAddress s.observability.metricsAddress = true
  | apiKey =>
    s.admin.enabled = true → s.admin.apiKey ≠ "" ∧ s.admin.apiKey ≠ "CHANGE_ME_IN_PRODUCTION"
  | useSystemProxy | maxEntries | denyList | logLevel | jsonLogs | metricsEnabled
  | adminEnabled => True

/-- The key whose rule reads what stands under a key; without a rule it is the key itself. -/
def governed : Key → Key
  | metricsEnabled => metricsAddress
  | adminEnabled => apiKey
  | k => k

end Key

theorem require_eq_none {ok : Bool} {complaint : String} :
    require ok complaint = none ↔ ok = true := by
  cases ok <;> simp [require]

theorem checkAddress_eq_none {address : String} :
    checkAddress address = none ↔ Net.isSocketAddress address = true := require_eq_none

theorem checkEndpoint_eq_none {address : String} :
    checkEndpoint address = none ↔ IsEndpoint address := by
  rw [checkEndpoint, IsEndpoint]
  cases Url.parse address with
  | error f => exact iff_of_false nofun id
  | ok u => simp [require_eq_none]

theorem checkPositive_eq_none {n : Nat} : checkPositive n = none ↔ 0 < n := by
  simp [checkPositive, require_eq_none]

theorem checkTimeout_eq_none {seconds : Nat} :
    checkTimeout seconds = none ↔ IsTimeout seconds := by
  rw [checkTimeout, IsTimeout]
  cases positive : checkPositive seconds with
  | none =>
    have least : 0 < seconds := checkPositive_eq_none.mp positive
    simp only [require_eq_none, decide_eq_true_eq]
    exact (and_iff_right least).symm
  | some complaint =>
    refine iff_of_false nofun fun bounds => ?_
    rw [checkPositive_eq_none.mpr bounds.1] at positive
    cases positive

theorem checkLayout_eq_none {layout : String} :
    checkLayout layout = none ↔ IsLayout layout := by
  rw [checkLayout, require_eq_none, Calendar.Layout.isValid, IsLayout, Bool.and_eq_true]
  simp

theorem checkKey_eq_none {key : String} :
    checkKey key = none ↔ key ≠ "" ∧ key ≠ "CHANGE_ME_IN_PRODUCTION" := by
  rw [checkKey, require_eq_none, Bool.and_eq_true, bne_iff_ne, bne_iff_ne]
  rfl

/-- A text of blanks is what trimming leaves nothing of. -/
theorem trim_ne_empty {s : String} :
    Text.trim s ≠ "" ↔ ∃ c ∈ s.toList, Text.isBlank c = false := by
  have empty : Text.trim s = "" ↔ Text.trimBy Text.isBlank s.toList = [] := by
    rw [Text.trim, ← String.toList_inj, String.toList_ofList]
    rfl
  rw [ne_eq, empty]
  constructor
  · intro kept
    obtain ⟨c, rest, middle⟩ := List.exists_cons_of_ne_nil kept
    refine ⟨c, ?_, ?_⟩
    · apply (Text.trimBy_infix Text.isBlank s.toList).subset
      rw [middle]
      exact List.mem_cons_self
    · apply (Text.split_trimBy Text.isBlank s.toList).first
      rw [middle]
      rfl
  · rintro ⟨c, member, solid⟩
    exact Text.trimBy_ne_nil member solid

/-- A rule that stands for what a key has to fulfil. -/
structure Enforces (k : Key) (r : Rule) : Prop where
  field : r.field = k.path
  passes : ∀ s, r.check s = none ↔ k.IsSound s
  /-- What other keys govern is not read. -/
  unmoved : ∀ (k' : Key) v s, k'.governed ≠ k → r.check (k'.put v s) = r.check s

/-- A rule that holds only while something is enabled. -/
theorem guarded_eq_none {enabled : Bool} {check : Option String} :
    (if enabled then check else none) = none ↔ (enabled = true → check = none) := by
  cases enabled <;> simp

/-- The rules are the requirements of the keys, in their order. -/
theorem rules_enforce : List.Forall₂ Enforces Key.ruled rules := by
  have namespace_iff (s : Settings) :
      require (Text.trim s.remote.actionNamespace != "") "must not be empty" = none ↔
        Key.actionNamespace.IsSound s := by
    rw [require_eq_none, bne_iff_ne]
    exact trim_ne_empty
  have metrics_iff (s : Settings) :
      (if s.observability.metricsEnabled then checkAddress s.observability.metricsAddress
        else none) = none ↔ Key.metricsAddress.IsSound s := by
    rw [guarded_eq_none, checkAddress_eq_none]
    rfl
  have key_iff (s : Settings) :
      (if s.admin.enabled then checkKey s.admin.apiKey else none) = none ↔
        Key.apiKey.IsSound s := by
    rw [guarded_eq_none, checkKey_eq_none]
    rfl
  refine .cons ⟨rfl, fun _ => checkAddress_eq_none, ?_⟩ <|
    .cons ⟨rfl, fun _ => checkEndpoint_eq_none, ?_⟩ <|
    .cons ⟨rfl, fun _ => checkTimeout_eq_none, ?_⟩ <|
    .cons ⟨rfl, namespace_iff, ?_⟩ <|
    .cons ⟨rfl, fun _ => checkLayout_eq_none, ?_⟩ <|
    .cons ⟨rfl, fun _ => checkLayout_eq_none, ?_⟩ <|
    .cons ⟨rfl, fun _ => checkPositive_eq_none, ?_⟩ <|
    .cons ⟨rfl, fun _ => checkTimeout_eq_none, ?_⟩ <|
    .cons ⟨rfl, fun _ => checkPositive_eq_none, ?_⟩ <|
    .cons ⟨rfl, metrics_iff, ?_⟩ <|
    .cons ⟨rfl, key_iff, ?_⟩ .nil
  -- A key either governs the field of the rule, or the rule does not read it.
  all_goals
    intro k' v s apart
    cases k' <;> first | exact absurd rfl apart | rfl

variable {keys : List Key} {checks : List Rule} {s : Settings}

/-- The violation that a rule finds, if there is one. -/
def Rule.violation? (r : Rule) (s : Settings) : Option Violation :=
  (r.check s).map fun complaint => ⟨r.field, complaint⟩

open Classical in
theorem fields_violations (enforce : List.Forall₂ Enforces keys checks) (s : Settings) :
    (checks.filterMap (·.violation? s)).map Violation.field =
      (keys.filter fun k => decide (¬ k.IsSound s)).map Key.path := by
  induction enforce with
  | nil => rfl
  | @cons k r keys checks head _ ih =>
    rw [List.filterMap_cons, List.filter_cons, Rule.violation?]
    cases verdict : r.check s with
    | none =>
      have sound : k.IsSound s := (head.passes s).mp verdict
      rw [if_neg (by simpa using sound), Option.map_none]
      exact ih
    | some complaint =>
      have unsound : ¬ k.IsSound s := fun sound => by
        rw [(head.passes s).mpr sound] at verdict
        cases verdict
      rw [if_pos (by simpa using unsound), Option.map_some, List.map_cons, List.map_cons,
        ← head.field, ih]

/-- What stands under a key matters to the field that it governs only. -/
theorem violations_put_other (enforce : List.Forall₂ Enforces keys checks) (k : Key)
    (v : k.kind.Carrier) (s : Settings) :
    (checks.filterMap (·.violation? (k.put v s))).filter (fun w => w.field != k.governed.path) =
      (checks.filterMap (·.violation? s)).filter fun w => w.field != k.governed.path := by
  induction enforce with
  | nil => rfl
  | @cons k' r keys checks head _ ih =>
    by_cases own : k.governed = k'
    · have dropped (s : Settings) :
          ((r :: checks).filterMap (·.violation? s)).filter
              (fun w => w.field != k.governed.path) =
            (checks.filterMap (·.violation? s)).filter fun w => w.field != k.governed.path := by
        rw [List.filterMap_cons, Rule.violation?, head.field, own]
        cases r.check s with
        | none => rfl
        | some complaint =>
          rw [Option.map_some, List.filter_cons_of_neg]
          simp
      rw [dropped, dropped, ih]
    · rw [List.filterMap_cons, List.filterMap_cons, Rule.violation?, Rule.violation?,
        head.unmoved k v s own]
      cases r.check s with
      | none => exact ih
      | some complaint =>
        rw [Option.map_some, List.filter_cons, List.filter_cons, ih]

/-- Without a rule there is nothing to violate. -/
theorem mem_ruled {k : Key} (unsound : ¬ k.IsSound s) : k ∈ Key.ruled := by
  cases k <;> first | decide | exact absurd trivial unsound

/-- The violations name their fields in the order of the rules, none twice, and exactly those whose
rule is violated; settings are accepted if there are none, and refused with all of them otherwise.
To put something else under a key changes nothing that is reported about another field than the one
whose rule reads it, and the deny-list has no part in it at all. -/
theorem violations_exact (s : Settings) :
    (s.violations.map Violation.field).Sublist (Key.ruled.map Key.path) ∧
      (s.violations.map Violation.field).Nodup ∧
      (∀ k : Key, k.path ∈ s.violations.map Violation.field ↔ ¬ k.IsSound s) ∧
      ((∀ k : Key, k.IsSound s) ∧ s.validated = .ok s ∨
        (∃ k : Key, ¬ k.IsSound s) ∧ s.validated = .error (.invalid s.violations)) ∧
      (∀ (k : Key) v, (k.put v s).violations.filter (fun w => w.field != k.governed.path) =
        s.violations.filter fun w => w.field != k.governed.path) ∧
      ∀ names, (Key.denyList.put names s).violations = s.violations := by
  classical
  have fields := fields_violations rules_enforce s
  change s.violations.map Violation.field = _ at fields
  have exact_fields (s : Settings) (k : Key) :
      k.path ∈ s.violations.map Violation.field ↔ ¬ k.IsSound s := by
    have fields := fields_violations rules_enforce s
    change s.violations.map Violation.field = _ at fields
    rw [fields, List.mem_map_of_injective Key.path_injective, List.mem_filter, decide_eq_true_eq]
    exact and_iff_right_of_imp mem_ruled
  have others (k : Key) v : (k.put v s).violations.filter (fun w => w.field != k.governed.path) =
      s.violations.filter fun w => w.field != k.governed.path :=
    violations_put_other rules_enforce k v s
  have unnamed (s : Settings) :
      s.violations.filter (fun w => w.field != Key.denyList.path) = s.violations := by
    rw [List.filter_eq_self]
    intro w member
    rw [bne_iff_ne]
    intro named
    exact (exact_fields s .denyList).mp (named ▸ List.mem_map_of_mem member) trivial
  have sublist : (s.violations.map Violation.field).Sublist (Key.ruled.map Key.path) := by
    rw [fields]
    exact List.filter_sublist.map Key.path
  refine ⟨sublist, ?_, exact_fields s, ?_, others, ?_⟩
  · exact sublist.nodup (List.Nodup.map Key.path_injective (by decide))
  · cases found : s.violations with
    | nil =>
      refine .inl ⟨fun k => ?_, by rw [validated, found]⟩
      by_contra unsound
      have named := (exact_fields s k).mpr unsound
      rw [found] at named
      cases named
    | cons w more =>
      refine .inr ⟨?_, by rw [validated, found]⟩
      have named : w.field ∈ s.violations.map Violation.field := by
        rw [found]
        exact List.mem_cons_self
      have ruled := sublist.subset named
      obtain ⟨k, _, path⟩ := List.mem_map.mp ruled
      exact ⟨k, (exact_fields s k).mp (path ▸ named)⟩
  · intro names
    have same := others .denyList names
    change _ = s.violations.filter (fun w => w.field != Key.denyList.path) at same
    rw [unnamed s] at same
    exact (unnamed _).symm.trans same

/-- Four rules are violated at once; a metrics address matters only where there are metrics. -/
example :
    ({ cache := { ttlSecs := 0 }, remote := { endpoint := "not a url" },
       dates := { request := "%Q" }, listener := { bindAddress := "localhost" },
       observability := { metricsAddress := "" } } :
      Settings).violations.map Violation.field =
      ["listener.bind_address", "remote.endpoint", "dates.request_layout", "cache.ttl_secs"] := by
  decide +kernel

end SoapGateway.Settings
