import Mathlib.Data.List.Forall2
import SoapGateway.Proofs.Settings.Key
import SoapGateway.Proofs.Toml.Shape
import SoapGateway.Proofs.Toml.Sheet
import SoapGateway.Settings.Assignment

/-!
# Settings from the members of a document

What comes out of a document that gives some of the settings is `Assignment.Fills`: the given values
over what was there before. Each section is filled through fields that serve its keys
(`sections_cover`), so that the order of a document drops out where each step fills in one key or
one section (`Fills.trans`). What is no setting is passed over (`ofToml_known`).
-/
namespace SoapGateway.Settings

open Toml (RecordField Value)
open Toml.RecordField (IsPart ofRecord putMembers putMembers_filter putMembers_known putMembers_map
  putMembers_unknown putMembers_within within)

/-! ## Assignments -/

namespace Assignment

variable {a : Assignment} {s s₁ s' : Settings} {p : Key → Bool} {k : Key}

theorem only_of (inside : p k = true) : a.only p k = a k := if_pos inside

theorem only_of_not (outside : p k = false) : a.only p k = none := if_neg (by simp [outside])

theorem without_of (inside : p k = true) : a.without p k = none := if_pos inside

theorem without_of_not (outside : p k = false) : a.without p k = a k := if_neg (by simp [outside])

/-- An assignment may be filled in on some keys first and on the others then. -/
theorem Fills.trans (first : (a.only p).Fills s s₁) (rest : (a.without p).Fills s₁ s') :
    a.Fills s s' := by
  intro k
  rw [rest k, first k]
  cases inside : p k with
  | true => rw [without_of inside, only_of inside, Option.getD_none]
  | false => rw [without_of_not inside, only_of_not inside, Option.getD_none]

theorem fills_put {v : k.kind.Carrier} (assigned : a k = some v) :
    (a.only (· == k)).Fills s (k.put v s) := by
  intro k'
  by_cases same : k' = k
  · subst same
    rw [only_of (by simp), assigned, Key.get_put, Option.getD_some]
  · rw [only_of_not (by simpa using same), Key.get_put_of_ne same, Option.getD_none]

theorem fills_none (nothing : ∀ k, a k = none) : a.Fills s s := by
  intro k
  rw [nothing k, Option.getD_none]

end Assignment

/-! ## Sections -/

/-- A field puts what a document gives for a key under that key. -/
structure Serves (k : Key) (f : RecordField Settings) : Prop where
  name : f.name = k.name
  put : ∀ s v, f.put s (k.kind.toml v) = .ok (k.put v s)

variable {fields : List (RecordField Settings)} {keys : List Key} {a : Assignment} {s : Settings}

/-- The field for a key is found by the name of the key. -/
theorem find?_serves (serve : List.Forall₂ Serves keys fields) (name : String) :
    fields.find? (fun f => f.name == name) = none ∧ (∀ k ∈ keys, k.name ≠ name) ∨
      ∃ k ∈ keys, k.name = name ∧
        ∃ f, fields.find? (fun f => f.name == name) = some f ∧ Serves k f := by
  induction serve with
  | nil => exact .inl ⟨rfl, by simp⟩
  | @cons k f keys fields head _ ih =>
    by_cases same : k.name = name
    · refine .inr ⟨k, List.mem_cons_self, same, f, ?_, head⟩
      rw [List.find?_cons_of_pos]
      rw [head.name, same, beq_self_eq_true]
    · rw [List.find?_cons_of_neg (by simpa [head.name] using same)]
      rcases ih with ⟨none, others⟩ | ⟨k', member, rest⟩
      · exact .inl ⟨none, List.forall_mem_cons.mpr ⟨same, others⟩⟩
      · exact .inr ⟨k', List.mem_cons_of_mem _ member, rest⟩

/-- A section of a document is filled through fields that serve its keys. -/
structure Covers (sec : RecordField Settings) (keys : List Key)
    (fields : List (RecordField Settings)) : Prop where
  group : ∀ k, k ∈ keys ↔ k.group = sec.name
  serve : List.Forall₂ Serves keys fields
  put : ∀ s entries, sec.put s (.table entries) = putMembers fields s entries

theorem covers_ofRecord {τ : Type} {name record : String} {fields : List (RecordField τ)}
    {get : Settings → τ} {put : Settings → τ → Settings} (part : IsPart get put) (keys : List Key)
    (group : ∀ k ∈ Key.all, k ∈ keys ↔ k.group = name)
    (serve : List.Forall₂ Serves keys (fields.map (within get put))) :
    ∃ keys fields', Covers (ofRecord name record fields get put) keys fields' :=
  ⟨keys, _, fun k => group k (Key.mem_all k), serve, putMembers_within part fields⟩

/-- Every section of a document has a field for each of its keys. -/
theorem sections_cover : ∀ sec ∈ sections, ∃ keys fields, Covers sec keys fields := by
  simp only [sections, List.forall_mem_cons, List.not_mem_nil, false_implies, implies_true,
    and_true]
  refine ⟨covers_ofRecord ?_ [.bindAddress] (by decide) ?_,
    covers_ofRecord ?_ [.endpoint, .callTimeout, .actionNamespace, .useSystemProxy] (by decide) ?_,
    covers_ofRecord ?_ [.requestLayout, .responseLayout] (by decide) ?_,
    covers_ofRecord ?_ [.ttl, .maxEntries] (by decide) ?_,
    covers_ofRecord ?_ [.denyList] (by decide) ?_,
    covers_ofRecord ?_ [.requestTimeout] (by decide) ?_,
    covers_ofRecord ?_ [.maxBodySize] (by decide) ?_,
    covers_ofRecord ?_ [.logLevel, .jsonLogs, .metricsEnabled, .metricsAddress] (by decide) ?_,
    covers_ofRecord ?_ [.adminEnabled, .apiKey] (by decide) ?_⟩
  all_goals first
    | exact ⟨fun _ _ => rfl, fun _ _ _ => rfl, fun _ => rfl⟩
    | repeat' first
      | exact .nil
      | exact ⟨rfl, fun _ _ => rfl⟩
      | apply List.Forall₂.cons

theorem exists_section (k : Key) : ∃ sec ∈ sections, sec.name = k.group := by
  have named : ∀ k ∈ Key.all, k.group ∈ sections.map RecordField.name := by decide
  simpa using named k (Key.mem_all k)

theorem exists_key {sec : RecordField Settings} (member : sec ∈ sections) :
    ∃ k : Key, k.group = sec.name := by
  have named : ∀ name ∈ sections.map RecordField.name, ∃ k ∈ Key.all, k.group = name := by decide
  obtain ⟨k, -, group⟩ := named sec.name (List.mem_map_of_mem member)
  exact ⟨k, group⟩

/-- The section of a name is found, or no key stands in it. -/
theorem find?_section (name : String) :
    sections.find? (fun sec => sec.name == name) = none ∧ (∀ k : Key, k.group ≠ name) ∨
      ∃ sec, sections.find? (fun sec => sec.name == name) = some sec ∧ sec.name = name ∧
        (∃ k : Key, k.group = name) ∧ ∃ keys fields, Covers sec keys fields := by
  cases found : sections.find? (fun sec => sec.name == name) with
  | none =>
    refine .inl ⟨rfl, ?_⟩
    rintro k rfl
    obtain ⟨sec, member, same⟩ := exists_section k
    have other := List.find?_eq_none.mp found sec member
    exact other (beq_iff_eq.mpr same)
  | some sec =>
    have member := List.mem_of_find?_eq_some found
    have named := List.find?_some found
    obtain rfl : sec.name = name := beq_iff_eq.mp named
    exact .inr ⟨sec, rfl, rfl, exists_key member, sections_cover sec member⟩

/-! ## What a document gives -/

variable {members entries : List (String × Value)}

/-- The entries of a section fill in what they give, in any order. -/
theorem putMembers_entries {part : String} (serve : List.Forall₂ Serves keys fields)
    (group : ∀ k ∈ keys, k.group = part) (distinct : (entries.map Prod.fst).Nodup)
    (given : ∀ k ∈ keys, entries.lookup k.name = (a k).map k.kind.toml)
    (foreign : ∀ k ∉ keys, a k = none) (s : Settings) :
    ∃ s', putMembers fields s entries = .ok s' ∧ a.Fills s s' := by
  induction entries generalizing s a with
  | nil =>
    refine ⟨s, rfl, Assignment.fills_none fun k => ?_⟩
    by_cases inside : k ∈ keys
    · exact Option.map_eq_none_iff.mp (given k inside).symm
    · exact foreign k inside
  | cons m entries ih =>
    obtain ⟨name, v⟩ := m
    obtain ⟨absent, distinct'⟩ := List.nodup_cons.mp distinct
    have later {k : Key} (other : k.name ≠ name) :
        ((name, v) :: entries).lookup k.name = entries.lookup k.name := by
      rw [List.lookup_cons, beq_false_of_ne other]
    rcases find?_serves serve name with ⟨none, others⟩ | ⟨k₀, member, rfl, f, found, serves⟩
    · rw [putMembers_unknown none]
      exact ih distinct' (fun k inside => later (others k inside) ▸ given k inside) foreign s
    · have here := given k₀ member
      rw [List.lookup_cons, beq_self_eq_true] at here
      obtain ⟨c, assigned, rfl⟩ := Option.map_eq_some_iff.mp here.symm
      have rest (k : Key) (inside : k ∈ keys) :
          entries.lookup k.name = (a.without (· == k₀) k).map k.kind.toml := by
        by_cases same : k = k₀
        · rw [same, Assignment.without_of (by simp), Toml.lookup_absent absent]
          rfl
        · rw [Assignment.without_of_not (by simpa using same), ← given k inside, later]
          have together := (group k inside).trans (group k₀ member).symm
          exact fun name => same (Key.eq_of_name together name)
      have foreign' (k : Key) (outside : k ∉ keys) : a.without (· == k₀) k = none := by
        rw [Assignment.without, foreign k outside, ite_self]
      obtain ⟨s', run, fills⟩ := ih distinct' rest foreign' (k₀.put c s)
      refine ⟨s', ?_, (Assignment.fills_put assigned).trans fills⟩
      rw [putMembers_known found (serves.put s c), run]

theorem valueAt?_absent {part : String} (absent : part ∉ members.map Prod.fst) (key : String) :
    valueAt? members part key = none := by
  rw [valueAt?, Toml.lookup_absent absent]

theorem valueAt?_cons_of_ne {part name : String} (other : part ≠ name) (v : Value) (key : String) :
    valueAt? ((name, v) :: members) part key = valueAt? members part key := by
  rw [valueAt?, valueAt?, List.lookup_cons, beq_false_of_ne other]

theorem valueAt?_cons_table (part : String) (entries : List (String × Value)) (key : String) :
    valueAt? ((part, .table entries) :: members) part key = entries.lookup key := by
  rw [valueAt?, List.lookup_cons, beq_self_eq_true]

/-- The members of a document fill in what they give, in any order. -/
theorem putMembers_sections (standsIn : a.StandsIn members) (s : Settings) :
    ∃ s', putMembers sections s members = .ok s' ∧ a.Fills s s' := by
  obtain ⟨names, tables, given⟩ := standsIn
  induction members generalizing s a with
  | nil => exact ⟨s, rfl, Assignment.fills_none fun k => Option.map_eq_none_iff.mp (given k).symm⟩
  | cons m members ih =>
    obtain ⟨name, v⟩ := m
    obtain ⟨absent, names'⟩ := List.nodup_cons.mp names
    obtain ⟨table, tables'⟩ := List.forall_mem_cons.mp tables
    rcases find?_section name with ⟨none, others⟩ | ⟨sec, found, rfl, some, keys, fields, covers⟩
    · rw [putMembers_unknown none]
      exact ih s names' tables' fun k => by rw [← given k, valueAt?_cons_of_ne (others k)]
    · obtain ⟨entries, rfl, distinct⟩ := table some
      have here (k : Key) (inside : k ∈ keys) :
          entries.lookup k.name = (a.only (· ∈ keys) k).map k.kind.toml := by
        rw [Assignment.only_of (by simpa using inside), ← given k, (covers.group k).mp inside,
          valueAt?_cons_table]
      have foreign (k : Key) (outside : k ∉ keys) : a.only (· ∈ keys) k = none :=
        Assignment.only_of_not (by simpa using outside)
      have rest (k : Key) : valueAt? members k.group k.name =
          (a.without (· ∈ keys) k).map k.kind.toml := by
        by_cases inside : k ∈ keys
        · rw [Assignment.without_of (by simpa using inside), (covers.group k).mp inside,
            valueAt?_absent absent]
          rfl
        · rw [Assignment.without_of_not (by simpa using inside), ← given k, valueAt?_cons_of_ne]
          exact fun group => inside ((covers.group k).mpr group)
      obtain ⟨s₁, run, fills⟩ := putMembers_entries covers.serve
        (fun k inside => (covers.group k).mp inside) distinct here foreign s
      obtain ⟨s', run', fills'⟩ := ih s₁ names' tables' rest
      refine ⟨s', ?_, fills.trans fills'⟩
      rw [putMembers_known found ((covers.put s entries).trans run), run']

/-! ## What is no setting -/

theorem find?_eq_none_of_covers {sec : RecordField Settings} (covers : Covers sec keys fields)
    {name : String} (unknown : isSetting sec.name name = false) :
    fields.find? (fun f => f.name == name) = none := by
  rcases find?_serves covers.serve name with ⟨none, -⟩ | ⟨k, member, rfl, -⟩
  · exact none
  · have known : isSetting sec.name k.name = true := by
      rw [isSetting, List.any_eq_true]
      exact ⟨k, Key.mem_all k, by simp [(covers.group k).mp member]⟩
    rw [unknown] at known
    cases known

theorem find?_section_eq_none {name : String} (unknown : isSection name = false) :
    sections.find? (fun sec => sec.name == name) = none := by
  rcases find?_section name with ⟨none, -⟩ | ⟨_, _, _, ⟨k, group⟩, -⟩
  · exact none
  · have known : isSection name = true := by
      rw [isSection, List.any_eq_true]
      exact ⟨k, Key.mem_all k, beq_iff_eq.mpr group⟩
    rw [unknown] at known
    cases known

theorem put_knownEntries (sec : RecordField Settings) (member : sec ∈ sections) (s : Settings)
    (v : Value) : sec.put s (knownEntries sec.name v) = sec.put s v := by
  obtain ⟨keys, fields, covers⟩ := sections_cover sec member
  cases v with
  | table entries =>
    rw [knownEntries, covers.put, covers.put]
    apply putMembers_filter
    intro m unknown
    exact find?_eq_none_of_covers covers unknown
  | _ => rfl

/-- What is no setting makes no difference. -/
theorem ofToml_known (members : List (String × Value)) :
    ofToml (known members) = ofToml members := by
  rw [known, ofToml, putMembers_map put_knownEntries]
  apply putMembers_filter
  intro m unknown
  exact find?_section_eq_none unknown

end SoapGateway.Settings
