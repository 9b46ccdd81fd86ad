import Mathlib.Data.List.Dedup
import SoapGateway.Proofs.Settings.Members
import SoapGateway.Proofs.Toml.Writing

/-!
# Settings from written documents

A document may give any of the settings, in any order, written in any way, between whatever else it
holds. Reading it comes to the given values over the defaults, accepted or refused by the rules for
settings and by nothing else, and there is such a document for all values.
-/
namespace SoapGateway.Settings

open Toml (Value)

variable {members entries : List (String × Value)}

/-! ## Documents for assignments -/

theorem lookup_of_mem {key : String} {v : Value} (distinct : (entries.map Prod.fst).Nodup)
    (member : (key, v) ∈ entries) : entries.lookup key = some v := by
  obtain ⟨before, after, rfl⟩ := List.append_of_mem member
  rw [List.lookup_eq_some_iff]
  refine ⟨before, after, rfl, ?_⟩
  intro m front
  rw [bne_iff_ne]
  rintro rfl
  rw [List.map_append, List.map_cons] at distinct
  exact (List.nodup_append.mp distinct).2.2 _ (List.mem_map_of_mem front) _ List.mem_cons_self rfl

namespace Assignment

/-- What an assignment gives for a key, if it stands in a section. -/
def item? (a : Assignment) (part : String) (k : Key) : Option (String × Value) :=
  if k.group = part then (a k).map fun v => (k.name, k.kind.toml v) else none

/-- A document that gives an assignment, section by section. -/
def sheet (a : Assignment) : Toml.Sheet :=
  ⟨[], (Key.all.map Key.group).dedup.map fun part => (part, Key.all.filterMap (a.item? part))⟩

variable {a : Assignment} {part : String}

theorem item?_eq_some {k : Key} {m : String × Value} :
    a.item? part k = some m ↔ k.group = part ∧ ∃ v, a k = some v ∧ (k.name, k.kind.toml v) = m := by
  rw [item?]
  split
  · next group => simp [group]
  · next group => simp [group]

theorem nodup_items (a : Assignment) (part : String) :
    ((Key.all.filterMap (a.item? part)).map Prod.fst).Nodup := by
  rw [List.map_filterMap]
  refine List.Nodup.filterMap ?_ (by decide)
  intro k k' name given given'
  obtain ⟨m, item, rfl⟩ := Option.map_eq_some_iff.mp given
  obtain ⟨m', item', same⟩ := Option.map_eq_some_iff.mp given'
  obtain ⟨group, v, -, rfl⟩ := item?_eq_some.mp item
  obtain ⟨group', v', -, rfl⟩ := item?_eq_some.mp item'
  exact Key.eq_of_name (group.trans group'.symm) same.symm

theorem lookup_items (a : Assignment) (k : Key) :
    (Key.all.filterMap (a.item? k.group)).lookup k.name = (a k).map k.kind.toml := by
  cases assigned : a k with
  | some v =>
    apply lookup_of_mem (a.nodup_items k.group)
    rw [List.mem_filterMap]
    exact ⟨k, Key.mem_all k, item?_eq_some.mpr ⟨rfl, v, assigned, rfl⟩⟩
  | none =>
    apply Toml.lookup_absent
    intro present
    obtain ⟨m, member, named⟩ := List.mem_map.mp present
    obtain ⟨k', -, item⟩ := List.mem_filterMap.mp member
    obtain ⟨group, v, assigned', rfl⟩ := item?_eq_some.mp item
    obtain rfl := Key.eq_of_name group named
    rw [assigned] at assigned'
    cases assigned'

theorem names_sheet (a : Assignment) :
    a.sheet.sections.map Prod.fst = (Key.all.map Key.group).dedup := by
  rw [sheet, List.map_map]
  exact List.map_id _

theorem isDistinct_sheet (a : Assignment) : a.sheet.IsDistinct where
  names := by
    rw [names_sheet]
    exact List.nodup_dedup _
  keys := by
    intro m member
    obtain ⟨part, -, rfl⟩ := List.mem_map.mp member
    exact a.nodup_items part

theorem standsIn_sheet (a : Assignment) : a.StandsIn a.sheet.members where
  names := by
    have names := a.isDistinct_sheet.names
    rw [Toml.Sheet.members, List.map_append, List.map_map]
    exact names
  tables := by
    intro m member _
    obtain ⟨part, inside, rfl⟩ := List.mem_map.mp member
    exact ⟨part.2, rfl, a.isDistinct_sheet.keys part inside⟩
  given := by
    intro k
    have group : k.group ∈ (Key.all.map Key.group).dedup :=
      List.mem_dedup.mpr (List.mem_map_of_mem (Key.mem_all k))
    have members : a.sheet.members = (Key.all.map Key.group).dedup.map fun part =>
        (part, Value.table (Key.all.filterMap (a.item? part))) := by
      rw [Toml.Sheet.members, sheet, List.nil_append, List.map_map]
      rfl
    rw [valueAt?, members,
      List.lookup_graph (fun part => Value.table (Key.all.filterMap (a.item? part))) group]
    exact a.lookup_items k

/-- Bounded values can be written. -/
theorem exists_isValue {kind : Kind} {v : kind.Carrier} (fits : kind.Fits v) :
    ∃ t, Toml.IsValue (kind.toml v) t := by
  cases kind with
  | text => exact Toml.exists_isValue_text v
  | count => exact ⟨_, .integer fits⟩
  | flag =>
    cases v with
    | true => exact ⟨_, .yes⟩
    | false => exact ⟨_, .no⟩

theorem exists_text (bounded : a.IsBounded) :
    ∃ text : String, Toml.Written a.sheet.lines text.toList := by
  have spelled (k : String) (v : Value) (member : Toml.Line.entry k v ∈ a.sheet.lines) :
      ∃ t, Toml.IsValue v t := by
    rw [Toml.Sheet.lines, sheet, List.map_nil, List.nil_append, List.mem_flatMap] at member
    obtain ⟨m, inside, line⟩ := member
    obtain ⟨part, -, rfl⟩ := List.mem_map.mp inside
    rcases List.mem_cons.mp line with header | line
    · cases header
    · obtain ⟨item, given, same⟩ := List.mem_map.mp line
      obtain ⟨key, -, given⟩ := List.mem_filterMap.mp given
      obtain ⟨-, value, assigned, rfl⟩ := item?_eq_some.mp given
      obtain ⟨rfl, rfl⟩ := Toml.Line.entry.inj same
      exact exists_isValue (bounded key value assigned)
  obtain ⟨s, written⟩ := Toml.exists_written spelled
  refine ⟨String.ofList s, ?_⟩
  rw [String.toList_ofList]
  exact written

end Assignment

theorem validated_eq (s : Settings) :
    s.validated = if s.violations = [] then .ok s else .error (.invalid s.violations) := by
  rw [validated]
  cases s.violations with
  | nil => rfl
  | cons => rfl

/-- A document that gives an assignment decides the outcome. -/
theorem decides_of_standsIn {a : Assignment} {text : String}
    (read : Toml.document? text = some members) (standsIn : a.StandsIn members) :
    a.Decides (parse text) := by
  obtain ⟨s, run, final⟩ := putMembers_sections standsIn {}
  refine ⟨s, ?_, ?_⟩
  · intro s'
    constructor
    · intro values
      exact Key.ext_get fun k => (values k).trans (final k).symm
    · rintro rfl
      exact final
  · rw [parse, read]
    dsimp only
    rw [ofToml, run, ← validated_eq]

/-- Whatever is written for an assignment decides the outcome: in whichever order the sections and
their keys stand, however their texts are escaped, and whatever else stands between them. The same
goes for documents of any other form that give the assignment, and every assignment can be written.
Documents that differ in nothing but what is no setting have the same outcome, also where they give
values that do not fit. -/
theorem parse_written (a : Assignment) :
    (∀ (sheet : Toml.Sheet) (text : String), sheet.IsDistinct → a.StandsIn sheet.members →
      Toml.Written sheet.lines text.toList → a.Decides (parse text)) ∧
    (∀ text members, Toml.document? text = some members → a.StandsIn members →
      a.Decides (parse text)) ∧
    (a.IsBounded → ∃ (sheet : Toml.Sheet) (text : String), sheet.IsDistinct ∧
      a.StandsIn sheet.members ∧ Toml.Written sheet.lines text.toList) ∧
    ∀ text text' members members', Toml.document? text = some members →
      Toml.document? text' = some members' → known members' = known members →
        parse text' = parse text := by
  refine ⟨?_, fun _ _ => decides_of_standsIn, ?_, ?_⟩
  · intro sheet text distinct standsIn written
    exact decides_of_standsIn (Toml.document?_written distinct written) standsIn
  · intro bounded
    obtain ⟨text, written⟩ := a.exists_text bounded
    exact ⟨a.sheet, text, a.isDistinct_sheet, a.standsIn_sheet, written⟩
  · intro text text' members members' read read' same
    rw [parse, parse, read, read']
    dsimp only
    rw [← ofToml_known members', same, ofToml_known]

/-- Three settings, of three kinds. -/
def threeSettings : Assignment
  | .maxBodySize => some (0 : Nat)
  | .logLevel => some "é"
  | .adminEnabled => some true
  | _ => none

/-- Sections out of order, with entries and a section that are no settings. -/
def shuffled : Toml.Sheet where
  loose := [("extra", .integer 7)]
  sections := [("security", [("max_body_size", .integer 0)]), ("other", [("é", .boolean false)]),
    ("observability", [("level", .integer 1), ("log_level", .text "é")]),
    ("admin", [("enabled", .boolean true)])]

def shuffledText : String :=
  "extra = 7\n[security]\nmax_body_size=0 # none\n\n[ other ]\r\n\"\\u00E9\" = false\n" ++
    "[observability]\n\tlevel = 1\nlog_level = \"\\u00E9\"\n[admin]\nenabled = true"

theorem written_shuffled : Toml.Written shuffled.lines shuffledText.toList := by
  have none : Toml.IsGap [] := by simp [Toml.IsGap]
  have blank : Toml.IsGap [' '] := by simp [Toml.IsGap, Toml.isBlank]
  have tab : Toml.IsGap ['\t'] := by simp [Toml.IsGap, Toml.isBlank]
  have newline (rest : List Char) : Toml.Ends ['\n'] rest := .intro none (.inl rfl) (.inl rfl)
  have carriage (rest : List Char) : Toml.Ends ['\r', '\n'] rest :=
    .intro none (.inl rfl) (.inr (.inl rfl))
  have remark (rest : List Char) : Toml.Ends ([' '] ++ "# none".toList ++ ['\n']) rest :=
    .intro blank (.inr ⟨" none".toList, rfl, by simp [Toml.isPlain]⟩) (.inl rfl)
  have last : Toml.Ends [] [] := .intro none (.inl rfl) (.inr (.inr ⟨rfl, rfl⟩))
  have bare (name : String) (letters : name.toList ≠ [] ∧ name.toList.all Toml.isBare = true) :
      Toml.IsName name name.toList := Toml.isName_toList letters.1 letters.2
  have digit (n : Nat) (small : n < 10) : Toml.IsValue (.integer n) [Text.digitChar n] := by
    have number : Toml.IsValue (.integer n) (Text.digits n) :=
      .integer (Nat.lt_trans small (by decide))
    rwa [Text.digits, if_pos small] at number
  have spelled : Toml.Spells 'é' ('\\' :: 'u' :: ['0', '0', 'E', '9']) :=
    .point (by decide) (Toml.forall_listed (by decide)) (by decide)
  have writes : Toml.Writes ['é'] "\\u00E9".toList := .cons spelled .nil
  have pieces : shuffledText.toList =
      [] ++ "extra".toList ++ [' '] ++ '=' :: [' '] ++ [Text.digitChar 7] ++ ['\n'] ++
      ([] ++ '[' :: [] ++ "security".toList ++ [] ++ ']' :: ['\n'] ++
      ([] ++ "max_body_size".toList ++ [] ++ '=' :: [] ++ [Text.digitChar 0] ++
        ([' '] ++ "# none".toList ++ ['\n']) ++
      (['\n'] ++
      ([] ++ '[' :: [' '] ++ "other".toList ++ [' '] ++ ']' :: ['\r', '\n'] ++
      ([] ++ ('"' :: "\\u00E9".toList ++ ['"']) ++ [' '] ++ '=' :: [' '] ++ "false".toList ++
        ['\n'] ++
      ([] ++ '[' :: [] ++ "observability".toList ++ [] ++ ']' :: ['\n'] ++
      (['\t'] ++ "level".toList ++ [' '] ++ '=' :: [' '] ++ [Text.digitChar 1] ++ ['\n'] ++
      ([] ++ "log_level".toList ++ [' '] ++ '=' :: [' '] ++ ('"' :: "\\u00E9".toList ++ ['"']) ++
        ['\n'] ++
      ([] ++ '[' :: [] ++ "admin".toList ++ [] ++ ']' :: ['\n'] ++
      ([] ++ "enabled".toList ++ [' '] ++ '=' :: [' '] ++ "true".toList ++ [] ++ [])))))))))) := by
    decide +kernel
  rw [pieces]
  refine .entry none (bare _ (by decide)) blank blank (digit 7 (by decide)) (newline _) ?_
  refine .header none none (bare _ (by decide)) none (newline _) ?_
  refine .entry none (bare _ (by decide)) none none (digit 0 (by decide)) (remark _) ?_
  refine .idle (by decide) (newline _) ?_
  refine .header none blank (bare _ (by decide)) blank (carriage _) ?_
  refine .entry none (.quoted writes) blank blank .no (newline _) ?_
  refine .header none none (bare _ (by decide)) none (newline _) ?_
  refine .entry tab (bare _ (by decide)) blank blank (digit 1 (by decide)) (newline _) ?_
  refine .entry none (bare _ (by decide)) blank blank (.text writes) (newline _) ?_
  refine .header none none (bare _ (by decide)) none (newline _) ?_
  exact .entry none (bare _ (by decide)) blank blank .yes last .nil

theorem parse_written_shuffled :
    shuffled.IsDistinct ∧ threeSettings.StandsIn shuffled.members ∧
      Toml.Written shuffled.lines shuffledText.toList ∧
      threeSettings.Decides (parse shuffledText) := by
  have distinct : shuffled.IsDistinct := ⟨by decide, by decide⟩
  have standsIn : threeSettings.StandsIn shuffled.members := by
    refine ⟨by decide, ?_, ?_⟩
    · intro m member known
      rcases List.mem_cons.mp member with rfl | member
      · obtain ⟨k, group⟩ := known
        cases k <;> exact absurd group (by decide)
      · obtain ⟨part, inside, rfl⟩ := List.mem_map.mp member
        exact ⟨part.2, rfl, distinct.keys part inside⟩
    · intro k
      cases k <;> rfl
  exact ⟨distinct, standsIn, written_shuffled,
    (parse_written threeSettings).1 shuffled shuffledText distinct standsIn written_shuffled⟩

end SoapGateway.Settings
