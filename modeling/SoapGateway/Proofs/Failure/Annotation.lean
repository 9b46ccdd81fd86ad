import SoapGateway.Failure

/-!
# Annotations of failures

A failure is a bare one with annotations around it, none or more. What it is counted as depends on
the bare one alone, and its wording tells the annotations from the outside in. However many stages
annotate a failure on its way, only the first annotation is written.
-/
namespace SoapGateway.Failure

/-- A failure without annotations. -/
def IsBare (f : Failure) : Prop := ∀ name source, f ≠ .inOperation name source

/-- What holds of bare failures, and of an annotated one if it holds of the one beneath, holds of
all. -/
@[elab_as_elim]
theorem annotationInduction {motive : Failure → Prop} (bare : ∀ f, f.IsBare → motive f)
    (annotated : ∀ name source, motive source → motive (.inOperation name source))
    (f : Failure) : motive f := by
  induction f with
  | inOperation name source ih => exact annotated name source ih
  | expired | prohibited | badBody | reversedRange | envelope | call | nodeNotFound | badAnswer =>
    exact bare _ nofun

section IsBare

variable {f : Failure}

theorem IsBare.root_eq (bare : f.IsBare) : f.root = f := by
  rw [root]
  exact bare

theorem IsBare.layers_eq (bare : f.IsBare) : f.layers = [] := by
  rw [layers]
  exact bare

theorem IsBare.within_eq (bare : f.IsBare) (name : String) :
    f.within name = .inOperation name f := by
  rw [within]
  exact bare

end IsBare

theorem isBare_root (f : Failure) : f.root.IsBare := by
  induction f using annotationInduction with
  | bare f bare => rwa [bare.root_eq]
  | annotated name source ih => exact ih

/-- Annotations do not change what a failure is counted as. -/
theorem kind_root (f : Failure) : f.root.kind = f.kind := by
  rw [kind, (isBare_root f).root_eq, kind]

theorem kind_ne_operation (f : Failure) : f.kind ≠ .operation := by
  induction f using annotationInduction with
  | bare f bare =>
    cases f with
    | inOperation name source => exact absurd rfl (bare name source)
    | expired | prohibited | badBody | reversedRange | envelope | call | nodeNotFound | badAnswer =>
      exact nofun
  | annotated name source ih => exact ih

theorem eq_operation_of_label {kind : FailureKind} (named : kind.label = "operation") :
    kind = .operation := by
  cases kind with
  | operation => rfl
  | expired | prohibited | badRequest | envelope | transport | decode =>
    exact absurd named (by decide)

/-- A failure is its annotations around its root. -/
theorem foldr_layers (f : Failure) : f.layers.foldr .inOperation f.root = f := by
  induction f using annotationInduction with
  | bare f bare => rw [bare.layers_eq, bare.root_eq, List.foldr_nil]
  | annotated name source ih => exact congrArg (inOperation name) ih

/-- There is one way only to take a failure apart into annotations and a bare failure. -/
theorem eq_layers_root {f bare : Failure} {names : List String} (isBare : bare.IsBare)
    (apart : names.foldr .inOperation bare = f) : names = f.layers ∧ bare = f.root := by
  subst apart
  induction names with
  | nil => exact ⟨isBare.layers_eq.symm, isBare.root_eq.symm⟩
  | cons name names ih => exact ⟨congrArg (List.cons name) ih.1, ih.2⟩

theorem message_eq (f : Failure) :
    f.message = String.join (f.layers.map (· ++ ": ")) ++ f.root.message := by
  induction f using annotationInduction with
  | bare f bare => rw [bare.layers_eq, bare.root_eq, List.map_nil, String.join_nil,
      String.empty_append]
  | annotated name source ih =>
    change name ++ ": " ++ source.message =
      String.join ((name ++ ": ") :: source.layers.map (· ++ ": ")) ++ source.root.message
    rw [ih, String.join_cons]
    simp only [String.append_assoc]

/-- Only a bare failure takes an annotation. -/
theorem within_cases (f : Failure) (name : String) :
    f.IsBare ∧ f.within name = .inOperation name f ∨ ¬ f.IsBare ∧ f.within name = f := by
  induction f using annotationInduction with
  | bare f bare => exact Or.inl ⟨bare, bare.within_eq name⟩
  | annotated first source => exact Or.inr ⟨fun bare => bare first source rfl, rfl⟩

theorem root_within (f : Failure) (name : String) : (f.within name).root = f.root := by
  rcases within_cases f name with ⟨_, same⟩ | ⟨_, same⟩
  · rw [same]
    rfl
  · rw [same]

/-- Every failure is made of the names of its annotations and a bare root in one way. An operation
annotates a bare failure and leaves any other as it is, so a second annotation adds nothing. The
root, and with it the class, is the same before and after, and is never itself an annotation. The
wording is that of the root, after the names from the outside in with a colon and a space behind
each. -/
theorem annotation_laws (f : Failure) (a b : String) :
    f.root.IsBare ∧
    (∀ names bare, bare.IsBare ∧ names.foldr .inOperation bare = f ↔
      names = f.layers ∧ bare = f.root) ∧
    (f.within a).root = f.root ∧ (f.within a).kind = f.kind ∧
    f.kind = f.root.kind ∧ f.kind.label ≠ "operation" ∧
    (f.within a).layers = (if f.layers = [] then [a] else f.layers) ∧
    (f.within a).within b = f.within a ∧
    (∀ name source, f = .inOperation name source → f.within a = f) ∧
    f.message = String.join (f.layers.map (· ++ ": ")) ++ f.root.message := by
  refine ⟨isBare_root f, ?apart, root_within f a, ?kind, (kind_root f).symm,
    mt eq_operation_of_label f.kind_ne_operation, ?layers, ?once, ?kept, message_eq f⟩
  case apart =>
    intro names bare
    refine ⟨fun ⟨isBare, apart⟩ => eq_layers_root isBare apart, ?_⟩
    rintro ⟨rfl, rfl⟩
    exact ⟨isBare_root f, foldr_layers f⟩
  case kind => rw [← kind_root, root_within, kind_root]
  case layers =>
    rcases within_cases f a with ⟨bare, same⟩ | ⟨annotated, same⟩
    · rw [same, if_pos bare.layers_eq, layers, bare.layers_eq]
    · rw [same, if_neg]
      intro none
      have whole := foldr_layers f
      rw [none, List.foldr_nil] at whole
      exact annotated (whole ▸ isBare_root f)
  case once =>
    rcases within_cases f a with ⟨_, same⟩ | ⟨annotated, same⟩
    · rw [same]
      rfl
    · rcases within_cases f b with ⟨bare, _⟩ | ⟨_, again⟩
      · exact absurd bare annotated
      · rw [same, again]
  case kept =>
    rintro name source rfl
    rfl

end SoapGateway.Failure
