import SoapGateway.Proofs.Xml.Attributes
import SoapGateway.Xml.Tree

/-!
# Trees of written documents

A written document is read as the trees that its texts and elements stand for, each in its place.
-/
namespace SoapGateway.Xml

/-- The attributes of a tag with the references in their values replaced. -/
def Tag.values? (t : Tag) : Option (List (String × String)) :=
  Tree.attributes? (t.attributes.map fun a => .ok ⟨a.name, a.value⟩)

theorem Tag.WellFormed.values {t : Tag} (wf : t.WellFormed) :
    Tree.attributes? (Xml.attributes t.source) = t.values? := by
  rw [Tag.attributes_source wf]
  rfl

namespace Forest

/-- The trees that siblings stand for. -/
def trees? : Forest → Option (List Tree)
  | nil => some []
  | text s rest =>
    match unescape s with
    | .ok s => rest.trees?.map (.text (String.ofList s) :: ·)
    | .error _ => none
  | cdata s rest => rest.trees?.map (.text (String.ofList s) :: ·)
  | comment _ rest => rest.trees?
  | instruction _ rest => rest.trees?
  | single tag rest =>
    tag.values?.bind fun values =>
      rest.trees?.map (.element (String.ofList tag.name) values [] :: ·)
  | element tag inner _ rest =>
    tag.values?.bind fun values =>
      inner.trees?.bind fun children =>
        rest.trees?.map (.element (String.ofList tag.name) values children :: ·)

theorem trees?_element {tag : Tag} {inner rest : Forest} {values : List (String × String)}
    {children more : List Tree} (tagged : tag.values? = some values)
    (inside : inner.trees? = some children) (after : rest.trees? = some more)
    (space : List Char) :
    (element tag inner space rest).trees? =
      some (.element (String.ofList tag.name) values children :: more) := by
  rw [trees?, tagged, inside, after]
  rfl

/-- Events of a tag tell its name and its values. -/
theorem read_start {tag : Tag} (wf : tag.WellFormed) (around : List Tree.Opened)
    (siblings : List Tree) (source : List Char) (more : List (Except MarkupFault Token)) :
    Tree.read around siblings (.ok ⟨.start tag.source, source⟩ :: more) =
      tag.values?.bind fun values =>
        Tree.read (⟨String.ofList tag.name, values, siblings⟩ :: around) [] more := by
  rw [Tree.read.eq_def]
  simp only [wf.values, tagName_source wf]
  cases tag.values? <;> rfl

theorem read_empty {tag : Tag} (wf : tag.WellFormed) (around : List Tree.Opened)
    (siblings : List Tree) (source : List Char) (more : List (Except MarkupFault Token)) :
    Tree.read around siblings (.ok ⟨.empty tag.source, source⟩ :: more) =
      tag.values?.bind fun values =>
        Tree.read around (.element (String.ofList tag.name) values [] :: siblings) more := by
  rw [Tree.read.eq_def]
  simp only [wf.values, tagName_source wf]
  cases tag.values? <;> rfl

/-- Siblings are read behind those before them. -/
theorem read_tokens {f : Forest} (wf : f.WellFormed) (around : List Tree.Opened)
    (siblings : List Tree) (more : List (Except MarkupFault Token)) :
    Tree.read around siblings (f.tokens.map .ok ++ more) =
      f.trees?.bind fun ts => Tree.read around (ts.reverse ++ siblings) more := by
  induction f generalizing around siblings more with
  | nil => rfl
  | text s rest ih =>
    rw [tokens, List.map_cons, List.cons_append, Tree.read.eq_def, trees?]
    dsimp only
    cases unescape s with
    | error _ => rfl
    | ok s =>
      dsimp only
      rw [ih wf.2.2.2]
      cases rest.trees? <;> simp
  | cdata s rest ih =>
    rw [tokens, List.map_cons, List.cons_append, Tree.read.eq_def, trees?]
    dsimp only
    rw [ih wf.2]
    cases rest.trees? <;> simp
  | comment s rest ih => exact ih wf.2.2 around siblings more
  | instruction s rest ih => exact ih wf.2.2 around siblings more
  | single tag rest ih =>
    rw [tokens, List.map_cons, List.cons_append, read_empty wf.1, trees?]
    cases tag.values? with
    | none => rfl
    | some values =>
      rw [Option.bind_some, Option.bind_some, ih wf.2]
      cases rest.trees? <;> simp
  | element tag inner space rest ihInner ihRest =>
    obtain ⟨tagWf, innerWf, _, restWf⟩ := wf
    have shape : (element tag inner space rest).tokens.map (Except.ok (ε := MarkupFault)) ++ more =
        .ok ⟨.start tag.source, tag.opening⟩ :: (inner.tokens.map .ok ++
          .ok ⟨.stop tag.name, tag.closing space⟩ :: (rest.tokens.map .ok ++ more)) := by
      simp [tokens]
    rw [shape, read_start tagWf, trees?]
    cases tag.values? with
    | none => rfl
    | some values =>
      rw [Option.bind_some, Option.bind_some, ihInner innerWf]
      cases inner.trees? with
      | none => rfl
      | some children =>
        rw [Option.bind_some, Option.bind_some, Tree.read]
        dsimp only
        rw [ihRest restWf]
        cases rest.trees? <;> simp

/-- A written document without a byte order mark is read as its trees. -/
theorem trees_source {f : Forest} (wf : f.WellFormed)
    (unmarked : f.source.head? ≠ some byteOrderMark) : trees f.source = f.trees? := by
  have whole := read_tokens wf [] [] []
  rw [List.append_nil, ← events_source wf unmarked] at whole
  rw [trees, whole]
  cases f.trees? <;> simp [Tree.read]

end Forest

end SoapGateway.Xml
