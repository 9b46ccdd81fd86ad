import SoapGateway.Proofs.Xml.Elements
import SoapGateway.Xml.Document

/-!
# Finding elements in whole documents

A document type declaration is one event if it is seen whole, and a search goes past it. What is
left of it, where its angle brackets balance early, is read as text.
-/
namespace SoapGateway.Xml

/-! Where a declaration is seen to end. -/

theorem closesDoctype_eq (u acc : List Char) :
    closesDoctype (u.reverse ++ acc) =
      (u.count '<' + acc.count '<' == u.count '>' + acc.count '>') := by
  rw [closesDoctype, List.count_append, List.count_append, List.count_reverse, List.count_reverse]

/-- A declaration is cut where its angle brackets balance first, if there are none before. -/
theorem cutWhere_doctype {opening seen : List Char} (left : '<' ∉ opening) (right : '>' ∉ opening)
    (first : BalancesFirst seen) (rest : List Char) :
    cutWhere closesDoctype [] (opening ++ (seen ++ '>' :: rest)) = some (opening ++ seen, rest) := by
  have quiet : opening.reverse.count '<' = 0 ∧ opening.reverse.count '>' = 0 := by
    rw [List.count_reverse, List.count_reverse]
    exact ⟨List.count_eq_zero.mpr left, List.count_eq_zero.mpr right⟩
  rw [cutWhere_skip right, List.append_nil, cutWhere_append, List.reverse_reverse]
  · rintro u v rfl
    have early := first.2 u.length (by simp) (by simp)
    rw [List.take_left] at early
    rw [closesDoctype_eq, quiet.1, quiet.2, Nat.add_zero, Nat.add_zero]
    exact beq_eq_false_iff_ne.mpr early
  · rw [closesDoctype_eq, quiet.1, quiet.2, Nat.add_zero, Nat.add_zero]
    exact beq_iff_eq.mpr first.1

theorem markup_declaration (s : List Char) :
    markup ('!' :: 'D' :: s) = match cutWhere closesDoctype [] ('!' :: 'D' :: s) with
      | none => sawFault .unclosedDoctype ('!' :: 'D' :: s) []
      | some (content, rest) =>
        if !Text.sameAscii (content.take 8) "!doctype".toList then
          sawFault .unclosedDoctype ('!' :: 'D' :: s) []
        else if (content.drop 8).all isSpace then
          sawFault .unnamedDoctype (content ++ ['>']) rest
        else ⟨.ok .doctype, content ++ ['>'], rest⟩ :=
  rfl

namespace Doctype

/-- What stands in a declaration before all that it says. -/
def opening (d : Doctype) : List Char := keyword ++ (d.space ++ d.name)

variable {d : Doctype}

theorem WellFormed.opening_plain (wf : d.WellFormed) {c : Char} (name : isNameChar c = false)
    (space : isSpace c = false) (keyword : c ∉ keyword) : c ∉ d.opening := by
  obtain ⟨_, _, _, _, chars⟩ := isName_cases wf.name
  rw [opening, List.mem_append, List.mem_append]
  rintro (member | member | member)
  · exact keyword member
  · exact Bool.noConfusion (space.symm.trans (List.all_eq_true.mp wf.space c member))
  · exact Bool.noConfusion (name.symm.trans (chars c member))

theorem WellFormed.named (wf : d.WellFormed) (seen : List Char) :
    (d.space ++ d.name ++ seen).all isSpace = false := by
  obtain ⟨c, rest, same, start, _⟩ := isName_cases wf.name
  have letter := isSpace_of_isNameChar (isNameChar_of_isNameStart start)
  simp [same, letter]

theorem markup_doctype (wf : d.WellFormed) {seen : List Char} (first : BalancesFirst seen)
    (rest : List Char) :
    markup (d.opening ++ (seen ++ '>' :: rest)) =
      ⟨.ok .doctype, d.opening ++ seen ++ ['>'], rest⟩ := by
  have cut := cutWhere_doctype (wf.opening_plain (c := '<') (by decide) (by decide) (by decide))
    (wf.opening_plain (c := '>') (by decide) (by decide) (by decide)) first rest
  have dropped : (d.opening ++ seen).drop 8 = d.space ++ d.name ++ seen := by
    rw [opening, List.append_assoc]
    exact List.drop_left' (by decide)
  have taken : (d.opening ++ seen).take 8 = keyword := by
    rw [opening, List.append_assoc]
    exact List.take_left' (by decide)
  have same : Text.sameAscii keyword "!doctype".toList = true := by decide
  obtain ⟨s, begins⟩ : ∃ s, d.opening ++ (seen ++ '>' :: rest) = '!' :: 'D' :: s := ⟨_, rfl⟩
  rw [begins] at cut ⊢
  rw [markup_declaration, cut]
  dsimp only
  rw [taken, dropped, same, wf.named]
  rfl

theorem source_eq (d : Doctype) : d.source = '<' :: (d.opening ++ (d.more ++ ['>'])) := by
  simp [source, opening]

end Doctype

namespace Forest

theorem first?_withText (s target : List Char) (f : Forest) :
    (f.withText s).first? target = f.first? target := by
  rcases withText_cases s f with ⟨t, rest, rfl, eq⟩ | ⟨_, eq⟩ | ⟨_, _, eq⟩
  · rw [eq, first?, first?]
  · rw [eq]
  · rw [eq, first?]

theorem first?_of_isAside {f : Forest} (aside : f.isAside = true) (target : List Char) :
    f.first? target = none := by
  induction f with
  | nil => rfl
  | text s rest ih => exact ih ((Bool.and_eq_true _ _).mp aside).2
  | comment s rest ih | instruction s rest ih => exact ih aside
  | cdata | single | element => cases aside

theorem marked_nil : Marked [] := fun _ first => by cases first

/-- White space is no byte order mark, and neither is markup. -/
theorem unmarked_of_blank {f : Forest} (wf : f.WellFormed)
    (blank : ∀ s rest, f = text s rest → s.all isSpace = true) {more : List Char}
    (marked : Marked more) : (f.source ++ more).head? ≠ some byteOrderMark := by
  intro first
  cases markup : f.isText with
  | false => exact absurd (marked_source markup marked _ first) (by decide)
  | true =>
    obtain ⟨s, rest, rfl⟩ : ∃ s rest, f = text s rest := by
      cases f with
      | text s rest => exact ⟨s, rest, rfl⟩
      | _ => cases markup
    obtain ⟨c, s, rfl⟩ := List.exists_cons_of_ne_nil wf.1
    cases first
    have space := List.all_eq_true.mp (blank _ rest rfl) byteOrderMark List.mem_cons_self
    exact absurd space (by decide)

theorem unmarked_of_isAside {f : Forest} (wf : f.WellFormed) (aside : f.isAside = true)
    {more : List Char} (marked : Marked more) : (f.source ++ more).head? ≠ some byteOrderMark := by
  refine unmarked_of_blank wf ?_ marked
  rintro s rest rfl
  exact ((Bool.and_eq_true _ _).mp aside).1

theorem unmarked_of_hasRoot {f : Forest} (wf : f.WellFormed) (root : f.hasRoot = true) :
    f.source.head? ≠ some byteOrderMark := by
  have unmarked := unmarked_of_blank wf (by
    rintro s rest rfl
    exact ((Bool.and_eq_true _ _).mp root).1) marked_nil
  rwa [List.append_nil] at unmarked

end Forest

namespace Document

open Forest (Marked)

variable {d : Document} {h : Heading}

theorem source_unmarked (unmarked : d.marked = false) :
    d.source = d.heading.elim [] Heading.source ++ d.body.source := by
  simp [source, unmarked]

section Heading

variable {seen left : List Char} (wf : d.WellFormed) (heading : d.heading = some h)
  (split : h.doctype.more ++ ['>'] = seen ++ '>' :: left)

include heading in
theorem source_of_heading (unmarked : d.marked = false) :
    d.source = h.before.source ++ (h.doctype.source ++ d.body.source) := by
  rw [source_unmarked unmarked, heading, Option.elim_some, Heading.source, List.append_assoc]

include split in
/-- A declaration with its root, as a reader sees it that takes what is left of the declaration for
text. -/
theorem declaration_eq :
    h.doctype.source ++ d.body.source =
      '<' :: (h.doctype.opening ++ (seen ++ '>' :: (d.body.withText left).source)) := by
  rw [Doctype.source_eq, split, Forest.withText_source]
  simp

theorem marked_declaration (d : Doctype) (more : List Char) : Marked (d.source ++ more) := by
  rw [Doctype.source_eq]
  intro c begins
  cases begins
  rfl

include wf heading in
theorem source_head (unmarked : d.marked = false) : d.source.head? ≠ some byteOrderMark := by
  obtain ⟨beforeWf, aside⟩ := wf.before h heading
  rw [source_of_heading heading unmarked]
  exact Forest.unmarked_of_isAside beforeWf aside (marked_declaration h.doctype d.body.source)

include wf heading split in
/-- The events of a document with a declaration that is seen whole. -/
theorem events_source (unmarked : d.marked = false) (first : BalancesFirst seen)
    (text : '<' ∉ left) :
    events d.source = h.before.tokens.map .ok ++
      .ok ⟨.doctype, '<' :: (h.doctype.opening ++ seen ++ ['>'])⟩ ::
        (d.body.withText left).tokens.map .ok := by
  obtain ⟨beforeWf, aside⟩ := wf.before h heading
  have restWf := Forest.withText_wellFormed text wf.body
  have source := source_of_heading heading unmarked
  -- The bound on the recursion is large enough for the events before, for one, and for the rest.
  obtain ⟨n, size⟩ : ∃ n, d.source.length + 1 =
      h.before.tokens.length + ((d.body.withText left).tokens.length + n + 1) := by
    have shortBefore := Forest.length_tokens_le beforeWf
    have shortRest := Forest.length_tokens_le restWf
    refine ⟨d.source.length + 1 -
      (h.before.tokens.length + ((d.body.withText left).tokens.length + 1)), ?_⟩
    have long : h.before.source.length + (d.body.withText left).source.length ≤
        d.source.length := by
      rw [source, declaration_eq split]
      simp
      omega
    omega
  have declaration : markup ((h.doctype.opening ++ (seen ++ ['>'])) ++
      (d.body.withText left).source) = ⟨.ok .doctype, h.doctype.opening ++ (seen ++ ['>']),
        (d.body.withText left).source⟩ := by
    simpa using Doctype.markup_doctype (wf.doctype h heading) first _
  have one := Forest.eventsFrom_markup [] ((d.body.withText left).tokens.length + n) declaration rfl
  have rest := Forest.eventsFrom_source restWf [] n Forest.marked_nil
  rw [List.append_nil, Forest.eventsFrom_nil, List.append_nil] at rest
  rw [events, Forest.dropMark_eq (source_head wf heading unmarked), size, source,
    Forest.eventsFrom_source beforeWf [] _ (marked_declaration h.doctype d.body.source),
    declaration_eq split]
  simp only [List.cons_append, List.append_assoc, List.nil_append] at one ⊢
  rw [one, rest]

end Heading

/-- In a document without a byte order mark, whose document type declaration is seen whole if it has
one, the element that is located is the first one with the name. -/
theorem locate_source (wf : d.WellFormed) (unmarked : d.marked = false)
    (whole : ∀ h ∈ d.heading, h.doctype.IsSeenWhole) (target : List Char) :
    locate d.source target =
      match d.body.first? target with
      | some node => .ok node.source
      | none => .error .notFound := by
  cases heading : d.heading with
  | none =>
    have source : d.source = d.body.source := by
      rw [source_unmarked unmarked, heading, Option.elim_none, List.nil_append]
    rw [source]
    exact Forest.locate_source wf.body (Forest.unmarked_of_hasRoot wf.body wf.root) target
  | some h =>
    obtain ⟨seen, left, split, first, text⟩ := whole h heading
    obtain ⟨beforeWf, aside⟩ := wf.before h heading
    obtain ⟨start, before⟩ := Forest.find_tokens beforeWf target 0
      (.ok ⟨.doctype, '<' :: (h.doctype.opening ++ seen ++ ['>'])⟩ ::
        (d.body.withText left).tokens.map .ok)
    rw [Forest.first?_of_isAside aside] at before
    dsimp only at before
    rw [Forest.find_flat (by simp) (by simp)] at before
    obtain ⟨_, rest⟩ := Forest.find_tokens (Forest.withText_wellFormed text wf.body) target
      (start + Utf8.octets ('<' :: (h.doctype.opening ++ seen ++ ['>']))) []
    rw [List.append_nil, Forest.first?_withText] at rest
    rw [Forest.locate_eq_found (source_head wf heading unmarked), events_source wf heading split
      unmarked first text, before, rest]
    rfl

end Document

end SoapGateway.Xml
