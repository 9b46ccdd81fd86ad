import SoapGateway.Xml.Forest
import Mathlib.Data.List.Basic

/-!
# Events of written documents

Reading a written document gives back its pieces, each with the text that it covers. The reader is
followed piece by piece: how it cuts tags and sections, and how it keeps account of open elements.
-/
namespace SoapGateway.Xml

theorem ne_of_isNameChar {c d : Char} (name : isNameChar c = true) (other : isNameChar d = false) :
    c ≠ d := by
  rintro rfl
  rw [name] at other
  cases other

theorem isSpace_cases {c : Char} (space : isSpace c = true) :
    c = ' ' ∨ c = '\t' ∨ c = '\r' ∨ c = '\n' := by
  simpa [isSpace, or_assoc] using space

theorem isSpace_of_isNameChar {c : Char} (name : isNameChar c = true) : isSpace c = false := by
  rw [← Bool.not_eq_true]
  intro space
  rcases isSpace_cases space with rfl | rfl | rfl | rfl <;> exact absurd name (by decide)

theorem isNameChar_of_isNameStart {c : Char} (start : isNameStart c = true) :
    isNameChar c = true := by
  simp [isNameChar, start]

/-- A name is a first character and more. -/
theorem isName_cases {s : List Char} (name : isName s = true) :
    ∃ c rest, s = c :: rest ∧ isNameStart c = true ∧ ∀ d ∈ s, isNameChar d = true := by
  cases s with
  | nil => cases name
  | cons c rest =>
    rw [isName, Bool.and_eq_true, List.all_eq_true] at name
    refine ⟨c, rest, rfl, name.1, fun d member => ?_⟩
    rcases List.mem_cons.mp member with rfl | member
    · exact isNameChar_of_isNameStart name.1
    · exact name.2 d member

/-- A name alone is a tag. -/
theorem Tag.wellFormed_name {s : List Char} (name : isName s = true) :
    ({ name := s } : Tag).WellFormed :=
  ⟨name, nofun, List.nodup_nil, rfl⟩

/-! Cutting tags. -/

/-- A text in which a tag does not end. -/
def Passes (u : List Char) : Prop :=
  ∀ acc rest, cutTag none acc (u ++ rest) = cutTag none (u.reverse ++ acc) rest

namespace Passes

theorem nil : Passes [] := fun _ _ => rfl

theorem append {u v : List Char} (first : Passes u) (second : Passes v) : Passes (u ++ v) := by
  intro acc rest
  rw [List.append_assoc, first, second, List.reverse_append, List.append_assoc]

theorem of_plain {u : List Char} (plain : ∀ c ∈ u, c ≠ '>' ∧ c ≠ '"' ∧ c ≠ '\'') : Passes u := by
  induction u with
  | nil => exact nil
  | cons c u ih =>
    intro acc rest
    obtain ⟨bracket, double, single⟩ := plain c (by simp)
    have step : cutTag none acc (c :: (u ++ rest)) = cutTag none (c :: acc) (u ++ rest) := by
      simp [cutTag, bracket, double, single]
    rw [List.cons_append, step, ih fun d member => plain d (by simp [member])]
    simp

theorem of_name {s : List Char} (name : isName s = true) : Passes s := by
  obtain ⟨_, _, _, _, chars⟩ := isName_cases name
  refine of_plain fun c member => ⟨?_, ?_, ?_⟩
  · exact ne_of_isNameChar (chars c member) (by decide)
  · exact ne_of_isNameChar (chars c member) (by decide)
  · exact ne_of_isNameChar (chars c member) (by decide)

theorem of_space {s : List Char} (space : s.all isSpace = true) : Passes s := by
  rw [List.all_eq_true] at space
  refine of_plain fun c member => ?_
  rcases isSpace_cases (space c member) with rfl | rfl | rfl | rfl <;> decide

/-- Nothing ends a tag between quotes. -/
theorem inside {q : Char} {v : List Char} (value : q ∉ v) (acc rest : List Char) :
    cutTag (some q) acc (v ++ q :: rest) = cutTag none (q :: v.reverse ++ acc) rest := by
  induction v generalizing acc with
  | nil => simp [cutTag]
  | cons c v ih =>
    rw [List.mem_cons, not_or] at value
    have step : cutTag (some q) acc (c :: (v ++ q :: rest)) =
        cutTag (some q) (c :: acc) (v ++ q :: rest) := by
      simp [cutTag, Ne.symm value.1]
    rw [List.cons_append, step, ih value.2]
    simp

theorem of_quoted {q : Char} {v : List Char} (quote : q = '"' ∨ q = '\'') (value : q ∉ v) :
    Passes (q :: v ++ [q]) := by
  intro acc rest
  have open_ : cutTag none acc (q :: (v ++ q :: rest)) =
      cutTag (some q) (q :: acc) (v ++ q :: rest) := by
    rcases quote with rfl | rfl <;> simp [cutTag]
  rw [List.append_assoc, List.cons_append, List.singleton_append, open_, inside value]
  simp

end Passes

theorem WrittenAttribute.WellFormed.passes {a : WrittenAttribute} (wf : a.WellFormed) :
    Passes a.source := by
  have equals : Passes ['='] := Passes.of_plain (by simp)
  have parts := ((((Passes.of_space wf.space).append (.of_name wf.name)).append
    (.of_space wf.before)).append equals).append
    ((Passes.of_space wf.after).append (.of_quoted wf.quote wf.value))
  simpa [WrittenAttribute.source] using parts

theorem Tag.WellFormed.passes {t : Tag} (wf : t.WellFormed) : Passes t.source := by
  have all : ∀ l : List WrittenAttribute, (∀ a ∈ l, a.WellFormed) →
      Passes (l.flatMap (·.source)) := by
    intro l each
    induction l with
    | nil => exact Passes.nil
    | cons a l ih =>
      rw [List.flatMap_cons]
      exact (each a (by simp)).passes.append (ih fun b member => each b (by simp [member]))
  exact ((Passes.of_name wf.name).append (all _ wf.attributes)).append (.of_space wf.space)

theorem cutTag_close (acc rest : List Char) :
    cutTag none acc ('>' :: rest) = some (acc.reverse, rest) := by
  simp [cutTag]

/-- A text that does not end in a slash. -/
def NoSlash (u : List Char) : Prop := u.getLast? ≠ some '/'

theorem NoSlash.append {u v : List Char} (first : NoSlash u) (second : NoSlash v) :
    NoSlash (u ++ v) := by
  intro last
  rw [List.getLast?_append, Option.or_eq_some_iff] at last
  rcases last with last | ⟨_, last⟩
  · exact second last
  · exact first last

theorem NoSlash.of_not_mem {u : List Char} (absent : '/' ∉ u) : NoSlash u :=
  fun last => absent (List.mem_of_getLast? last)

theorem NoSlash.of_space {s : List Char} (space : s.all isSpace = true) : NoSlash s :=
  .of_not_mem fun member => absurd (List.all_eq_true.mp space _ member) (by decide)

theorem WrittenAttribute.WellFormed.noSlash {a : WrittenAttribute} (wf : a.WellFormed) :
    NoSlash a.source := by
  have closed : a.source.getLast? = some a.quote := by
    rw [source, List.getLast?_append, List.getLast?_singleton, Option.some_or]
  intro last
  rw [closed, Option.some.injEq] at last
  rcases wf.quote with quote | quote <;> exact absurd (quote ▸ last) (by decide)

/-- A tag does not end in a slash, or it would be one that is closed at once. -/
theorem Tag.WellFormed.noSlash {t : Tag} (wf : t.WellFormed) : NoSlash t.source := by
  obtain ⟨_, _, _, _, chars⟩ := isName_cases wf.name
  have name : NoSlash t.name :=
    .of_not_mem fun member => ne_of_isNameChar (chars _ member) (by decide) rfl
  have all : ∀ l : List WrittenAttribute, (∀ a ∈ l, a.WellFormed) →
      NoSlash (l.flatMap (·.source)) := by
    intro l each
    induction l with
    | nil => exact .of_not_mem (by simp)
    | cons a l ih =>
      rw [List.flatMap_cons]
      exact (each a (by simp)).noSlash.append (ih fun b member => each b (by simp [member]))
  exact (name.append (all _ wf.attributes)).append (.of_space wf.space)

theorem markup_tag {c : Char} {s : List Char} (bang : c ≠ '!') (stop : c ≠ '/')
    (instruction : c ≠ '?') :
    markup (c :: s) = match cutTag none [] (c :: s) with
      | none => sawFault .unclosedTag (c :: s) []
      | some (content, rest) =>
        if content.getLast? = some '/' then
          ⟨.ok (.empty content.dropLast), content ++ ['>'], rest⟩
        else ⟨.ok (.start content), content ++ ['>'], rest⟩ := by
  unfold markup
  split
  · next eq => cases eq
  · next eq =>
    cases eq
    exact absurd rfl bang
  · next eq =>
    cases eq
    exact absurd rfl stop
  · next eq =>
    cases eq
    exact absurd rfl instruction
  · rfl

theorem markup_of_start {c : Char} {s : List Char} (start : isNameStart c = true) :
    markup (c :: s) = match cutTag none [] (c :: s) with
      | none => sawFault .unclosedTag (c :: s) []
      | some (content, rest) =>
        if content.getLast? = some '/' then
          ⟨.ok (.empty content.dropLast), content ++ ['>'], rest⟩
        else ⟨.ok (.start content), content ++ ['>'], rest⟩ := by
  have other {d : Char} (no : isNameStart d = false) : c ≠ d := by
    rintro rfl
    rw [start] at no
    cases no
  exact markup_tag (other (by decide)) (other (by decide)) (other (by decide))

theorem Tag.WellFormed.source_cases {t : Tag} (wf : t.WellFormed) :
    ∃ c s, t.source = c :: s ∧ isNameStart c = true := by
  obtain ⟨c, rest, name, start, _⟩ := isName_cases wf.name
  exact ⟨c, _, by rw [Tag.source, name]; rfl, start⟩

theorem markup_start {t : Tag} (wf : t.WellFormed) (rest : List Char) :
    markup (t.source ++ '>' :: rest) = ⟨.ok (.start t.source), t.source ++ ['>'], rest⟩ := by
  obtain ⟨c, s, eq, start⟩ := wf.source_cases
  have cut := wf.passes [] ('>' :: rest)
  rw [cutTag_close, List.append_nil, List.reverse_reverse] at cut
  have last : t.source.getLast? ≠ some '/' := wf.noSlash
  rw [eq] at cut last ⊢
  rw [List.cons_append] at cut ⊢
  rw [markup_of_start start, cut]
  exact if_neg last

theorem markup_single {t : Tag} (wf : t.WellFormed) (rest : List Char) :
    markup (t.source ++ ['/', '>'] ++ rest) =
      ⟨.ok (.empty t.source), t.source ++ ['/', '>'], rest⟩ := by
  obtain ⟨c, s, eq, start⟩ := wf.source_cases
  have cut := (wf.passes.append (.of_plain (u := ['/']) (by simp))) [] ('>' :: rest)
  rw [cutTag_close, List.append_nil, List.reverse_reverse] at cut
  have shape : t.source ++ ['/', '>'] ++ rest = t.source ++ ['/'] ++ '>' :: rest := by simp
  have last : (t.source ++ ['/']).getLast? = some '/' := by
    rw [List.getLast?_append, List.getLast?_singleton, Option.some_or]
  have whole : t.source ++ ['/'] ++ ['>'] = t.source ++ ['/', '>'] := by simp
  have read : markup (t.source ++ ['/'] ++ '>' :: rest) =
      ⟨.ok (.empty (t.source ++ ['/']).dropLast), t.source ++ ['/'] ++ ['>'], rest⟩ := by
    rw [eq] at cut last ⊢
    simp only [List.cons_append] at cut last ⊢
    rw [markup_of_start start, cut]
    exact if_pos last
  rw [shape, read, List.dropLast_concat, whole]

theorem trimRight_name {s space : List Char} (name : isName s = true)
    (blank : space.all isSpace = true) :
    ((s ++ space).reverse.dropWhile isSpace).reverse = s := by
  obtain ⟨_, _, _, _, chars⟩ := isName_cases name
  rw [List.all_eq_true] at blank
  have last : s.reverse.dropWhile isSpace = s.reverse := by
    cases eq : s.reverse with
    | nil => rfl
    | cons d rest =>
      have member : d ∈ s := by rw [← List.mem_reverse, eq]; simp
      rw [List.dropWhile_cons, isSpace_of_isNameChar (chars d member)]
      rfl
  rw [List.reverse_append, List.dropWhile_append_of_pos (fun c member =>
    blank c (List.mem_reverse.mp member)), last, List.reverse_reverse]

theorem markup_stop {s space : List Char} (name : isName s = true)
    (blank : space.all isSpace = true) (rest : List Char) :
    markup ('/' :: s ++ space ++ '>' :: rest) =
      ⟨.ok (.stop s), '/' :: s ++ space ++ ['>'], rest⟩ := by
  have passes := ((Passes.of_plain (u := ['/']) (by simp)).append (.of_name name)).append
    (.of_space blank)
  have cut := passes [] ('>' :: rest)
  rw [cutTag_close, List.append_nil, List.reverse_reverse] at cut
  have trimmed := trimRight_name name blank
  have full : s.isEmpty = false := by
    obtain ⟨c, tail, rfl, _, _⟩ := isName_cases name
    rfl
  simp only [List.cons_append, List.nil_append] at cut ⊢
  unfold markup
  simp only [cut, List.drop_one, List.tail_cons, trimmed, full, Bool.false_eq_true, if_false,
    List.cons_append]

/-! Cutting sections. -/

theorem cutWhere_skip {closes : List Char → Bool} {p : List Char} (plain : '>' ∉ p)
    (acc rest : List Char) :
    cutWhere closes acc (p ++ rest) = cutWhere closes (p.reverse ++ acc) rest := by
  induction p generalizing acc with
  | nil => rfl
  | cons c p ih =>
    rw [List.mem_cons, not_or] at plain
    rw [List.cons_append, cutWhere, if_neg (fun h => plain.1 h.1.symm), ih plain.2]
    simp

/-- A section is cut at the first bracket that closes it. -/
theorem cutWhere_append {closes : List Char → Bool} {s acc rest : List Char}
    (inside : ∀ u v, s = u ++ '>' :: v → closes (u.reverse ++ acc) = false)
    (closed : closes (s.reverse ++ acc) = true) :
    cutWhere closes acc (s ++ '>' :: rest) = some (acc.reverse ++ s, rest) := by
  induction s generalizing acc with
  | nil =>
    rw [List.reverse_nil, List.nil_append] at closed
    simp [cutWhere, closed]
  | cons c s ih =>
    have first : ¬ (c = '>' ∧ closes acc = true) := by
      rintro ⟨rfl, closes⟩
      have early := inside [] s rfl
      rw [List.reverse_nil, List.nil_append, closes] at early
      cases early
    rw [List.cons_append, cutWhere, if_neg first, ih]
    · simp
    · intro u v eq
      have later := inside (c :: u) v (by rw [eq]; rfl)
      simpa using later
    · simpa using closed

/-- A character that is not in the second part of a text is in the first. -/
theorem split_left {c : Char} {s t u v : List Char} (absent : c ∉ t) (eq : s ++ t = u ++ c :: v) :
    ∃ v', s = u ++ c :: v' := by
  rcases List.append_eq_append_iff.mp eq with ⟨w, _, rest⟩ | ⟨w, first, rest⟩
  · exact absurd (by rw [rest]; simp) absent
  · cases w with
    | nil => exact absurd (by rw [← List.nil_append t, ← rest]; simp) absent
    | cons d w =>
      rw [List.cons_append, List.cons.injEq] at rest
      exact ⟨w, by rw [first, ← rest.1]⟩

/-- How a section between an opening `p` and a closing `q` is cut. -/
theorem cutWhere_section {closes : List Char → Bool} {p q s rest : List Char} (opening : '>' ∉ p)
    (closing : '>' ∉ q)
    (inside : ∀ u v, s = u ++ '>' :: v → closes (u.reverse ++ p.reverse) = false)
    (closed : closes ((s ++ q).reverse ++ p.reverse) = true) :
    cutWhere closes [] (p ++ (s ++ q) ++ '>' :: rest) = some (p ++ (s ++ q), rest) := by
  have cut : cutWhere closes p.reverse (s ++ q ++ '>' :: rest) =
      some (p.reverse.reverse ++ (s ++ q), rest) := by
    refine cutWhere_append (fun u v eq => ?_) closed
    obtain ⟨v', eq'⟩ := split_left closing eq
    exact inside u v' eq'
  rw [List.append_assoc, cutWhere_skip opening, List.append_nil, cut, List.reverse_reverse]

theorem markup_cdata {s : List Char} (inside : ¬ "]]>".toList <:+: s) (rest : List Char) :
    markup ((cdataSource s).tail ++ rest) = ⟨.ok (.cdata s), (cdataSource s).tail, rest⟩ := by
  have cut : cutWhere closesCdata []
      ("![CDATA[".toList ++ (s ++ [']', ']']) ++ '>' :: rest) =
      some ("![CDATA[".toList ++ (s ++ [']', ']']), rest) := by
    refine cutWhere_section (by decide) (by decide) (fun u v eq => ?_) (by simp [closesCdata])
    rcases u.eq_nil_or_concat with rfl | ⟨u, b, rfl⟩
    · decide
    · rcases u.eq_nil_or_concat with rfl | ⟨u, a, rfl⟩
      · simp [closesCdata]
      · rw [← Bool.not_eq_true]
        intro closes
        simp [closesCdata] at closes
        obtain ⟨rfl, rfl⟩ := closes
        exact inside ⟨u, v, by rw [eq]; simp⟩
  have taken : ("![CDATA[".toList ++ (s ++ [']', ']'])).take 8 = "![CDATA[".toList :=
    List.take_left' (by decide)
  have dropped : ("![CDATA[".toList ++ (s ++ [']', ']'])).drop 8 = s ++ [']', ']'] :=
    List.drop_left' (by decide)
  have content : (("![CDATA[".toList ++ (s ++ [']', ']'])).drop 8).take
      (("![CDATA[".toList ++ (s ++ [']', ']'])).length - 10) = s := by
    rw [dropped]
    exact List.take_left' (by simp)
  have read : bang ("![CDATA[".toList ++ (s ++ [']', ']']) ++ '>' :: rest) =
      ⟨.ok (.cdata s), "![CDATA[".toList ++ (s ++ [']', ']']) ++ ['>'], rest⟩ := by
    unfold bang
    rw [cut]
    dsimp only [String.toList_ofList]
    rw [if_pos taken, content]
    rfl
  have shape : (cdataSource s).tail ++ rest =
      "![CDATA[".toList ++ (s ++ [']', ']']) ++ '>' :: rest := by simp [cdataSource]
  have whole : (cdataSource s).tail = "![CDATA[".toList ++ (s ++ [']', ']']) ++ ['>'] := by
    simp [cdataSource]
  rw [shape, whole]
  exact read

theorem markup_comment {s : List Char} (inside : ¬ "--".toList <:+: s) (rest : List Char) :
    markup ((commentSource s).tail ++ rest) = ⟨.ok .aside, (commentSource s).tail, rest⟩ := by
  have cut : cutWhere closesComment [] ("!--".toList ++ (s ++ ['-', '-']) ++ '>' :: rest) =
      some ("!--".toList ++ (s ++ ['-', '-']), rest) := by
    refine cutWhere_section (by decide) (by decide) (fun u v eq => ?_) (by simp [closesComment])
    rcases u.eq_nil_or_concat with rfl | ⟨u, b, rfl⟩
    · decide
    · rcases u.eq_nil_or_concat with rfl | ⟨u, a, rfl⟩
      · simp [closesComment]
      · rw [← Bool.not_eq_true]
        intro closes
        simp [closesComment] at closes
        obtain ⟨rfl, rfl⟩ := closes
        exact inside ⟨u, '>' :: v, by rw [eq]; simp⟩
  have taken : ("!--".toList ++ (s ++ ['-', '-'])).take 3 = "!--".toList :=
    List.take_left' (by decide)
  have read : bang ("!--".toList ++ (s ++ ['-', '-']) ++ '>' :: rest) =
      ⟨.ok .aside, "!--".toList ++ (s ++ ['-', '-']) ++ ['>'], rest⟩ := by
    unfold bang
    rw [cut]
    dsimp only [String.toList_ofList]
    rw [if_pos taken]
    rfl
  have shape : (commentSource s).tail ++ rest =
      "!--".toList ++ (s ++ ['-', '-']) ++ '>' :: rest := by simp [commentSource]
  have whole : (commentSource s).tail = "!--".toList ++ (s ++ ['-', '-']) ++ ['>'] := by
    simp [commentSource]
  rw [shape, whole]
  exact read

theorem markup_instruction {s : List Char} (start : s.head?.any isNameStart = true)
    (inside : ¬ "?>".toList <:+: s) (rest : List Char) :
    markup ((instructionSource s).tail ++ rest) =
      ⟨.ok .aside, (instructionSource s).tail, rest⟩ := by
  have cut : cutWhere closesInstruction [] (['?'] ++ (s ++ ['?']) ++ '>' :: rest) =
      some (['?'] ++ (s ++ ['?']), rest) := by
    refine cutWhere_section (by decide) (by decide) (fun u v eq => ?_) (by simp [closesInstruction])
    rcases u.eq_nil_or_concat with rfl | ⟨u, b, rfl⟩
    · rw [eq] at start
      have bracket : isNameStart '>' = true := start
      exact absurd bracket (by decide)
    · rw [← Bool.not_eq_true]
      intro closes
      simp [closesInstruction] at closes
      subst closes
      exact inside ⟨u, v, by rw [eq]; simp⟩
  have long : 1 < ('?' :: (s ++ ['?'])).length := by simp
  have shape : (instructionSource s).tail ++ rest = '?' :: (s ++ ['?'] ++ '>' :: rest) := by
    simp [instructionSource]
  have whole : (instructionSource s).tail = '?' :: (s ++ ['?']) ++ ['>'] := by
    simp [instructionSource]
  rw [shape, whole]
  simp only [List.cons_append, List.nil_append] at cut
  unfold markup
  simp only [cut, long, if_true]

/-! Following a whole document. -/

namespace Forest

/-- The pieces of a document, each with the text that it covers. -/
def tokens : Forest → List Token
  | nil => []
  | text s rest => ⟨.text s, s⟩ :: rest.tokens
  | cdata s rest => ⟨.cdata s, cdataSource s⟩ :: rest.tokens
  | comment s rest => ⟨.aside, commentSource s⟩ :: rest.tokens
  | instruction s rest => ⟨.aside, instructionSource s⟩ :: rest.tokens
  | single tag rest => ⟨.empty tag.source, tag.closed⟩ :: rest.tokens
  | element tag inner space rest =>
    ⟨.start tag.source, tag.opening⟩ :: inner.tokens ++
      ⟨.stop tag.name, tag.closing space⟩ :: rest.tokens

/-- A text that is empty or begins with markup. -/
def Marked (s : List Char) : Prop := ∀ c ∈ s.head?, c = '<'

theorem marked_source {f : Forest} {more : List Char} (fresh : f.isText = false)
    (marked : Marked more) : Marked (f.source ++ more) := by
  cases f with
  | nil => exact marked
  | text => cases fresh
  | _ =>
    intro c first
    cases first
    rfl

theorem eventsFrom_text {s more : List Char} (names : List (List Char)) (n : Nat)
    (full : s ≠ []) (plain : '<' ∉ s) (marked : Marked more) :
    eventsFrom names (n + 1) (s ++ more) = .ok ⟨.text s, s⟩ :: eventsFrom names n more := by
  cases s with
  | nil => exact absurd rfl full
  | cons c s =>
    rw [List.mem_cons, not_or] at plain
    have inside : ∀ d ∈ s, (d != '<') = true := fun d member => by
      simp only [bne_iff_ne, ne_eq]
      rintro rfl
      exact plain.2 member
    have stops : more.takeWhile (· != '<') = [] ∧ more.dropWhile (· != '<') = more := by
      cases more with
      | nil => exact ⟨rfl, rfl⟩
      | cons d more =>
        obtain rfl : d = '<' := marked d rfl
        exact ⟨rfl, rfl⟩
    rw [List.cons_append, eventsFrom, if_neg (Ne.symm plain.1)]
    simp only [List.takeWhile_append_of_pos inside, List.dropWhile_append_of_pos inside, stops.1,
      stops.2, List.append_nil]

/-- Markup that is read as one event, which opens and closes no element. -/
theorem eventsFrom_markup {s read more : List Char} {e : Event} (names : List (List Char)) (n : Nat)
    (one : markup (s ++ more) = ⟨.ok e, read, more⟩) (flat : nest names e = (.ok e, names)) :
    eventsFrom names (n + 1) ('<' :: s ++ more) =
      .ok ⟨e, '<' :: read⟩ :: eventsFrom names n more := by
  rw [List.cons_append, eventsFrom, if_pos rfl]
  simp only [one, flat]

theorem tagName_source {t : Tag} (wf : t.WellFormed) : tagName t.source = t.name := by
  obtain ⟨_, _, _, _, chars⟩ := isName_cases wf.name
  have name : ∀ c ∈ t.name, (!isSpace c) = true := fun c member => by
    rw [isSpace_of_isNameChar (chars c member)]
    rfl
  have after :
      (t.attributes.flatMap (·.source) ++ t.space).takeWhile (fun c => !isSpace c) = [] := by
    have blank : ∀ c s, isSpace c = true → (c :: s).takeWhile (fun c => !isSpace c) = [] := by
      intro c s space
      rw [List.takeWhile_cons, space]
      rfl
    cases attributes : t.attributes with
    | nil =>
      cases space : t.space with
      | nil => rfl
      | cons c s =>
        exact blank c s (List.all_eq_true.mp wf.space c (space ▸ List.mem_cons_self))
    | cons a l =>
      have wfA := wf.attributes a (attributes ▸ List.mem_cons_self)
      cases space : a.space with
      | nil => exact absurd space wfA.apart
      | cons c s =>
        have first := List.all_eq_true.mp wfA.space c (by rw [space]; simp)
        simp only [List.flatMap_cons, WrittenAttribute.source, space, List.cons_append]
        exact blank c _ first
  rw [tagName, Tag.source, List.append_assoc, List.takeWhile_append_of_pos name, after,
    List.append_nil]

theorem eventsFrom_element {t : Tag} {inner space : List Char} {ts : List Token} {k : Nat}
    (wf : t.WellFormed) (blank : space.all isSpace = true) (names : List (List Char)) (n : Nat)
    (more : List Char)
    (inside : ∀ n more, Marked more → eventsFrom (t.name :: names) (k + n) (inner ++ more) =
      ts.map .ok ++ eventsFrom (t.name :: names) n more) :
    eventsFrom names (k + n + 2) (t.opening ++ inner ++ t.closing space ++ more) =
      .ok ⟨.start t.source, t.opening⟩ :: ts.map .ok ++
        .ok ⟨.stop t.name, t.closing space⟩ :: eventsFrom names n more := by
  have marked : Marked (t.closing space ++ more) := by
    intro c first
    cases first
    rfl
  have start := markup_start wf (inner ++ (t.closing space ++ more))
  have stop : markup ('/' :: t.name ++ space ++ '>' :: more) = _ := markup_stop wf.name blank more
  have ending : eventsFrom (t.name :: names) (n + 1) (t.closing space ++ more) =
      .ok ⟨.stop t.name, t.closing space⟩ :: eventsFrom names n more := by
    have shape : t.closing space ++ more = '<' :: ('/' :: t.name ++ space ++ '>' :: more) := by
      simp [Tag.closing]
    rw [shape, eventsFrom, if_pos rfl]
    simp only [stop, nest, if_true]
    simp [Tag.closing]
  have shape : t.opening ++ inner ++ t.closing space ++ more =
      '<' :: (t.source ++ '>' :: (inner ++ (t.closing space ++ more))) := by simp [Tag.opening]
  rw [shape, eventsFrom, if_pos rfl]
  simp only [start, nest, tagName_source wf]
  rw [Nat.add_assoc, inside (n + 1) _ marked, ending]
  simp [Tag.opening]

/-- The events of a written document are its pieces, wherever it stands. -/
theorem eventsFrom_source {f : Forest} (wf : f.WellFormed) (names : List (List Char)) (n : Nat)
    {more : List Char} (marked : Marked more) :
    eventsFrom names (f.tokens.length + n) (f.source ++ more) =
      f.tokens.map .ok ++ eventsFrom names n more := by
  induction f generalizing names n more with
  | nil => simp [tokens, source]
  | text s rest ih =>
    obtain ⟨full, plain, fresh, wf⟩ := wf
    have after := eventsFrom_text names (rest.tokens.length + n) full plain
      (marked_source fresh marked)
    rw [ih wf names n marked] at after
    rw [source, List.append_assoc, tokens, List.length_cons, Nat.add_right_comm, after]
    rfl
  | cdata s rest ih =>
    obtain ⟨inside, wf⟩ := wf
    have after := eventsFrom_markup names (rest.tokens.length + n)
      (markup_cdata inside (rest.source ++ more)) rfl
    rw [ih wf names n marked] at after
    rw [source, List.append_assoc, tokens, List.length_cons, Nat.add_right_comm]
    exact after
  | comment s rest ih =>
    obtain ⟨inside, _, wf⟩ := wf
    have after := eventsFrom_markup names (rest.tokens.length + n)
      (markup_comment inside (rest.source ++ more)) rfl
    rw [ih wf names n marked] at after
    rw [source, List.append_assoc, tokens, List.length_cons, Nat.add_right_comm]
    exact after
  | instruction s rest ih =>
    obtain ⟨start, inside, wf⟩ := wf
    have after := eventsFrom_markup names (rest.tokens.length + n)
      (markup_instruction start inside (rest.source ++ more)) rfl
    rw [ih wf names n marked] at after
    rw [source, List.append_assoc, tokens, List.length_cons, Nat.add_right_comm]
    exact after
  | single tag rest ih =>
    obtain ⟨tagWf, wf⟩ := wf
    have after := eventsFrom_markup names (rest.tokens.length + n)
      (markup_single tagWf (rest.source ++ more)) rfl
    rw [ih wf names n marked] at after
    rw [source, List.append_assoc, tokens, List.length_cons, Nat.add_right_comm]
    exact after
  | element tag inner space rest ihInner ihRest =>
    obtain ⟨tagWf, innerWf, blank, wf⟩ := wf
    have after := eventsFrom_element tagWf blank names (rest.tokens.length + n)
      (rest.source ++ more) fun n more marked => ihInner innerWf (tag.name :: names) n marked
    rw [ihRest wf names n marked] at after
    have size : (tokens (element tag inner space rest)).length + n =
        inner.tokens.length + (rest.tokens.length + n) + 2 := by
      simp only [tokens, List.length_append, List.length_cons]
      omega
    rw [size, source, List.append_assoc, after]
    simp [tokens]

/-- Every piece covers a character at least. -/
theorem length_tokens_le {f : Forest} (wf : f.WellFormed) :
    f.tokens.length ≤ f.source.length := by
  induction f with
  | nil => exact Nat.le_refl 0
  | text s rest ih =>
    have long := List.length_pos_iff.mpr wf.1
    have more := ih wf.2.2.2
    simp only [tokens, source, List.length_cons, List.length_append]
    omega
  | cdata s rest ih =>
    have more := ih wf.2
    simp only [tokens, source, cdataSource, List.length_cons, List.length_append]
    omega
  | comment s rest ih =>
    have more := ih wf.2.2
    simp only [tokens, source, commentSource, List.length_cons, List.length_append]
    omega
  | instruction s rest ih =>
    have more := ih wf.2.2
    simp only [tokens, source, instructionSource, List.length_cons, List.length_append]
    omega
  | single tag rest ih =>
    have more := ih wf.2
    simp only [tokens, source, Tag.closed, List.length_cons, List.length_append]
    omega
  | element tag inner space rest ihInner ihRest =>
    have inside := ihInner wf.2.1
    have more := ihRest wf.2.2.2
    simp only [tokens, source, Tag.opening, Tag.closing, List.length_cons, List.length_append]
    omega

theorem eventsFrom_nil (names : List (List Char)) (n : Nat) : eventsFrom names n [] = [] := by
  cases n <;> rfl

theorem dropMark_eq {s : List Char} (unmarked : s.head? ≠ some byteOrderMark) : dropMark s = s := by
  cases s with
  | nil => rfl
  | cons c s =>
    rw [dropMark, if_neg]
    rintro rfl
    exact unmarked rfl

/-- The events of a written document without a byte order mark are its pieces. -/
theorem events_source {f : Forest} (wf : f.WellFormed)
    (unmarked : f.source.head? ≠ some byteOrderMark) : events f.source = f.tokens.map .ok := by
  obtain ⟨n, size⟩ := Nat.exists_eq_add_of_le (length_tokens_le wf)
  have marked : Marked [] := fun _ first => by cases first
  have read := eventsFrom_source wf [] (n + 1) marked
  rw [List.append_nil, eventsFrom_nil, List.append_nil] at read
  rw [events, dropMark_eq unmarked, size, Nat.add_assoc, read]

/-- A document that begins with markup does not begin with a byte order mark. -/
theorem unmarked_of_markup {f : Forest} (markup : f.isText = false) :
    f.source.head? ≠ some byteOrderMark := by
  intro first
  have nothing : Marked [] := fun _ none => by cases none
  have marked := marked_source markup nothing
  rw [List.append_nil] at marked
  exact absurd (marked _ first) (by decide)

end Forest

end SoapGateway.Xml
