import SoapGateway.Proofs.Toml.Value

/-!
# Written documents are read back

A document with sections is read as what its lines write: every line is taken to its end, whatever
blanks and comments stand in it, and what the lines write one after the other are the members of the
document. No two texts for the same lines are told apart.
-/
namespace SoapGateway.Toml

variable {a b c t tail rest : List Char} {d d' : Draft} {k : String} {v : Value}

theorem skipBlanks_gap (gap : IsGap a) (stop : ∀ c ∈ rest.head?, isBlank c = false) :
    skipBlanks (a ++ rest) = rest := Text.dropWhile_run gap stop

theorem isGap_nil : IsGap [] := by simp [IsGap]

/-- A text with blanks before it begins with a blank or as it does without them. -/
theorem IsGap.head (gap : IsGap a) {P : Char → Prop} (blank : ∀ c, isBlank c = true → P c)
    (next : ∀ c ∈ rest.head?, P c) : ∀ c ∈ (a ++ rest).head?, P c := by
  cases a with
  | nil => exact next
  | cons e a =>
    intro c first
    obtain rfl : e = c := by simpa using first
    exact blank e (gap e List.mem_cons_self)

theorem isBlank_cases {c : Char} (blank : isBlank c = true) : c = ' ' ∨ c = '\t' := by
  simpa [isBlank] using blank

theorem not_isBare_of_isBlank (c : Char) (blank : isBlank c = true) : isBare c = false := by
  rcases isBlank_cases blank with rfl | rfl <;> rfl

theorem not_isBlank_of_isBare (c : Char) (bare : isBare c = true) : isBlank c = false := by
  rw [Bool.eq_false_iff]
  intro blank
  rw [not_isBare_of_isBlank c blank] at bare
  cases bare

/-! ## Names -/

theorem IsName.head (isName : IsName k t) :
    ∃ c u, t = c :: u ∧ (isBare c = true ∨ c = '"') := by
  cases isName with
  | bare some letters =>
    obtain ⟨c, u, rfl⟩ := List.exists_cons_of_ne_nil some
    exact ⟨c, u, rfl, .inl (letters c List.mem_cons_self)⟩
  | quoted writes => exact ⟨'"', _, rfl, .inr rfl⟩

/-- A name has a beginning of its own. -/
theorem IsName.head_ne (isName : IsName k t) {p : Char → Bool} (quote : p '"' = false)
    (bare : ∀ c, isBare c = true → p c = false) : ∀ c ∈ (t ++ rest).head?, p c = false := by
  obtain ⟨c, u, rfl, kind⟩ := isName.head
  intro e first
  obtain rfl : c = e := by simpa using first
  rcases kind with letter | rfl
  · exact bare c letter
  · exact quote

/-- Nothing else on a line begins like a name, nor does the mark of an encoding. -/
theorem IsName.foreign (isName : IsName k t) :
    ∀ c ∈ (t ++ rest).head?, c ∉ ['[', '#', '\n', '\r', '\uFEFF'] := by
  have table : ∀ c ∈ ['[', '#', '\n', '\r', '\uFEFF'], isBare c = false :=
    forall_listed (by decide)
  have letters (c : Char) (bare : isBare c = true) :
      decide (c ∈ ['[', '#', '\n', '\r', '\uFEFF']) = false := by
    rw [decide_eq_false_iff_not]
    intro sign
    rw [table c sign] at bare
    cases bare
  intro c first
  exact of_decide_eq_false (isName.head_ne rfl letters c first)

theorem keyPart_isName (isName : IsName k t) (stop : ∀ c ∈ rest.head?, isBare c = false) :
    ∃ part, keyPart (t ++ rest) = some (part, rest) ∧ String.ofList part = k := by
  cases isName with
  | bare some letters =>
    have letter {c : Char} {u : List Char} (shape : t ++ rest = c :: u) : isBare c = true := by
      obtain ⟨d, u', rfl⟩ := List.exists_cons_of_ne_nil some
      obtain ⟨rfl, -⟩ := List.cons.inj shape
      exact letters d List.mem_cons_self
    refine ⟨t, ?_, rfl⟩
    rw [keyPart, Text.takeWhile_run letters stop, Text.dropWhile_run letters stop, if_neg]
    · simpa using some
    · exact fun _ shape => absurd (letter shape) (by decide)
    · exact fun _ shape => absurd (letter shape) (by decide)
  | @quoted s u writes =>
    refine ⟨s, ?_, rfl⟩
    rw [List.append_assoc, List.cons_append, List.singleton_append, keyPart, basic_writes writes]

/-- A name and the blanks around it are read up to the sign behind them. -/
theorem key_isName (before : IsGap a) (isName : IsName k t) (after : IsGap b) {sign : Char}
    (known : sign ∈ ['=', ']']) :
    key (a ++ (t ++ (b ++ sign :: rest))) = some ([k], sign :: rest) := by
  have table : ∀ c ∈ ['=', ']'], isBlank c = false ∧ isBare c = false ∧ c ≠ '.' :=
    forall_listed (by decide)
  obtain ⟨solid, foreign, point⟩ := table sign known
  have stop : ∀ c ∈ (b ++ sign :: rest).head?, isBare c = false :=
    after.head not_isBare_of_isBlank (by simpa using foreign)
  obtain ⟨part, read, rfl⟩ := keyPart_isName isName stop
  have gap : skipBlanks (a ++ (t ++ (b ++ sign :: rest))) = t ++ (b ++ sign :: rest) :=
    skipBlanks_gap before (isName.head_ne (by decide) not_isBlank_of_isBare)
  have gap' : skipBlanks (b ++ sign :: rest) = sign :: rest :=
    skipBlanks_gap after (by simpa using solid)
  rw [key, keyFrom, gap, read]
  dsimp only
  rw [gap']
  split
  · next same => exact absurd (List.cons.inj same).1 point
  · rfl

/-! ## Values -/

theorem topValue_blank {c : Char} (blank : isBlank c = true) (s : List Char) :
    topValue (c :: s) = none := by
  rcases isBlank_cases blank with rfl | rfl
  · cases s <;> rfl
  · cases s <;> rfl

/-- A value does not begin with a blank. -/
theorem IsValue.solid (isValue : IsValue v t) : ∀ c ∈ (t ++ rest).head?, isBlank c = false := by
  have read : topValue t = some (v, []) := by
    have halts : Halts [] := by simp [Halts]
    rw [← topValue_isValue isValue halts, List.append_nil]
  cases t with
  | nil => cases read
  | cons c t =>
    intro e first
    obtain rfl : c = e := by simpa using first
    rw [Bool.eq_false_iff]
    intro blank
    rw [topValue_blank blank] at read
    cases read

theorem pair_written (isName : IsName k t) (before : IsGap a) (after : IsGap b)
    (isValue : IsValue v c) (halts : Halts rest) :
    pair topValue (t ++ (a ++ '=' :: (b ++ (c ++ rest)))) = some (([k], v), rest) := by
  have name : key ([] ++ (t ++ (a ++ '=' :: (b ++ (c ++ rest))))) = some ([k], '=' :: _) :=
    key_isName isGap_nil isName before (by simp)
  rw [List.nil_append] at name
  rw [pair, name]
  change (topValue (skipBlanks (b ++ (c ++ rest)))).map _ = _
  rw [skipBlanks_gap after isValue.solid, topValue_isValue isValue halts, Option.map_some]

/-! ## Ends of lines -/

theorem skipComment_remark (remark : IsRemark t) (stop : ∀ c ∈ rest.head?, c ∈ ['\n', '\r']) :
    skipComment (t ++ rest) = rest := by
  rcases remark with rfl | ⟨words, rfl, plain⟩
  · cases rest with
    | nil => rfl
    | cons c rest =>
      have newline := stop c rfl
      rw [List.nil_append, skipComment]
      intro _ same
      obtain ⟨rfl, -⟩ := List.cons.inj same
      exact absurd newline (by decide)
  · have control : ∀ c ∈ ['\n', '\r'], isPlain c = false := forall_listed (by decide)
    rw [List.cons_append, skipComment]
    exact Text.dropWhile_run plain fun c first => control c (stop c first)

/-- Apart from the blanks before it, the end of a line begins with a sign of its own. -/
theorem Ends.cut (ends : Ends tail rest) : ∃ gap u, tail ++ rest = gap ++ u ∧ IsGap gap ∧
    (∀ c ∈ u.head?, c ∈ ['#', '\n', '\r']) ∧ skipBlanks (gap ++ u) = u ∧ (u = [] → rest = []) ∧
    endLine? u = some rest := by
  obtain @⟨gap, words, newline, _, blank, remark, newlines⟩ := ends
  have stop : ∀ c ∈ (newline ++ rest).head?, c ∈ ['\n', '\r'] := by
    rcases newlines with rfl | rfl | ⟨rfl, rfl⟩ <;> simp
  have first : ∀ c ∈ (words ++ (newline ++ rest)).head?, c ∈ ['#', '\n', '\r'] := by
    rcases remark with rfl | ⟨_, rfl, -⟩
    · exact fun c first => List.mem_cons_of_mem _ (stop c first)
    · simp
  have table : ∀ c ∈ ['#', '\n', '\r'], isBlank c = false := forall_listed (by decide)
  have solid : ∀ c ∈ (words ++ (newline ++ rest)).head?, isBlank c = false :=
    fun c member => table c (first c member)
  have kept : skipBlanks (words ++ (newline ++ rest)) = words ++ (newline ++ rest) :=
    skipBlanks_gap isGap_nil solid
  refine ⟨gap, words ++ (newline ++ rest), by simp, blank, first, skipBlanks_gap blank solid,
    by simp, ?_⟩
  rw [endLine?, kept, skipComment_remark remark stop]
  rcases newlines with rfl | rfl | ⟨rfl, rfl⟩ <;> rfl

theorem Ends.halts (ends : Ends tail rest) : Halts (tail ++ rest) := by
  obtain ⟨gap, u, whole, blank, signs, -, -, -⟩ := ends.cut
  rw [whole]
  exact blank.head (fun _ => .inl) fun c first => .inr (signs c first)

/-- Blanks before the end of a line make no difference. -/
theorem endLine?_skipBlanks {s u : List Char} (skipped : skipBlanks s = u) :
    endLine? s = endLine? u := by
  have again : skipBlanks u = u := by
    rw [← skipped, skipBlanks, skipBlanks, List.dropWhile_idempotent]
  rw [endLine?, endLine?, skipped, again]

theorem endLine?_ends (ends : Ends tail rest) : endLine? (tail ++ rest) = some rest := by
  obtain ⟨gap, u, whole, -, -, skipped, -, read⟩ := ends.cut
  rw [whole, endLine?_skipBlanks skipped, read]

/-! ## Lines -/

/-- A line with nothing on it changes nothing. -/
theorem line_idle (ends : Ends tail rest) (d : Draft) : line d (tail ++ rest) = some (d, rest) := by
  obtain ⟨gap, u, whole, -, signs, skipped, empty, read⟩ := ends.cut
  rw [whole, line, skipped]
  cases u with
  | nil => rw [empty rfl]
  | cons c u =>
    have sign := signs c rfl
    split
    · next same =>
      obtain ⟨rfl, -⟩ := List.cons.inj same
      exact absurd sign (by decide)
    · next same =>
      obtain ⟨rfl, rfl⟩ := List.cons.inj same
      rw [if_pos (by simpa using sign), read, Option.map_some]
    · next same => cases same

/-- A line that begins like nothing else sets a key. -/
theorem line_key {s u : List Char} {e : Char} (skipped : skipBlanks s = e :: u)
    (foreign : e ∉ ['[', '#', '\n', '\r', '\uFEFF']) : line d s = keyLine d (e :: u) := by
  rw [line, skipped]
  split
  · next same =>
    obtain ⟨rfl, -⟩ := List.cons.inj same
    exact absurd (by simp) foreign
  · next same =>
    obtain ⟨rfl, rfl⟩ := List.cons.inj same
    rw [if_neg]
    rintro (rfl | rfl | rfl) <;> exact absurd foreign (by decide)
  · next same => cases same

theorem line_entry (indent : IsGap a) (isName : IsName k t) (before : IsGap b) (after : IsGap c)
    {value : List Char} (isValue : IsValue v value) (ends : Ends tail rest)
    (set : d.set [k] v = some d') :
    line d (a ++ t ++ b ++ '=' :: c ++ value ++ tail ++ rest) = some (d', rest) := by
  have pair := pair_written isName before after isValue ends.halts
  have skipped : skipBlanks (a ++ (t ++ (b ++ '=' :: (c ++ (value ++ (tail ++ rest)))))) = t ++ _ :=
    skipBlanks_gap indent (isName.head_ne (by decide) not_isBlank_of_isBare)
  obtain ⟨e, u, shape, -⟩ := isName.head
  have foreign : e ∉ ['[', '#', '\n', '\r', '\uFEFF'] :=
    @IsName.foreign _ rest _ isName e (by simp [shape])
  simp only [List.append_assoc, List.cons_append]
  rw [shape] at pair skipped ⊢
  rw [line_key skipped foreign]
  change keyLine d (e :: u ++ (b ++ '=' :: (c ++ (value ++ (tail ++ rest))))) = _
  rw [keyLine, pair]
  change ((endLine? (tail ++ rest)).bind _) = _
  rw [endLine?_ends ends]
  change ((d.set [k] v).map _) = _
  rw [set, Option.map_some]

/-- A header with single brackets opens the table that it names. -/
theorem headerLine_single {s : List Char} (single : '[' ∉ s.head?)
    (read : key s = some ([k], ']' :: (tail ++ rest))) (ends : Ends tail rest)
    (header : d.header false [k] = some d') : headerLine d s = some (d', rest) := by
  unfold headerLine
  split
  next bracket =>
  split at bracket
  · exact absurd rfl single
  · obtain ⟨rfl, rfl⟩ := Prod.mk.inj bracket
    dsimp only
    rw [read]
    change ((endLine? (tail ++ rest)).bind _) = _
    rw [endLine?_ends ends]
    change ((d.header false [k]).map _) = _
    rw [header, Option.map_some]

theorem line_header (indent : IsGap a) (before : IsGap b) (isName : IsName k t) (after : IsGap c)
    (ends : Ends tail rest) (header : d.header false [k] = some d') :
    line d (a ++ '[' :: b ++ t ++ c ++ ']' :: tail ++ rest) = some (d', rest) := by
  have skipped : skipBlanks (a ++ '[' :: (b ++ (t ++ (c ++ ']' :: (tail ++ rest))))) = '[' :: _ :=
    skipBlanks_gap indent (by simp [isBlank])
  simp only [List.append_assoc, List.cons_append]
  rw [line, skipped]
  apply headerLine_single _ (key_isName before isName after (by simp)) ends header
  have other : ∀ e ∈ (b ++ (t ++ (c ++ ']' :: (tail ++ rest)))).head?, e ≠ '[' := by
    refine before.head (P := (· ≠ '[')) ?_ ?_
    · rintro e blank rfl
      exact absurd blank (by decide)
    · rintro e first rfl
      exact absurd (isName.foreign '[' first) (by decide)
  exact fun first => other '[' first rfl

/-- What a line does to a document that has been read in part. -/
def Draft.write (d : Draft) : Line → Option Draft
  | .entry key v => d.set [key] v
  | .header name => d.header false [name]

theorem lines_next {s : List Char} (read : line d s = some (d', rest)) (solid : s ≠ [])
    (n : Nat) : lines (n + 1) d s = lines n d' rest := by
  obtain ⟨c, u, rfl⟩ := List.exists_cons_of_ne_nil solid
  rw [lines]
  · rw [read]
    rfl
  · simp

/-- Written lines are read one after the other, as what they write. -/
theorem lines_written {ls : List Line} {s : List Char} (written : Written ls s)
    (run : ls.foldlM Draft.write d = some d') {n : Nat} (enough : s.length < n) :
    lines n d s = some d' := by
  induction written generalizing d n with
  | nil =>
    obtain ⟨n, rfl⟩ : ∃ m, n = m + 1 := ⟨n - 1, by omega⟩
    exact run
  | @idle ls tail rest solid ends _ ih =>
    have shorter := List.length_pos_of_ne_nil solid
    rw [List.length_append] at enough
    obtain ⟨n, rfl⟩ : ∃ m, n = m + 1 := ⟨n - 1, by omega⟩
    rw [lines_next (line_idle ends d) (by simp [solid])]
    exact ih run (by omega)
  | entry indent isName before after isValue ends _ ih =>
    obtain ⟨between, set, run⟩ := Option.bind_eq_some_iff.mp run
    simp only [List.length_append, List.length_cons] at enough
    obtain ⟨n, rfl⟩ : ∃ m, n = m + 1 := ⟨n - 1, by omega⟩
    rw [lines_next (line_entry indent isName before after isValue ends set) (by simp)]
    exact ih run (by omega)
  | header indent before isName after ends _ ih =>
    obtain ⟨between, header, run⟩ := Option.bind_eq_some_iff.mp run
    simp only [List.length_append, List.length_cons] at enough
    obtain ⟨n, rfl⟩ : ∃ m, n = m + 1 := ⟨n - 1, by omega⟩
    rw [lines_next (line_header indent before isName after ends header) (by simp)]
    exact ih run (by omega)

/-- No written line begins with the mark of an encoding. -/
theorem Written.unmarked {ls : List Line} {s : List Char} (written : Written ls s) :
    dropMark s = s := by
  have blank (c : Char) (gap : isBlank c = true) : c ≠ '\uFEFF' := by
    rintro rfl
    exact absurd gap (by decide)
  have unmarked : ∀ c ∈ s.head?, c ≠ '\uFEFF' := by
    cases written with
    | nil => simp
    | idle _ ends =>
      obtain ⟨gap, u, whole, isGap, signs, -, -, -⟩ := ends.cut
      rw [whole]
      apply isGap.head blank
      rintro c first rfl
      exact absurd (signs _ first) (by decide)
    | entry indent isName =>
      simp only [List.append_assoc]
      apply indent.head blank
      rintro c first rfl
      exact absurd (isName.foreign _ first) (by decide)
    | header indent =>
      simp only [List.append_assoc]
      exact indent.head blank (by simp)
  unfold dropMark
  split
  · exact absurd rfl (unmarked '\uFEFF' rfl)
  · rfl

/-! ## Tables -/

theorem lookup_absent {α : Type} {members : List (String × α)}
    (absent : k ∉ members.map Prod.fst) : members.lookup k = none := by
  rw [List.lookup_eq_none_iff]
  intro m member
  rw [bne_iff_ne]
  rintro rfl
  exact absent (List.mem_map_of_mem member)

theorem change_last {members : Members} {node : Node} {f : Option Node → Option Node}
    (absent : k ∉ members.map Prod.fst) :
    Members.change k f (members ++ [(k, node)]) =
      (f (some node)).map fun node => members ++ [(k, node)] := by
  induction members with
  | nil => rw [List.nil_append, Members.change, if_pos rfl]; rfl
  | cons m members ih =>
    obtain ⟨other, absent⟩ := List.ne_and_not_mem_of_not_mem_cons absent
    rw [List.cons_append, Members.change, if_neg (Ne.symm other), ih absent, Option.map_map]
    rfl

theorem add_fresh {members : Members} {node : Node} (absent : k ∉ members.map Prod.fst) :
    Members.add k node members = some (members ++ [(k, node)]) := by
  rw [Members.add, if_neg]
  intro present
  obtain ⟨m, member, same⟩ := List.any_eq_true.mp present
  exact absent (List.mem_map.mpr ⟨m, member, beq_iff_eq.mp same⟩)

theorem set_fresh {members : Members} (absent : k ∉ members.map Prod.fst) (v : Value) :
    members.set [k] v = some (members ++ [(k, .value v)]) := add_fresh absent

/-- Entries as they stand in a table under construction. -/
def nodes (entries : List (String × Value)) : Members := entries.map fun m => (m.1, .value m.2)

theorem names_nodes (entries : List (String × Value)) :
    (nodes entries).map Prod.fst = entries.map Prod.fst := by
  rw [nodes, List.map_map]
  rfl

/-- A table under construction with its entries, under a header of its own. -/
def table (part : String × List (String × Value)) : String × Node :=
  (part.1, .table .header (nodes part.2))

variable {members : Members}

/-- Entries come to stand in the open table, wherever in the document that is. -/
theorem write_entries (within : Members → Draft)
    (grows : ∀ ms k v, k ∉ ms.map Prod.fst →
      (within ms).set [k] v = some (within (ms ++ [(k, .value v)])))
    (members : Members) {entries : List (String × Value)}
    (fresh : (members.map Prod.fst ++ entries.map Prod.fst).Nodup) :
    (entries.map fun m => Line.entry m.1 m.2).foldlM Draft.write (within members) =
      some (within (members ++ nodes entries)) := by
  induction entries generalizing members with
  | nil => simp [nodes]
  | cons m entries ih =>
    have absent : m.1 ∉ members.map Prod.fst := by
      intro present
      exact (List.nodup_append.mp fresh).2.2 _ present _ List.mem_cons_self rfl
    have fresh' : ((members ++ [(m.1, Node.value m.2)]).map Prod.fst ++
        entries.map Prod.fst).Nodup := by
      simpa using fresh
    rw [List.map_cons, List.foldlM_cons, Draft.write, grows members m.1 m.2 absent]
    change List.foldlM _ (within _) _ = _
    rw [ih _ fresh', nodes, nodes, List.map_cons, List.append_assoc, List.singleton_append]

theorem set_loose (absent : k ∉ members.map Prod.fst) (v : Value) :
    (Draft.mk members []).set [k] v = some ⟨members ++ [(k, .value v)], []⟩ := by
  rw [Draft.set, Members.descend, set_fresh absent]
  rfl

theorem set_within {name : String} {inner : Members} (last : name ∉ members.map Prod.fst)
    (absent : k ∉ inner.map Prod.fst) (v : Value) :
    (Draft.mk (members ++ [(name, .table .header inner)]) [name]).set [k] v =
      some ⟨members ++ [(name, .table .header (inner ++ [(k, .value v)]))], [name]⟩ := by
  rw [Draft.set, Members.descend, change_last last]
  dsimp only
  rw [if_neg (by simp), Members.descend, set_fresh absent]
  rfl

theorem header_fresh {path : List String} (absent : k ∉ members.map Prod.fst) :
    (Draft.mk members path).header false [k] =
      some ⟨members ++ [(k, .table .header [])], [k]⟩ := by
  have opened : members.openTable k = some (members ++ [(k, .table .header [])]) := by
    rw [Members.openTable, lookup_absent absent]
  change (members.openTable k).map _ = _
  rw [opened, Option.map_some]

/-- Sections come to stand behind one another as tables. -/
theorem write_sections (path : List String) {sections : List (String × List (String × Value))}
    (names : (members.map Prod.fst ++ sections.map Prod.fst).Nodup)
    (keys : ∀ part ∈ sections, (part.2.map Prod.fst).Nodup) :
    ∃ last, (sections.flatMap fun part =>
        .header part.1 :: part.2.map fun m => Line.entry m.1 m.2).foldlM Draft.write
          ⟨members, path⟩ = some ⟨members ++ sections.map table, last⟩ := by
  induction sections generalizing members path with
  | nil => exact ⟨path, by simp⟩
  | cons part sections ih =>
    obtain ⟨first, keys⟩ := List.forall_mem_cons.mp keys
    have absent : part.1 ∉ members.map Prod.fst := by
      intro present
      exact (List.nodup_append.mp names).2.2 _ present _ List.mem_cons_self rfl
    have names' : ((members ++ [table part]).map Prod.fst ++ sections.map Prod.fst).Nodup := by
      simpa [table] using names
    have filled := write_entries
      (fun inner => ⟨members ++ [(part.1, .table .header inner)], [part.1]⟩)
      (fun _ _ v absent' => set_within absent absent' v) [] (by simpa using first)
    obtain ⟨last, run⟩ := ih [part.1] names' keys
    refine ⟨last, ?_⟩
    rw [List.flatMap_cons, List.cons_append, List.foldlM_cons, Draft.write, header_fresh absent]
    change List.foldlM _ (Draft.mk (members ++ [(part.1, .table .header [])]) [part.1]) _ = _
    rw [List.foldlM_append, filled]
    change List.foldlM _ (Draft.mk (members ++ [table part]) [part.1]) _ = _
    rw [run, List.map_cons, List.append_assoc, List.singleton_append]

theorem toMembers_eq (members : Members) :
    Node.toMembers members = members.map fun m => (m.1, m.2.toValue) := by
  induction members with
  | nil => rw [Node.toMembers, List.map_nil]
  | cons m members ih => rw [Node.toMembers, ih, List.map_cons]

theorem toMembers_nodes (entries : List (String × Value)) :
    Node.toMembers (nodes entries) = entries := by
  rw [toMembers_eq, nodes, List.map_map]
  conv_rhs => rw [← List.map_id entries]
  exact List.map_congr_left fun m _ => by simp [Node.toValue]

/-- Whatever text is written for a document, it is read as the members of that document. -/
theorem document?_written {sheet : Sheet} (distinct : sheet.IsDistinct) {text : String}
    (written : Written sheet.lines text.toList) : document? text = some sheet.members := by
  have first : (sheet.loose.map Prod.fst).Nodup := (List.nodup_append.mp distinct.names).1
  have loose := write_entries (fun members => ⟨members, []⟩)
    (fun _ _ v absent => set_loose absent v) [] (by simpa using first)
  have names : ((nodes sheet.loose).map Prod.fst ++ sheet.sections.map Prod.fst).Nodup := by
    rw [names_nodes]
    exact distinct.names
  obtain ⟨last, run⟩ := write_sections [] names distinct.keys
  have whole : sheet.lines.foldlM Draft.write {} =
      some ⟨nodes sheet.loose ++ sheet.sections.map table, last⟩ := by
    rw [Sheet.lines, List.foldlM_append]
    change Option.bind (List.foldlM _ (Draft.mk [] []) _) _ = _
    rw [loose]
    exact run
  have parts : (sheet.sections.map table).map (fun m => (m.1, m.2.toValue)) =
      sheet.sections.map fun part => (part.1, .table part.2) := by
    rw [List.map_map]
    exact List.map_congr_left fun part _ => by simp [table, Node.toValue, toMembers_nodes]
  rw [document?, written.unmarked, lines_written written whole (Nat.lt_succ_self _),
    Option.map_some, toMembers_eq, List.map_append, ← toMembers_eq, toMembers_nodes, parts,
    Sheet.members]

end SoapGateway.Toml
