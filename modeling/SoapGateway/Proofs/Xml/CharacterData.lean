import SoapGateway.Proofs.Xml.Pieces

/-!
# Character data

What is read of a run of texts is what its pieces say, with their references replaced one by one,
but for white space around the run. So the text of an element is its character data.
-/
namespace SoapGateway.Xml.Outline

open Cursor (trimEnd)
open Text (trimBy trimBy_left trimBy_right)

variable {trim : Bool}

/-- What is stripped of the end of a text is left out of what it reads as. -/
theorem unescape_trimEnd {last : Bool} {s u : List Char}
    (reads : unescape (trimEnd last s) = .ok u) :
    ∃ gap, (∀ c ∈ gap, isSpace c = true) ∧ (last = false → gap = []) ∧
      unescape s = .ok (u ++ gap) := by
  cases last with
  | false => exact ⟨[], by simp, fun _ => rfl, by rw [List.append_nil]; exact reads⟩
  | true =>
    have blank : ∀ c ∈ s.rtakeWhile isSpace, isSpace c = true :=
      fun c member => List.mem_rtakeWhile_imp member
    refine ⟨s.rtakeWhile isSpace, blank, nofun, unescape_iff.mpr ?_⟩
    have whole := (unescape_iff.mp reads).append (reads_space blank)
    have split : trimEnd true s ++ s.rtakeWhile isSpace = s :=
      List.rdropWhile_append_rtakeWhile
    rwa [split] at whole

/-- White space at the beginning of a text is part of what it says. -/
theorem data_gap {gap s w : List Char} {rest : Outline} (blank : ∀ c ∈ gap, isSpace c = true)
    (data : (text s rest).data = .ok w) : (text (gap ++ s) rest).data = .ok (gap ++ w) := by
  rw [Outline.data] at data ⊢
  split at data
  · cases data
  · next u reads =>
    obtain ⟨more, later, rfl⟩ := map_eq_ok data
    have whole := (reads_space blank).append (unescape_iff.mp reads)
    rw [unescape_iff.mpr whole, later]
    simp [Except.map]

/-- A text is stripped of its end only where its run ends. -/
theorem data_text {s u more gap v : List Char} {rest left : Outline}
    (reads : unescape (trimEnd rest.endsText s) = .ok u) (run : rest.run = .ok (more, left))
    (blank : ∀ c ∈ gap, isSpace c = true) (later : rest.data = .ok (more ++ gap ++ v)) :
    ∃ gap', (∀ c ∈ gap', isSpace c = true) ∧
      (text s rest).data = .ok (u ++ more ++ gap' ++ v) := by
  obtain ⟨last, blankLast, none, whole⟩ := unescape_trimEnd reads
  rw [Outline.data, whole, later]
  cases ends : rest.endsText with
  | false =>
    obtain rfl := none ends
    exact ⟨gap, blank, by simp [Except.map]⟩
  | true =>
    obtain ⟨_, nothing⟩ := endsText_run ends
    rw [nothing] at run
    obtain rfl : [] = more := (Prod.mk.inj (Except.ok.inj run)).1
    refine ⟨last ++ gap, fun c member => ?_, by simp [Except.map]⟩
    exact (List.mem_append.mp member).elim (blankLast c) (blank c)

/-- A run is what its texts say, but for white space at its end. -/
theorem data_run {o rest : Outline} {s v : List Char} (read : o.run = .ok (s, rest))
    (data : rest.data = .ok v) :
    ∃ gap, (∀ c ∈ gap, isSpace c = true) ∧ o.data = .ok (s ++ gap ++ v) := by
  induction o generalizing s with
  | nil | doctype | element =>
    cases read
    exact ⟨[], by simp, data⟩
  | aside after ih => exact ih read
  | cdata u after ih =>
    obtain ⟨more, later, rfl⟩ := run_cdata read
    obtain ⟨gap, blank, same⟩ := ih later
    refine ⟨gap, blank, ?_⟩
    rw [Outline.data, same]
    simp [Except.map]
  | text u after ih =>
    obtain ⟨v, more, reads, later, rfl⟩ := run_text read
    obtain ⟨gap, blank, same⟩ := ih later
    exact data_text reads later blank same

/-- Siblings in which nothing comes next say nothing but white space. -/
theorem data_of_stop {o : Outline} (read : o.next trim = .ok .stop) :
    ∃ u, o.data = .ok u ∧ ∀ c ∈ u, isSpace c = true := by
  induction o generalizing trim with
  | nil => exact ⟨[], rfl, by simp⟩
  | element => cases read
  | doctype rest ih | aside rest ih => exact ih read
  | cdata s rest =>
    obtain ⟨_, _, _, other⟩ := Ahead.run_cases read
    cases other
  | text s rest ih =>
    obtain ⟨blank, trim', later⟩ | ⟨_, _, _, _, _, _, later⟩ := next_text read
    · obtain ⟨u, data, blankRest⟩ := ih later
      refine ⟨s ++ u, ?_, fun c member => (List.mem_append.mp member).elim (blank c) (blankRest c)⟩
      rw [Outline.data, unescape_iff.mpr (reads_space blank), data]
      rfl
    · obtain ⟨_, _, _, other⟩ := Ahead.run_cases later
      cases other

/-- Siblings in which a text comes next say this text and what the others say, but for white space
around the text. -/
theorem data_of_text {o rest : Outline} {s v : List Char}
    (read : o.next trim = .ok (.text s rest)) (data : rest.data = .ok v) :
    ∃ gap gap', (∀ c ∈ gap, isSpace c = true) ∧ (∀ c ∈ gap', isSpace c = true) ∧
      o.data = .ok (gap ++ (s ++ gap' ++ v)) := by
  induction o generalizing trim with
  | nil | element => cases read
  | doctype rest ih | aside rest ih => exact ih read
  | cdata u after =>
    obtain ⟨more, left, run, same⟩ := Ahead.run_cases read
    obtain ⟨rfl, rfl⟩ := Ahead.text.inj same
    obtain ⟨gap, blank, later⟩ := data_run run data
    refine ⟨[], gap, by simp, blank, ?_⟩
    rw [Outline.data, later]
    simp [Except.map]
  | text u after ih =>
    obtain ⟨blank, trim', later⟩ | ⟨gap, kept, u, rfl, blank, reads, later⟩ := next_text read
    · obtain ⟨gap, gap', blank', blankEnd, rest⟩ := ih later
      refine ⟨u ++ gap, gap', fun c member =>
        (List.mem_append.mp member).elim (blank c) (blank' c), blankEnd, ?_⟩
      rw [Outline.data, unescape_iff.mpr (reads_space blank), rest]
      simp [Except.map]
    · obtain ⟨more, left, run, same⟩ := Ahead.run_cases later
      obtain ⟨rfl, rfl⟩ := Ahead.text.inj same
      obtain ⟨_, blankEnd, rest⟩ := data_run run data
      obtain ⟨gap', blank', whole⟩ := data_text reads run blankEnd rest
      exact ⟨gap, gap', blank, blank', data_gap blank whole⟩

/-- The text of an element is its character data, white space around it aside. -/
theorem Spells.data {o : Outline} {s : List Char} (spells : Spells o s) :
    ∃ u, o.data = .ok u ∧ trimBy isSpace s = trimBy isSpace u := by
  cases spells with
  | nothing empty =>
    obtain ⟨u, data, blank⟩ := data_of_stop empty
    refine ⟨u, data, ?_⟩
    have whole := trimBy_right blank []
    rw [List.nil_append] at whole
    exact whole.symm
  | text first last =>
    obtain ⟨v, dataRest, blankRest⟩ := data_of_stop last
    obtain ⟨gap, gap', blank, blankEnd, data⟩ := data_of_text first dataRest
    refine ⟨_, data, ?_⟩
    rw [trimBy_left blank, trimBy_right blankRest, trimBy_right blankEnd]

end SoapGateway.Xml.Outline
