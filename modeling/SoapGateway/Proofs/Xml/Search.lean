import SoapGateway.Proofs.Xml.Locate
import SoapGateway.Proofs.Xml.Stream

/-!
# The search for an element

A search that succeeds has read so many events and looks at no others: those that it passes over,
and those that the source of the element is made of.
-/
namespace SoapGateway.Xml

/-- The text that events cover. -/
def sources (ts : List Token) : List Char := ts.flatMap (·.source)

/-- Whether an event opens an element with the local name `target`. -/
def Event.Opens (e : Event) (target : List Char) : Prop :=
  match e with
  | .start tag => localName (tagName tag) = target
  | .empty tag => localName (tagName tag) = target
  | _ => False

theorem sources_append (ts us : List Token) : sources (ts ++ us) = sources ts ++ sources us :=
  List.flatMap_append

theorem octets_append (u v : List Char) : Utf8.octets (u ++ v) = Utf8.octets u + Utf8.octets v := by
  induction u with
  | nil => exact (Nat.zero_add _).symm
  | cons c u ih =>
    change c.utf8Size + Utf8.octets (u ++ v) = c.utf8Size + Utf8.octets u + Utf8.octets v
    rw [ih, Nat.add_assoc]

/-! To an end tag. -/

/-- What a search to the end tag of `name` reads when it gives `s`, and that it reads no further. -/
def Ends (name : List Char) (depth : Nat) (stream : List (Except MarkupFault Token))
    (s : List Char) : Prop :=
  ∃ inside last more, stream = inside.map .ok ++ .ok last :: more ∧ last.event = .stop name ∧
    s = sources (inside ++ [last]) ∧
    ∀ more', untilEnd name depth (inside.map .ok ++ .ok last :: more') = .ok s

/-- An event that does not end the search. -/
theorem Ends.pass {name s : List Char} {depth depth' : Nat} {t : Token}
    {stream : List (Except MarkupFault Token)}
    (passes : ∀ more, untilEnd name depth (.ok t :: more) =
      (untilEnd name depth' more).map (t.source ++ ·))
    (later : Ends name depth' stream s) : Ends name depth (.ok t :: stream) (t.source ++ s) := by
  obtain ⟨inside, last, more, split, stop, rfl, same⟩ := later
  refine ⟨t :: inside, last, more, by rw [split]; rfl, stop, rfl, fun more' => ?_⟩
  rw [List.map_cons, List.cons_append, passes, same]
  rfl

theorem untilEnd_ok {name s : List Char} {depth : Nat} {stream : List (Except MarkupFault Token)}
    (ended : untilEnd name depth stream = .ok s) : Ends name depth stream s := by
  induction stream generalizing depth s with
  | nil => cases ended
  | cons next stream ih =>
    cases next with
    | error f => cases ended
    | ok t =>
      have pass {depth' : Nat} (passes : ∀ more, untilEnd name depth (.ok t :: more) =
          (untilEnd name depth' more).map (t.source ++ ·)) :
          Ends name depth (.ok t :: stream) s := by
        rw [passes] at ended
        cases later : untilEnd name depth' stream with
        | error f =>
          rw [later] at ended
          cases ended
        | ok s' =>
          rw [later] at ended
          cases ended
          exact .pass passes (ih later)
      obtain ⟨event, source⟩ := t
      cases event with
      | start tag => exact pass fun more => Forest.untilEnd_start tag source name depth more
      | stop n =>
        by_cases own : n = name
        · cases depth with
          | zero =>
            rw [Forest.untilEnd_stop, if_pos own] at ended
            cases ended
            refine ⟨[], _, stream, rfl, own ▸ rfl, by simp [sources], fun more' => ?_⟩
            rw [List.map_nil, List.nil_append, Forest.untilEnd_stop, if_pos own]
          | succ d =>
            exact pass fun more => by rw [Forest.untilEnd_stop, if_pos own]
        · exact pass fun more => by rw [Forest.untilEnd_stop, if_neg own]
      | text | empty | cdata | doctype | aside =>
        exact pass fun more => Forest.untilEnd_flat (by simp) (by simp) name depth more

/-! To an element. -/

/-- What a successful search has read: the events that it passed over, and those that the source of
the element is made of, of which `last` is the last one. -/
structure Search (target : List Char) (passed inside : List Token) (last : Token) : Prop where
  passed : ∀ t ∈ passed, ¬ t.event.Opens target
  first : ∃ t, (inside ++ [last]).head? = some t ∧ t.event.Opens target
  last : ∀ text, last.event ≠ .text text

/-- What a search reads when it gives `slice` after `n` octets, and that it reads no further. -/
def Finds (target : List Char) (before : Nat) (stream : List (Except MarkupFault Token)) (n : Nat)
    (slice : List Char) : Prop :=
  ∃ passed inside last more, stream = (passed ++ inside).map .ok ++ .ok last :: more ∧
    Search target passed inside last ∧ n = before + Utf8.octets (sources passed) ∧
    slice = sources (inside ++ [last]) ∧
    ∀ more', find target before ((passed ++ inside).map .ok ++ .ok last :: more') = .ok (n, slice)

/-- An event that does not open the element. -/
theorem Finds.pass {target slice : List Char} {before n : Nat} {t : Token}
    {stream : List (Except MarkupFault Token)} (other : ¬ t.event.Opens target)
    (passes : ∀ more, find target before (.ok t :: more) =
      find target (before + Utf8.octets t.source) more)
    (later : Finds target (before + Utf8.octets t.source) stream n slice) :
    Finds target before (.ok t :: stream) n slice := by
  obtain ⟨passed, inside, last, more, split, search, place, shape, same⟩ := later
  refine ⟨t :: passed, inside, last, more, by rw [split]; rfl, ⟨?_, search.first, search.last⟩, ?_,
    shape, fun more' => ?_⟩
  · intro t' member
    rcases List.mem_cons.mp member with rfl | member
    · exact other
    · exact search.passed t' member
  · change n = before + Utf8.octets (t.source ++ sources passed)
    rw [place, octets_append, Nat.add_assoc]
  · rw [List.cons_append, List.map_cons, List.cons_append, passes, same]

theorem find_ok {target slice : List Char} {before n : Nat}
    {stream : List (Except MarkupFault Token)}
    (found : find target before stream = .ok (n, slice)) : Finds target before stream n slice := by
  induction stream generalizing before with
  | nil => cases found
  | cons next stream ih =>
    cases next with
    | error f => cases found
    | ok t =>
      have pass (other : ¬ t.event.Opens target)
          (passes : ∀ more, find target before (.ok t :: more) =
            find target (before + Utf8.octets t.source) more) :
          Finds target before (.ok t :: stream) n slice :=
        .pass other passes (ih (by rw [← passes, found]))
      obtain ⟨event, source⟩ := t
      cases event with
      | start tag =>
        by_cases own : localName (tagName tag) = target
        · have opens {more : List (Except MarkupFault Token)} {s : List Char}
              (ended : untilEnd (tagName tag) 0 more = .ok s) :
              find target before (.ok ⟨.start tag, source⟩ :: more) =
                .ok (before, source ++ s) := by
            rw [find.eq_def]
            simp only [own, if_true, ended]
          cases ended : untilEnd (tagName tag) 0 stream with
          | error f =>
            rw [find.eq_def] at found
            simp only [own, if_true, ended] at found
            cases found
          | ok s =>
            rw [opens ended] at found
            cases found
            obtain ⟨inside, last, more, split, stop, rfl, same⟩ := untilEnd_ok ended
            refine ⟨[], ⟨.start tag, source⟩ :: inside, last, more, by rw [split]; rfl,
              ⟨by simp, ⟨_, rfl, own⟩, by simp [stop]⟩, rfl, rfl, fun more' => ?_⟩
            rw [List.nil_append, List.map_cons, List.cons_append, opens (same more')]
        · exact pass own fun more => by
            rw [find.eq_def]
            exact if_neg own
      | empty tag =>
        by_cases own : localName (tagName tag) = target
        · have opens (more : List (Except MarkupFault Token)) :
              find target before (.ok ⟨.empty tag, source⟩ :: more) = .ok (before, source) := by
            rw [find.eq_def]
            exact if_pos own
          rw [opens] at found
          cases found
          exact ⟨[], [], ⟨.empty tag, _⟩, stream, rfl, ⟨by simp, ⟨_, rfl, own⟩, by simp⟩, rfl,
            by simp [sources], opens⟩
        · exact pass own fun more => by
            rw [find.eq_def]
            exact if_neg own
      | text | stop | cdata | doctype | aside =>
        exact pass id fun more => Forest.find_flat (by simp) (by simp) target before more

/-! Cutting out. -/

theorem cutOctets_append (start stop offset : Nat) (u v : List Char) :
    cutOctets start stop offset (u ++ v) =
      cutOctets start stop offset u ++ cutOctets start stop (offset + Utf8.octets u) v := by
  induction u generalizing offset with
  | nil => rfl
  | cons c u ih =>
    have size : Utf8.octets (c :: u) = c.utf8Size + Utf8.octets u := rfl
    simp only [List.cons_append, cutOctets, ih, size, Nat.add_assoc]
    split <;> rfl

theorem cutOctets_before {start stop offset : Nat} {u : List Char}
    (before : offset + Utf8.octets u ≤ start) : cutOctets start stop offset u = [] := by
  induction u generalizing offset with
  | nil => rfl
  | cons c u ih =>
    have size : Utf8.octets (c :: u) = c.utf8Size + Utf8.octets u := rfl
    have positive := c.utf8Size_pos
    rw [cutOctets, if_neg (by omega)]
    exact ih (by omega)

theorem cutOctets_inside {start stop offset : Nat} {u : List Char} (lower : start ≤ offset)
    (upper : offset + Utf8.octets u ≤ stop) : cutOctets start stop offset u = u := by
  induction u generalizing offset with
  | nil => rfl
  | cons c u ih =>
    have size : Utf8.octets (c :: u) = c.utf8Size + Utf8.octets u := rfl
    have positive := c.utf8Size_pos
    rw [cutOctets, if_pos (by omega), ih (by omega) (by omega)]

theorem cutOctets_after {start stop offset : Nat} {u : List Char} (after : stop ≤ offset) :
    cutOctets start stop offset u = [] := by
  induction u generalizing offset with
  | nil => rfl
  | cons c u ih =>
    rw [cutOctets, if_neg (by omega)]
    exact ih (by omega)

/-- The characters between two places of a text are cut out by the octets before them. -/
theorem cutOctets_parts (p q r : List Char) :
    cutOctets (Utf8.octets p) (Utf8.octets p + Utf8.octets q) 0 (p ++ q ++ r) = q := by
  have first : 0 + Utf8.octets p ≤ Utf8.octets p := by omega
  have lower : Utf8.octets p ≤ 0 + Utf8.octets p := by omega
  have upper : 0 + Utf8.octets p + Utf8.octets q ≤ Utf8.octets p + Utf8.octets q := by omega
  have last : Utf8.octets p + Utf8.octets q ≤ 0 + Utf8.octets (p ++ q) := by
    rw [octets_append]
    omega
  rw [cutOctets_append, cutOctets_append, cutOctets_before first, cutOctets_inside lower upper,
    cutOctets_after last, List.nil_append, List.append_nil]

/-- What is cut out does not depend on what follows. -/
theorem cutOctets_extended {start stop : Nat} {s : List Char} (inside : stop ≤ Utf8.octets s)
    (u : List Char) : cutOctets start stop 0 (s ++ u) = cutOctets start stop 0 s := by
  have after : stop ≤ 0 + Utf8.octets s := by omega
  rw [cutOctets_append, cutOctets_after after, List.append_nil]

theorem octets_dropMark_le (s : List Char) : Utf8.octets (dropMark s) ≤ Utf8.octets s := by
  cases s with
  | nil => exact Nat.le_refl _
  | cons c s =>
    rw [dropMark]
    split
    · exact Nat.le_add_left _ _
    · exact Nat.le_refl _

end SoapGateway.Xml
