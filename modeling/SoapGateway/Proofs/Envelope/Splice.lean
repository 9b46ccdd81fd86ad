import SoapGateway.Proofs.Envelope
import SoapGateway.Proofs.Envelope.Slot
import SoapGateway.Proofs.Text.Scan

/-!
# A fragment in the place of a marker

What becomes of a fragment is settled by the scan of the text around it. If that scan finds one
marker, the fragment takes its place; if it finds none or more, the number of pieces is reported. In
the envelope the slot is found once, so only the reserved token keeps a fragment out.
-/
namespace SoapGateway.Envelope

open Text (Scan)

section SpliceInto

variable {text marker : String} {passed : List (List Char)} {rest : List Char}

theorem toList_ne_nil (nonempty : marker ≠ "") : marker.toList ≠ [] :=
  mt String.toList_eq_nil_iff.mp nonempty

theorem spliceInto_of_one {before : List Char} (nonempty : marker ≠ "")
    (scan : Scan marker.toList text.toList [before] rest) (fragment : String) :
    spliceInto text marker fragment =
      .ok (String.ofList (before ++ fragment.toList ++ rest)) := by
  rw [spliceInto, scan.pieces_eq (toList_ne_nil nonempty)]
  rfl

theorem spliceInto_of_other (nonempty : marker ≠ "")
    (scan : Scan marker.toList text.toList passed rest) (other : passed.length ≠ 1)
    (fragment : String) :
    spliceInto text marker fragment =
      .error (.envelope ("expected 2 pieces around the payload slot, got " ++
        Text.ofNat (passed.length + 1))) := by
  have count : (Text.pieces marker.toList text.toList).length = passed.length + 1 := by
    rw [scan.pieces_eq (toList_ne_nil nonempty), List.length_append, List.length_singleton]
  unfold spliceInto
  split
  · next two =>
    rw [two] at count
    exact absurd (Nat.succ.inj count).symm other
  · rw [count]

theorem spliceInto_eq_ok (nonempty : marker ≠ "")
    (scan : Scan marker.toList text.toList passed rest) (fragment envelope : String) :
    spliceInto text marker fragment = .ok envelope ↔
      ∃ before, passed = [before] ∧ envelope.toList = before ++ fragment.toList ++ rest := by
  by_cases one : passed.length = 1
  · obtain ⟨before, rfl⟩ := List.length_eq_one_iff.mp one
    rw [spliceInto_of_one nonempty scan, Except.ok.injEq]
    constructor
    · rintro rfl
      exact ⟨before, rfl, String.toList_ofList⟩
    · rintro ⟨_, same, written⟩
      obtain rfl := List.singleton_inj.mp same
      rw [← written, String.ofList_toList]
  · rw [spliceInto_of_other nonempty scan one]
    refine ⟨nofun, ?_⟩
    rintro ⟨before, rfl, _⟩
    exact absurd rfl one

theorem spliceInto_eq_error (nonempty : marker ≠ "")
    (scan : Scan marker.toList text.toList passed rest) (fragment : String) (failure : Failure) :
    spliceInto text marker fragment = .error failure ↔
      passed.length ≠ 1 ∧
        failure = .envelope ("expected 2 pieces around the payload slot, got " ++
          Text.ofNat (passed.length + 1)) := by
  by_cases one : passed.length = 1
  · obtain ⟨before, rfl⟩ := List.length_eq_one_iff.mp one
    rw [spliceInto_of_one nonempty scan]
    exact ⟨nofun, fun told => absurd rfl told.1⟩
  · rw [spliceInto_of_other nonempty scan one, Except.error.injEq]
    exact ⟨fun same => ⟨one, same.symm⟩, fun told => told.2.symm⟩

end SpliceInto

/-- The slot is found once in the skeleton, between what every envelope begins and ends with. -/
theorem scan_skeleton : Scan slot.toList skeleton.toList [head.toList] tail.toList := by
  have nonempty : slot.toList ≠ [] := by decide +kernel
  exact (Text.scan_iff nonempty).mpr pieces_skeleton

section Splice

variable {fragment : String}

theorem splice_of_free (free : IsFree fragment.toList) :
    splice fragment = .ok (head ++ fragment ++ tail) := by
  rw [splice_eq (isFree_iff.mp free), ← String.toList_append, ← String.toList_append,
    String.ofList_toList]

theorem splice_of_reserved (reserved : ¬ IsFree fragment.toList) :
    splice fragment = .error (.envelope "payload contains the reserved slot token") := by
  rw [isFree_iff, Bool.not_eq_false] at reserved
  rw [splice, if_pos reserved]

theorem splice_eq_ok (fragment envelope : String) :
    splice fragment = .ok envelope ↔
      IsFree fragment.toList ∧ envelope = head ++ fragment ++ tail := by
  by_cases free : IsFree fragment.toList
  · rw [splice_of_free free, Except.ok.injEq]
    exact ⟨fun same => ⟨free, same.symm⟩, fun told => told.2.symm⟩
  · rw [splice_of_reserved free]
    exact ⟨nofun, fun told => absurd told.1 free⟩

theorem splice_eq_error (fragment : String) (failure : Failure) :
    splice fragment = .error failure ↔
      ¬ IsFree fragment.toList ∧
        failure = .envelope "payload contains the reserved slot token" := by
  by_cases free : IsFree fragment.toList
  · rw [splice_of_free free]
    exact ⟨nofun, fun told => absurd free told.1⟩
  · rw [splice_of_reserved free, Except.error.injEq]
    exact ⟨fun same => ⟨free, same.symm⟩, fun told => told.2.symm⟩

/-- Two fragments come to the same only if both are refused: head and tail are fixed, so an
envelope tells what is between them. -/
theorem splice_inj (fragment other : String) :
    splice fragment = splice other ↔
      fragment = other ∨ ¬ IsFree fragment.toList ∧ ¬ IsFree other.toList := by
  constructor
  · intro same
    by_cases free : IsFree fragment.toList
    · rw [splice_of_free free, eq_comm, splice_eq_ok, String.append_left_inj,
        String.append_right_inj] at same
      exact .inl same.2
    · rw [splice_of_reserved free, eq_comm, splice_eq_error] at same
      exact .inr ⟨free, same.1⟩
  · rintro (rfl | ⟨first, second⟩)
    · rfl
    · rw [splice_of_reserved first, splice_of_reserved second]

end Splice

/-- A text has one scan for a marker, and that scan decides alike for all fragments: where it finds
the marker once, a fragment is put between the text before it and the text after it, and where it
finds it never or more than once, the number of pieces is reported. The slot is found once in the
skeleton of the envelope. So each fragment without the reserved token is put between the head and
the tail, all others are refused, and no two fragments make the same envelope. -/
theorem one_marker_replaced (text marker : String) (nonempty : marker ≠ "") :
    (∃ passed rest,
      (∀ others last, Scan marker.toList text.toList others last ↔
        others = passed ∧ last = rest) ∧
      ∀ fragment,
        (∀ envelope, spliceInto text marker fragment = .ok envelope ↔
          ∃ before, passed = [before] ∧
            envelope.toList = before ++ fragment.toList ++ rest) ∧
        (∀ failure, spliceInto text marker fragment = .error failure ↔
          passed.length ≠ 1 ∧
            failure = .envelope ("expected 2 pieces around the payload slot, got " ++
              Text.ofNat (passed.length + 1)))) ∧
    Scan slot.toList skeleton.toList [head.toList] tail.toList ∧
    ∀ fragment,
      (∀ envelope, splice fragment = .ok envelope ↔
        ¬ slotToken.toList <:+: fragment.toList ∧ envelope = head ++ fragment ++ tail) ∧
      (∀ failure, splice fragment = .error failure ↔
        slotToken.toList <:+: fragment.toList ∧
          failure = .envelope "payload contains the reserved slot token") ∧
      ∀ other, splice fragment = splice other ↔
        fragment = other ∨
          slotToken.toList <:+: fragment.toList ∧ slotToken.toList <:+: other.toList := by
  refine ⟨?into, scan_skeleton, fun fragment => ⟨splice_eq_ok fragment, ?refused, ?inj⟩⟩
  case into =>
    obtain ⟨passed, rest, scan⟩ := Text.exists_scan (toList_ne_nil nonempty) text.toList
    exact ⟨passed, rest, scan.unique (toList_ne_nil nonempty), fun fragment =>
      ⟨spliceInto_eq_ok nonempty scan fragment, spliceInto_eq_error nonempty scan fragment⟩⟩
  case refused => simpa [IsFree] using splice_eq_error fragment
  case inj => simpa [IsFree] using splice_inj fragment

/-- Of markers that share a character the first is taken. The fragment may be made of markers, or
be a tag of the slot: it is not looked at. -/
theorem one_marker_replaced_overlapping :
    "aba" ≠ "" ∧
      spliceInto "<ababa/>" "aba" "aba aba" = .ok "<aba ababa/>" ∧
      spliceInto "<abaaba/>" "aba" "aba" =
        .error (.envelope "expected 2 pieces around the payload slot, got 3") ∧
      splice "<gateway-payload-slot>" = .ok (head ++ "<gateway-payload-slot>" ++ tail) := by
  have nonempty : "aba" ≠ "" := by decide
  refine ⟨nonempty, ?once, ?twice, ?tag⟩
  case once =>
    obtain ⟨⟨passed, rest, scan, each⟩, _⟩ := one_marker_replaced "<ababa/>" "aba" nonempty
    have found : Scan "aba".toList "<ababa/>".toList ["<".toList] "ba/>".toList :=
      (Text.scan_iff (toList_ne_nil nonempty)).mpr (by decide +kernel)
    obtain ⟨rfl, rfl⟩ := (scan _ _).mp found
    exact ((each "aba aba").1 _).mpr ⟨_, rfl, by decide +kernel⟩
  case twice =>
    obtain ⟨⟨passed, rest, scan, each⟩, _⟩ := one_marker_replaced "<abaaba/>" "aba" nonempty
    have found : Scan "aba".toList "<abaaba/>".toList ["<".toList, []] "/>".toList :=
      (Text.scan_iff (toList_ne_nil nonempty)).mpr (by decide +kernel)
    obtain ⟨rfl, rfl⟩ := (scan _ _).mp found
    exact ((each "aba").2 _).mpr ⟨by decide, by decide +kernel⟩
  case tag =>
    obtain ⟨_, _, each⟩ := one_marker_replaced "<ababa/>" "aba" nonempty
    exact ((each "<gateway-payload-slot>").1 _).mpr ⟨isFree_of_short (by decide +kernel), rfl⟩

end SoapGateway.Envelope
