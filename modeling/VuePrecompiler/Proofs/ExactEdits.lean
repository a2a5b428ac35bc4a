import Mathlib.Data.List.Perm.Subperm
import VuePrecompiler.Proofs.Splicing

/-!
# Exactly which edits are applied, and how

A list of edits is applied if and only if no two of them touch the same bytes
and each of them lies in the text.  They are put in place in the order of their
spans, and edits of one span in the order of the list; the order in which edits
of different spans are listed makes no difference.  Applying the last edit
first, as the positions of the others ask for, gives the same text, and every
step finds its span in the text.
-/

namespace VuePrecompiler.Source

open Text

namespace Edit

/-! ## The order of application -/

/-- The same edits, and those of one span in the same order. -/
def SameInEachSpan (left right : List Edit) : Prop :=
  ∀ span, left.filter (·.span = span) = right.filter (·.span = span)

/-- The edits of a list in the order of their spans; those of one span
stay in their order. -/
structure IsOrdering (edits ordered : List Edit) : Prop where
  sorted : ordered.Pairwise fun left right => left.precedes right = true
  same : SameInEachSpan ordered edits

theorem SameInEachSpan.mem {left right : List Edit} (same : SameInEachSpan left right)
    {edit : Edit} (member : edit ∈ left) : edit ∈ right := by
  have inSpan : edit ∈ left.filter (·.span = edit.span) :=
    List.mem_filter.mpr ⟨member, decide_eq_true rfl⟩
  rw [same] at inSpan
  exact (List.mem_filter.mp inSpan).1

theorem span_eq_of_precedes {left right : Edit} (forward : left.precedes right = true)
    (backward : right.precedes left = true) : left.span = right.span := by
  rw [precedes_iff] at forward backward
  rcases left with ⟨⟨leftStart, leftStop⟩, _⟩
  rcases right with ⟨⟨rightStart, rightStop⟩, _⟩
  simp only [Span.mk.injEq] at forward backward ⊢
  omega

theorem precedes_self (edit : Edit) : edit.precedes edit = true := by
  simp [precedes_iff]

/-- The head of an ordering precedes everything that is listed. -/
theorem precedes_of_head {first other : Edit} {rest : List Edit}
    (sorted : (first :: rest).Pairwise fun left right => left.precedes right = true)
    (member : other ∈ first :: rest) : first.precedes other = true := by
  rcases List.mem_cons.mp member with rfl | later
  · exact precedes_self other
  · exact (List.pairwise_cons.mp sorted).1 other later

theorem eq_of_sorted {left right : List Edit}
    (leftSorted : left.Pairwise fun left right => left.precedes right = true)
    (rightSorted : right.Pairwise fun left right => left.precedes right = true)
    (same : SameInEachSpan left right) : left = right := by
  induction left generalizing right with
  | nil =>
      symm
      apply List.eq_nil_iff_forall_not_mem.mpr
      intro edit member
      exact List.not_mem_nil (SameInEachSpan.mem (fun span => (same span).symm) member)
  | cons first rest induction =>
      cases right with
      | nil => exact absurd (same.mem List.mem_cons_self) List.not_mem_nil
      | cons other others =>
          have forward : first.precedes other = true := by
            apply precedes_of_head leftSorted
            exact SameInEachSpan.mem (fun span => (same span).symm) List.mem_cons_self
          have backward : other.precedes first = true := by
            apply precedes_of_head rightSorted
            exact same.mem List.mem_cons_self
          have spans : first.span = other.span := span_eq_of_precedes forward backward
          -- Edits of their common span stand in the same order, so the heads are
          -- the same.
          have heads := same first.span
          rw [List.filter_cons_of_pos (by simp),
            List.filter_cons_of_pos (by simp [spans])] at heads
          obtain ⟨rfl, _⟩ := List.cons_eq_cons.mp heads
          congr 1
          apply induction leftSorted.of_cons rightSorted.of_cons
          intro span
          have both := same span
          by_cases here : first.span = span
          · rw [List.filter_cons_of_pos (by simpa using here),
              List.filter_cons_of_pos (by simpa using here)] at both
            exact (List.cons_eq_cons.mp both).2
          · rw [List.filter_cons_of_neg (by simpa using here),
              List.filter_cons_of_neg (by simpa using here)] at both
            exact both

theorem mergeSort_isOrdering (edits : List Edit) :
    IsOrdering edits (edits.mergeSort precedes) := by
  constructor
  · exact List.pairwise_mergeSort precedes_trans precedes_total edits
  · intro span
    have tied : (edits.filter (·.span = span)).Pairwise fun left right =>
        left.precedes right = true := by
      apply List.pairwise_of_forall_mem_list
      intro left inLeft right inRight
      simp only [List.mem_filter, decide_eq_true_eq] at inLeft inRight
      rw [precedes_iff, inLeft.2, inRight.2]
      simp
    have kept :=
      List.sublist_mergeSort precedes_trans precedes_total tied List.filter_sublist
    have inSpan := kept.filter (·.span = span)
    rw [List.filter_filter] at inSpan
    simp only [Bool.and_self] at inSpan
    have sameLength :=
      ((List.mergeSort_perm edits precedes).filter (·.span = span)).length_eq
    exact (inSpan.eq_of_length sameLength.symm).symm

/-! ## Overlaps -/

theorem of_firstOverlap?_eq_some {edits : List Edit} {first second : Span}
    (found : firstOverlap? edits = some (first, second)) :
    ∃ left right, [left, right].Sublist edits ∧ ¬ left.Apart right ∧
      first = left.span ∧ second = right.span := by
  fun_induction firstOverlap? edits with
  | case1 left right rest touching =>
      cases found
      refine ⟨left, right, ?_, ?_, rfl, rfl⟩
      · exact (List.nil_sublist rest).cons_cons right |>.cons_cons left
      · rw [Apart, touching]
        exact Bool.noConfusion
  | case2 left right rest apart induction =>
      obtain ⟨one, other, listed, touching, spans⟩ := induction found
      exact ⟨one, other, listed.cons left, touching, spans⟩
  | case3 => contradiction

/-- Edits in the order of application follow one another if no neighbours overlap. -/
theorem pairwise_before_of_neighbours {edits : List Edit}
    (sorted : edits.Pairwise fun left right => left.precedes right = true)
    (whole : ∀ edit ∈ edits, edit.span.start ≤ edit.span.stop)
    (neighbours : firstOverlap? edits = none) : edits.Pairwise Before := by
  fun_induction firstOverlap? edits with
  | case1 left right rest touching => contradiction
  | case2 left right rest apart induction =>
      obtain ⟨fromLeft, later⟩ := List.pairwise_cons.mp sorted
      have wholeLater : ∀ edit ∈ right :: rest, edit.span.start ≤ edit.span.stop :=
        fun edit member => whole edit (List.mem_cons_of_mem left member)
      have ordered := induction later wholeLater neighbours
      have front : left.span.stop ≤ right.span.start := by
        apply Span.stop_le_start (Bool.eq_false_iff.mpr apart)
        · exact wholeLater right List.mem_cons_self
        · exact precedes_iff.mp (fromLeft right List.mem_cons_self)
      -- What follows the neighbour begins behind its end.
      have wholeRight := wholeLater right List.mem_cons_self
      apply List.Pairwise.cons ?_ ordered
      intro other member
      rcases List.mem_cons.mp member with rfl | further
      · exact front
      · have behind : right.span.stop ≤ other.span.start :=
          (List.pairwise_cons.mp ordered).1 other further
        rw [Before]
        omega
  | case3 edits short =>
      match edits, short with
      | [], _ => exact .nil
      | [edit], _ => exact List.pairwise_singleton _ _
      | left :: right :: rest, short => exact absurd rfl (short left right rest)

theorem pairwise_apart_iff {edits : List Edit}
    (whole : ∀ edit ∈ edits, edit.span.start ≤ edit.span.stop) :
    edits.Pairwise Apart ↔ firstOverlap? (edits.mergeSort precedes) = none := by
  have permuted : (edits.mergeSort precedes).Perm edits :=
    List.mergeSort_perm edits precedes
  constructor
  · intro apart
    exact firstOverlap?_eq_none ((permuted.pairwise_iff Apart.symm).mpr apart)
  · intro neighbours
    have ordered : (edits.mergeSort precedes).Pairwise Before := by
      apply pairwise_before_of_neighbours
        (mergeSort_isOrdering edits).sorted ?_ neighbours
      intro edit member
      exact whole edit (permuted.mem_iff.mp member)
    have apart : (edits.mergeSort precedes).Pairwise Apart :=
      ordered.imp Span.overlaps_eq_false_of_le
    exact (permuted.pairwise_iff Apart.symm).mp apart

theorem fits_iff {edit : Edit} {text : List Char}
    (whole : edit.span.start ≤ edit.span.stop) :
    edit.fits text = true ↔ edit.LiesIn text := by
  constructor
  · intro fits
    rw [Edit.fits, Bool.and_eq_true] at fits
    exact ⟨whole, isSome_splitAtByte?_iff.mp fits.1, isSome_splitAtByte?_iff.mp fits.2⟩
  · exact LiesIn.fits

/-! ## The last edit first -/

/-- A text with one edit in place, if its span lies in the text on
character boundaries. -/
def putIn? (edit : Edit) (text : List Char) : Option (List Char) := do
  let (kept, _) ← splitAtByte? edit.span.start text
  let (_, tail) ← splitAtByte? edit.span.stop text
  return kept ++ edit.replacement.toList ++ tail

theorem putIn?_of_parts {edit : Edit} {front covered tail : List Char}
    (start : edit.span.start = byteLength front)
    (stop : edit.span.stop = byteLength (front ++ covered)) :
    edit.putIn? (front ++ (covered ++ tail)) =
      some (front ++ edit.replacement.toList ++ tail) := by
  rw [putIn?, start, stop, splitAtByte?_append, ← List.append_assoc,
    splitAtByte?_append]
  rfl

/-- What is behind a position may change before an edit in front of
it is put in place. -/
theorem foldrM_putIn? {edits : List Edit} {position : Nat} {text result : List Char}
    (spliced : Spliced position text edits result) {front : List Char}
    (begins : byteLength front = position) :
    edits.foldrM putIn? (front ++ text) = some (front ++ result) := by
  induction spliced generalizing front with
  | unchanged position text => rfl
  | @edit position kept covered tail result edit rest start stop spliced induction =>
      have behind : byteLength (front ++ kept ++ covered) = edit.span.stop := by
        simp only [byteLength_append]
        omega
      have later := induction behind
      have shape :
          front ++ (kept ++ (covered ++ tail)) = front ++ kept ++ covered ++ tail := by
        simp only [List.append_assoc]
      rw [List.foldrM_cons, shape, later, Option.bind_eq_bind, Option.bind_some,
        List.append_assoc (front ++ kept)]
      rw [putIn?_of_parts (by rw [start, ← begins, byteLength_append]) behind.symm]
      simp only [List.append_assoc]

/-! ## Applied edits -/

theorem applyAll_eq_of_same {left right : List Edit} (same : SameInEachSpan left right)
    (text : String) : applyAll left text = applyAll right text := by
  have leftOrdering := mergeSort_isOrdering left
  have rightOrdering := mergeSort_isOrdering right
  have sorted : left.mergeSort precedes = right.mergeSort precedes := by
    apply eq_of_sorted leftOrdering.sorted rightOrdering.sorted
    intro span
    rw [leftOrdering.same span, same span, rightOrdering.same span]
  simp only [applyAll, sorted]

section

variable {edits : List Edit} (whole : ∀ edit ∈ edits, edit.span.start ≤ edit.span.stop)
  {text : String}
include whole

theorem of_applyAll_eq_ok {result : String}
    (applied : applyAll edits text = .ok result) :
    edits.Pairwise Apart ∧ ∀ edit ∈ edits, edit.LiesIn text.toList := by
  unfold applyAll at applied
  dsimp only at applied
  split at applied
  · contradiction
  · next neighbours =>
    split at applied
    · contradiction
    · next allFit =>
      refine ⟨(pairwise_apart_iff whole).mpr neighbours, ?_⟩
      intro edit member
      have fits := List.find?_eq_none.mp allFit edit (List.mem_mergeSort.mpr member)
      apply (fits_iff (whole edit member)).mp
      simpa using fits

theorem applyAll_overlap (touching : ¬ edits.Pairwise Apart) :
    ∃ left right, [left, right].Subperm edits ∧ ¬ left.Apart right ∧
      applyAll edits text = .error (.overlap left.span right.span) := by
  rw [pairwise_apart_iff whole] at touching
  obtain ⟨⟨first, second⟩, found⟩ := Option.ne_none_iff_exists'.mp touching
  obtain ⟨left, right, listed, touches, rfl, rfl⟩ := of_firstOverlap?_eq_some found
  refine ⟨left, right, ?_, touches, ?_⟩
  · exact listed.subperm.trans (List.mergeSort_perm edits precedes).subperm
  · simp only [applyAll, found]

theorem applyAll_outOfBounds (apart : edits.Pairwise Apart)
    (outside : ∃ edit ∈ edits, ¬ edit.LiesIn text.toList) :
    ∃ edit ∈ edits, ¬ edit.LiesIn text.toList ∧
      applyAll edits text = .error (.outOfBounds edit.span) := by
  have neighbours := (pairwise_apart_iff whole).mp apart
  cases found : (edits.mergeSort precedes).find? fun edit =>
    !edit.fits text.toList with
  | none =>
      obtain ⟨edit, member, notInside⟩ := outside
      have fits := List.find?_eq_none.mp found edit (List.mem_mergeSort.mpr member)
      exact absurd ((fits_iff (whole edit member)).mp (by simpa using fits)) notInside
  | some edit =>
      have member : edit ∈ edits :=
        List.mem_mergeSort.mp (List.mem_of_find?_eq_some found)
      refine ⟨edit, member, ?_, ?_⟩
      · intro inside
        have misfit := List.find?_some found
        simp [inside.fits] at misfit
      · simp only [applyAll, neighbours, found]

end

/-- Edits are applied just when they do not overlap and lie in the text.  The
result keeps the text between the spans and has the replacements in the order of
the spans; putting in the last edit first leads to it without a step outside of
the text.  A refusal names two edits that overlap, or if there are none an edit
that does not lie in the text.  Only the order of edits of one span matters. -/
theorem applyAll_exact {edits : List Edit}
    (whole : ∀ edit ∈ edits, edit.span.start ≤ edit.span.stop) (text : String) :
    ((∃ result, applyAll edits text = .ok result) ↔
      edits.Pairwise Apart ∧ ∀ edit ∈ edits, edit.LiesIn text.toList) ∧
    (∀ result, applyAll edits text = .ok result → ∃ ordered, IsOrdering edits ordered ∧
      Spliced 0 text.toList ordered result.toList ∧
      ordered.foldrM putIn? text.toList = some result.toList) ∧
    (¬ edits.Pairwise Apart → ∃ left right, [left, right].Subperm edits ∧
      ¬ left.Apart right ∧
      applyAll edits text = .error (.overlap left.span right.span)) ∧
    (edits.Pairwise Apart → (∃ edit ∈ edits, ¬ edit.LiesIn text.toList) →
      ∃ edit ∈ edits, ¬ edit.LiesIn text.toList ∧
        applyAll edits text = .error (.outOfBounds edit.span)) ∧
    ∀ other, SameInEachSpan other edits →
      applyAll other text = applyAll edits text := by
  refine ⟨⟨?_, ?_⟩, ?_, applyAll_overlap whole, applyAll_outOfBounds whole, ?_⟩
  · rintro ⟨result, applied⟩
    exact of_applyAll_eq_ok whole applied
  · rintro ⟨apart, inside⟩
    obtain ⟨result, applied, _⟩ := applyAll_spliced inside apart
    exact ⟨result, applied⟩
  · intro result applied
    obtain ⟨apart, inside⟩ := of_applyAll_eq_ok whole applied
    obtain ⟨spliced, appliedSame, shape⟩ := applyAll_spliced inside apart
    obtain rfl : spliced = result := Except.ok.inj (appliedSame.symm.trans applied)
    exact ⟨_, mergeSort_isOrdering edits, shape, foldrM_putIn? shape byteLength_nil⟩
  · intro other same
    exact applyAll_eq_of_same same text

/-- Two insertions in front of a replacement, behind a character of two bytes. -/
theorem insertions_in_order :
    let edits :
        List Edit := [⟨⟨3, 5⟩, "X"⟩, ⟨⟨3, 3⟩, "i"⟩, ⟨⟨0, 1⟩, "h"⟩, ⟨⟨3, 3⟩, "j"⟩]
    applyAll edits "aébcd" = .ok "héijXd" ∧
      ∃ ordered, IsOrdering edits ordered ∧
        Spliced 0 "aébcd".toList ordered "héijXd".toList ∧
        ordered.foldrM putIn? "aébcd".toList = some "héijXd".toList := by
  intro edits
  have sorted : edits.mergeSort precedes =
      [⟨⟨0, 1⟩, "h"⟩, ⟨⟨3, 3⟩, "i"⟩, ⟨⟨3, 3⟩, "j"⟩, ⟨⟨3, 5⟩, "X"⟩] := by
    simp [edits, List.mergeSort, List.MergeSort.Internal.splitInTwo, precedes]
  have applied : applyAll edits "aébcd" = .ok "héijXd" := by
    rw [applyAll, sorted]
    decide +kernel
  exact ⟨applied, (applyAll_exact (by decide) "aébcd").2.1 _ applied⟩

end Edit

end VuePrecompiler.Source
