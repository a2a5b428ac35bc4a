import VuePrecompiler.Source.Edits
import VuePrecompiler.Proofs.Cuts

/-!
# Splicing edits into a text

`Spliced` says what a text becomes when edits are put in place: the stretches
between the spans are kept, and each span gives way to its replacement.  For
edits that lie in the text and do not overlap, `Edit.applyAll` succeeds with
that text, whatever the order in which the edits are listed.
-/

namespace VuePrecompiler.Source

open Text

namespace Span

theorem overlaps_comm (left right : Span) :
    left.overlaps right = right.overlaps left := by
  simp only [overlaps, Bool.and_comm]

/-- Of two spans without common bytes, the one in front ends before
the other begins. -/
theorem stop_le_start {left right : Span} (apart : left.overlaps right = false)
    (rightWhole : right.start ≤ right.stop)
    (inFront : left.start < right.start ∨ left.start = right.start ∧
      left.stop ≤ right.stop) :
    left.stop ≤ right.start := by
  simp only [overlaps, Bool.and_eq_false_iff,
    decide_eq_false_iff_not, Nat.not_lt] at apart
  omega

theorem overlaps_eq_false_of_le {left right : Span}
    (ordered : left.stop ≤ right.start) : left.overlaps right = false := by
  simp only [overlaps, Bool.and_eq_false_iff, decide_eq_false_iff_not, Nat.not_lt]
  exact Or.inr ordered

end Span

/-- `Spliced position text edits result`: from `position` on, where `text`
begins, the edits turn the text into `result`.  The edits are in order. -/
inductive Spliced : Nat → List Char → List Edit → List Char → Prop where
  | unchanged (position : Nat) (text : List Char) : Spliced position text [] text
  | edit {position : Nat} {kept covered tail result : List Char} {edit : Edit}
      {rest : List Edit} :
      edit.span.start = position + byteLength kept →
      edit.span.stop = edit.span.start + byteLength covered →
      Spliced edit.span.stop tail rest result →
      Spliced position (kept ++ (covered ++ tail)) (edit :: rest)
        (kept ++ edit.replacement.toList ++ result)

namespace Edit

theorem precedes_iff {left right : Edit} :
    left.precedes right = true ↔
      left.span.start < right.span.start ∨
        left.span.start = right.span.start ∧ left.span.stop ≤ right.span.stop := by
  simp [precedes]

theorem precedes_trans (first second third : Edit) :
    first.precedes second = true → second.precedes third = true →
      first.precedes third = true := by
  simp only [precedes_iff]
  omega

theorem precedes_total (left right : Edit) :
    (left.precedes right || right.precedes left) = true := by
  simp only [Bool.or_eq_true, precedes_iff]
  omega

/-- Two edits touch no byte in common. -/
def Apart (left right : Edit) : Prop :=
  left.span.overlaps right.span = false

theorem Apart.symm {left right : Edit} (apart : left.Apart right) :
    right.Apart left := by
  rw [Apart, Span.overlaps_comm]
  exact apart

/-- One edit ends before the other begins. -/
def Before (left right : Edit) : Prop :=
  left.span.stop ≤ right.span.start

/-- Edits in the order of application that do not overlap follow one another. -/
theorem pairwise_before {edits : List Edit}
    (sorted : edits.Pairwise fun left right => left.precedes right = true)
    (apart : edits.Pairwise Apart)
    (whole : ∀ edit ∈ edits, edit.span.start ≤ edit.span.stop) :
    edits.Pairwise Before := by
  refine (sorted.and apart).imp_of_mem ?_
  rintro left right - rightMember ⟨inFront, distinct⟩
  exact Span.stop_le_start distinct (whole right rightMember) (precedes_iff.mp inFront)

theorem firstOverlap?_eq_none {edits : List Edit} (apart : edits.Pairwise Apart) :
    firstOverlap? edits = none := by
  induction edits with
  | nil => rfl
  | cons left rest induction =>
      cases rest with
      | nil => rfl
      | cons right rest =>
          obtain ⟨fromLeft, fromRest⟩ := List.pairwise_cons.mp apart
          have distinct : left.span.overlaps right.span = false :=
            fromLeft right List.mem_cons_self
          rw [firstOverlap?, distinct]
          exact induction fromRest

/-- An edit lies in a text: it begins and ends at cuts, in this order. -/
structure LiesIn (text : List Char) (edit : Edit) : Prop where
  whole : edit.span.start ≤ edit.span.stop
  start : IsCut text edit.span.start
  stop : IsCut text edit.span.stop

theorem LiesIn.fits {text : List Char} {edit : Edit} (inside : edit.LiesIn text) :
    edit.fits text = true := by
  rw [Edit.fits, Bool.and_eq_true]
  exact ⟨isSome_splitAtByte?_iff.mpr inside.start,
    isSome_splitAtByte?_iff.mpr inside.stop⟩

theorem splice_cons {edit : Edit} {position : Nat} {kept covered : List Char}
    (keptSize : byteLength kept = edit.span.start - position)
    (coveredSize : byteLength covered = edit.span.stop - edit.span.start)
    (tail : List Char) (rest : List Edit) :
    splice position (kept ++ (covered ++ tail)) (edit :: rest) =
      kept ++ edit.replacement.toList ++ splice edit.span.stop tail rest := by
  have first : splitAtByte? (edit.span.start - position) (kept ++ (covered ++ tail)) =
      some (kept, covered ++ tail) := by
    rw [← keptSize]
    exact splitAtByte?_append kept (covered ++ tail)
  have second :
      splitAtByte? edit.span.size (covered ++ tail) = some (covered, tail) := by
    rw [Span.size, ← coveredSize]
    exact splitAtByte?_append covered tail
  simp only [splice, first, second, Option.getD_some]

/-- The edits are put in place one after the other; `text` begins at `position`. -/
theorem spliced_splice {edits : List Edit} {position : Nat} {text : List Char}
    (ordered : edits.Pairwise Before)
    (ahead : ∀ edit ∈ edits, position ≤ edit.span.start ∧
      edit.span.start ≤ edit.span.stop)
    (cuts : ∀ edit ∈ edits, IsCut text (edit.span.start - position) ∧
      IsCut text (edit.span.stop - position)) :
    Spliced position text edits (splice position text edits) := by
  induction edits generalizing position text with
  | nil => exact .unchanged position text
  | cons edit rest induction =>
      obtain ⟨beforeRest, orderedRest⟩ := List.pairwise_cons.mp ordered
      obtain ⟨here, whole⟩ := ahead edit List.mem_cons_self
      obtain ⟨startCut, stopCut⟩ := cuts edit List.mem_cons_self
      obtain ⟨kept, covered, tail, rfl, keptSize, coveredSize⟩ :=
        startCut.between stopCut (by omega)
      have size : byteLength covered = edit.span.stop - edit.span.start := by omega
      rw [splice_cons keptSize size]
      refine .edit (by omega) (by omega) (induction orderedRest ?_ ?_)
      · intro later member
        exact ⟨beforeRest later member,
          (ahead later (List.mem_cons_of_mem _ member)).2⟩
      · -- Behind the covered text the cuts are counted from the end of the span.
        intro later member
        have laterStart : edit.span.stop ≤ later.span.start := beforeRest later member
        have laterWhole := (ahead later (List.mem_cons_of_mem _ member)).2
        have behind : ∀ place, edit.span.stop ≤ place →
            IsCut (kept ++ (covered ++ tail)) (place - position) →
              IsCut tail (place - edit.span.stop) := by
          intro place after cut
          have inTail := (cut.of_append (by omega)).of_append (by omega)
          have distance : place - position - byteLength kept - byteLength covered =
              place - edit.span.stop := by omega
          rwa [distance] at inTail
        obtain ⟨laterStartCut, laterStopCut⟩ :=
          cuts later (List.mem_cons_of_mem _ member)
        exact ⟨behind _ laterStart laterStartCut, behind _ (by omega) laterStopCut⟩

/-- Edits that lie in a text and do not overlap are all put in place. -/
theorem applyAll_spliced {edits : List Edit} {text : String}
    (inside : ∀ edit ∈ edits, edit.LiesIn text.toList) (apart : edits.Pairwise Apart) :
    ∃ result, applyAll edits text = .ok result ∧
      Spliced 0 text.toList (edits.mergeSort precedes) result.toList := by
  have permuted : (edits.mergeSort precedes).Perm edits :=
    List.mergeSort_perm edits precedes
  have sortedInside : ∀ edit ∈ edits.mergeSort precedes, edit.LiesIn text.toList := by
    intro edit member
    exact inside edit (permuted.mem_iff.mp member)
  have sortedApart : (edits.mergeSort precedes).Pairwise Apart :=
    (permuted.pairwise_iff Apart.symm).mpr apart
  have ordered : (edits.mergeSort precedes).Pairwise Before :=
    pairwise_before (List.pairwise_mergeSort precedes_trans precedes_total edits)
      sortedApart fun edit member => (sortedInside edit member).whole
  have allFit : (edits.mergeSort precedes).find? (fun edit => !edit.fits text.toList) =
      none := by
    rw [List.find?_eq_none]
    intro edit member
    simp [(sortedInside edit member).fits]
  refine ⟨String.ofList (splice 0 text.toList (edits.mergeSort precedes)), ?_, ?_⟩
  · simp only [applyAll, firstOverlap?_eq_none sortedApart, allFit]
  · rw [String.toList_ofList]
    refine spliced_splice ordered ?_ ?_
    · intro edit member
      exact ⟨Nat.zero_le _, (sortedInside edit member).whole⟩
    · intro edit member
      exact ⟨(sortedInside edit member).start, (sortedInside edit member).stop⟩

end Edit

/-! ## Refusals -/

namespace Edit

/-- The edit that removes a span. -/
def removing (span : Span) : Edit := ⟨span, ""⟩

/-- Why edits of some spans are refused, whatever they put there. -/
def refusal? (spans : List Span) (text : String) : Option EditError :=
  match applyAll (spans.map removing) text with
  | .error refusal => some refusal
  | .ok _ => none

theorem map_span_mergeSort {left right : List Edit}
    (same : left.map span = right.map span) :
    (left.mergeSort precedes).map span = (right.mergeSort precedes).map span := by
  have sorts : ∀ edits : List Edit, (edits.mergeSort precedes).map span =
      (edits.map span).mergeSort fun left right =>
        (removing left).precedes (removing right) :=
    fun edits => List.map_mergeSort fun _ _ _ _ => rfl
  rw [sorts, sorts, same]

theorem firstOverlap?_congr {left right : List Edit}
    (same : left.map span = right.map span) :
    firstOverlap? left = firstOverlap? right := by
  induction left generalizing right with
  | nil => rw [List.map_eq_nil_iff.mp (same.symm.trans List.map_nil)]
  | cons first rest induction =>
      obtain ⟨other, others, rfl, sameFirst, sameRest⟩ :=
        List.map_eq_cons_iff.mp same.symm
      cases rest with
      | nil =>
          obtain rfl : others = [] := List.map_eq_nil_iff.mp sameRest
          rfl
      | cons next later =>
          obtain ⟨otherNext, otherLater, rfl, sameNext, _⟩ :=
            List.map_eq_cons_iff.mp sameRest
          simp only [firstOverlap?, sameFirst, sameNext, induction sameRest.symm]

theorem find?_fits_congr {left right : List Edit}
    (same : left.map span = right.map span) (text : List Char) :
    (left.find? fun edit => !edit.fits text).map span =
      (right.find? fun edit => !edit.fits text).map span := by
  have finds :
      ∀ edits : List Edit, (edits.find? fun edit => !edit.fits text).map span =
        (edits.map span).find? fun span => !(removing span).fits text := by
    intro edits
    rw [List.find?_map]
    rfl
  rw [finds, finds, same]

/-- Whether edits are refused, and why, is told by their spans. -/
theorem applyAll_eq_error_iff {edits : List Edit} {text : String}
    {refusal : EditError} :
    applyAll edits text = .error refusal ↔
      refusal? (edits.map span) text = some refusal := by
  have same : edits.map span = ((edits.map span).map removing).map span := by
    rw [List.map_map, List.map_map]
    rfl
  have sorted := map_span_mergeSort same
  have found := find?_fits_congr sorted text.toList
  rw [refusal?]
  simp only [applyAll]
  rw [← firstOverlap?_congr sorted]
  generalize firstOverlap? (edits.mergeSort precedes) = overlap
  generalize (((edits.map span).map removing).mergeSort precedes).find?
    (fun edit => !edit.fits text.toList) = misfit at found ⊢
  generalize (edits.mergeSort precedes).find?
    (fun edit => !edit.fits text.toList) = other at found ⊢
  cases overlap with
  | some spans => simp
  | none =>
      cases misfit with
      | none =>
          rw [Option.map_none, Option.map_eq_none_iff] at found
          simp [found]
      | some edit =>
          obtain ⟨another, rfl, sameSpan⟩ := Option.map_eq_some_iff.mp found
          simp [sameSpan]

theorem applyAll_nil (text : String) : applyAll [] text = .ok text := by
  simp [applyAll, firstOverlap?, splice]

end Edit

/-- Without edits a text stays as it is. -/
theorem Spliced.eq_of_nil {position : Nat} {text result : List Char}
    (spliced : Spliced position text [] result) : result = text := by
  cases spliced
  rfl

end VuePrecompiler.Source
