import VuePrecompiler.Proofs.Cuts
import VuePrecompiler.Proofs.LexemePlaces

/-!
# Slices of a source

The text that a cursor passes is the slice of the source between the two
positions.  So whatever is taken by moving a cursor comes with a span that
lies in the source and falls between characters.
-/

namespace VuePrecompiler.Text

theorem utf8ByteSize_ofList (text : List Char) :
    (String.ofList text).utf8ByteSize = byteLength text := by
  induction text with
  | nil => rfl
  | cons c rest induction =>
      rw [String.ofList_cons, String.utf8ByteSize_append,
        String.utf8ByteSize_singleton, induction, byteLength_cons]

theorem byteLength_toList (text : String) :
    byteLength text.toList = text.utf8ByteSize := by
  rw [← utf8ByteSize_ofList, String.ofList_toList]

theorem breakOn_singleton (stop : Char) (text : List Char) :
    breakOn [stop] text = (text.takeWhile (· != stop),
      text.dropWhile (· != stop)) := by
  induction text with
  | nil => rfl
  | cons c rest induction =>
      rw [breakOn, List.takeWhile_cons, List.dropWhile_cons, induction]
      by_cases here : c = stop
      · subst here
        simp
      · have notHere : (stop == c) = false := beq_eq_false_iff_ne.mpr (Ne.symm here)
        simp [List.isPrefixOf, notHere, here]

theorem sliceBytes?_append (before taken after : List Char) :
    sliceBytes? (byteLength before) (byteLength before + byteLength taken)
      (before ++ (taken ++ after)) = some taken := by
  have behind : dropBytes? (byteLength before) (before ++ (taken ++ after)) =
      some (taken ++ after) := by
    rw [dropBytes?_eq, splitAtByte?_append]
    rfl
  have ordered : ¬ byteLength before + byteLength taken < byteLength before := by omega
  simp only [sliceBytes?, ordered, ↓reduceIte, behind, Nat.add_sub_cancel_left]
  rw [Option.bind_eq_bind, Option.bind_some, splitAtByte?_append]
  rfl

/-- What is sliced stands between the two positions. -/
theorem of_sliceBytes?_eq_some {start stop : Nat} {text taken : List Char}
    (sliced : sliceBytes? start stop text = some taken) :
    ∃ before after, text = before ++ (taken ++ after) ∧ byteLength before = start ∧
      start + byteLength taken = stop := by
  unfold sliceBytes? at sliced
  split at sliced
  · contradiction
  · next ordered =>
    rw [dropBytes?_eq] at sliced
    obtain ⟨behind, first, sliced⟩ := Option.bind_eq_some_iff.mp sliced
    obtain ⟨⟨before, _⟩, cut, rfl⟩ := Option.map_eq_some_iff.mp first
    obtain ⟨⟨inside, after⟩, second, same⟩ := Option.bind_eq_some_iff.mp sliced
    obtain rfl : inside = taken := Option.some.inj same
    obtain ⟨whole, size⟩ := of_splitAtByte?_eq_some cut
    obtain ⟨rfl, length⟩ := of_splitAtByte?_eq_some second
    exact ⟨before, after, whole, size, by omega⟩

end VuePrecompiler.Text

namespace VuePrecompiler.Source

open Text

namespace Span

/-- The text of a source at a span, if the span lies in it and cuts no character. -/
def slice? (source : String) (span : Span) : Option String :=
  (sliceBytes? span.start span.stop source.toList).map String.ofList

/-- A span lies in a source: its ends are in order, not behind the end, and
between characters. -/
structure LiesIn (source : String) (span : Span) : Prop where
  ordered : span.start ≤ span.stop
  bounded : span.stop ≤ source.utf8ByteSize
  start : IsCut source.toList span.start
  stop : IsCut source.toList span.stop

theorem LiesIn.whole (source : String) : LiesIn source ⟨0, source.utf8ByteSize⟩ where
  ordered := Nat.zero_le _
  bounded := Nat.le_refl _
  start := ⟨[], source.toList, rfl, rfl⟩
  stop := ⟨source.toList, [], (List.append_nil _).symm, byteLength_toList source⟩

/-- A span lies in another one. -/
structure Within (outer inner : Span) : Prop where
  start : outer.start ≤ inner.start
  stop : inner.stop ≤ outer.stop

namespace Within

variable {first second third : Span}

theorem refl (span : Span) : Within span span :=
  ⟨Nat.le_refl _, Nat.le_refl _⟩

theorem trans (outer : Within first second) (inner : Within second third) :
    Within first third :=
  ⟨Nat.le_trans outer.start inner.start, Nat.le_trans inner.stop outer.stop⟩

end Within

/-- A text stands in a source at a span inside of another one. -/
structure Quotes (source : String) (outer : Span) (text : String)
    (span : Span) : Prop where
  inside : outer.Within span
  slice : span.slice? source = some text

theorem Quotes.widen {source text : String} {wide outer span : Span}
    (quotes : outer.Quotes source text span) (inside : wide.Within outer) :
    wide.Quotes source text span :=
  ⟨inside.trans quotes.inside, quotes.slice⟩

/-- What can be sliced lies in the source. -/
theorem liesIn_of_slice? {source text : String} {span : Span}
    (slice : span.slice? source = some text) : span.LiesIn source := by
  obtain ⟨taken, sliced, _⟩ := Option.map_eq_some_iff.mp slice
  obtain ⟨before, after, whole, start, stop⟩ := of_sliceBytes?_eq_some sliced
  have length : byteLength (before ++ taken) = span.stop := by
    rw [byteLength_append, start, stop]
  refine ⟨by omega, ?_, ⟨before, _, whole, start⟩,
    ⟨before ++ taken, after, ?_, length⟩⟩
  · rw [← byteLength_toList, whole, byteLength_append, byteLength_append]
    omega
  · rw [whole, List.append_assoc]

/-- The span of a text that starts at a position. -/
def ofText (start : Nat) (text : String) : Span :=
  ⟨start, start + text.utf8ByteSize⟩

end Span

end VuePrecompiler.Source

namespace VuePrecompiler.Text

open Source

namespace Cursor

/-- A cursor passes a text. -/
def Passes (before : Cursor) (text : List Char) (after : Cursor) : Prop :=
  before.rest = text ++ after.rest ∧ after.offset = before.offset + byteLength text

theorem Passes.reaches {before after : Cursor} {text : List Char}
    (passes : before.Passes text after) : before.Reaches after :=
  ⟨text, passes⟩

theorem passes_takeWhile (test : Char → Bool) (cursor : Cursor) :
    cursor.Passes (cursor.takeWhile test).1 (cursor.takeWhile test).2 :=
  ⟨List.takeWhile_append_dropWhile.symm, rfl⟩

theorem passes_takeUntil (stop : List Char) (cursor : Cursor) :
    cursor.Passes (cursor.takeUntil stop).1 (cursor.takeUntil stop).2 :=
  ⟨(breakOn_append stop cursor.rest).symm, rfl⟩

namespace Passes

variable {first second third : Cursor} {left right : List Char}

theorem append (near : first.Passes left second) (far : second.Passes right third) :
    first.Passes (left ++ right) third := by
  obtain ⟨shapeLeft, placeLeft⟩ := near
  obtain ⟨shapeRight, placeRight⟩ := far
  constructor
  · rw [shapeLeft, shapeRight, List.append_assoc]
  · rw [placeRight, placeLeft, byteLength_append, Nat.add_assoc]

end Passes

/-- Who passes less of a text reaches the one who passes more of it. -/
theorem Passes.reaches_of_prefix {first second third : Cursor} {short long : List Char}
    (near : first.Passes short second) (far : first.Passes long third)
    (begins : short <+: long) : second.Reaches third := by
  obtain ⟨more, rfl⟩ := begins
  refine ⟨more, ?_, ?_⟩
  · have same := near.1.symm.trans far.1
    rw [List.append_assoc] at same
    exact List.append_cancel_left same
  · rw [far.2, near.2, byteLength_append, Nat.add_assoc]

theorem passes_skip {count : Nat} {text tail : List Char} {cursor : Cursor}
    (shape : cursor.rest = text ++ tail) (long : text.length = count) :
    cursor.Passes text (cursor.skip count) := by
  induction text generalizing count cursor with
  | nil =>
      subst long
      exact ⟨rfl, rfl⟩
  | cons c text induction =>
      subst long
      have bumped : cursor.Passes [c] cursor.bump := by
        rcases cursor with ⟨offset, rest⟩
        obtain rfl : rest = c :: (text ++ tail) := shape
        exact ⟨rfl, rfl⟩
      have behind : cursor.bump.rest = text ++ tail := by
        have same := bumped.1.symm.trans shape
        exact List.append_cancel_left same
      exact bumped.append (induction behind rfl)

theorem passes_bump (cursor : Cursor) :
    cursor.Passes (cursor.rest.take 1) cursor.bump := by
  rcases cursor with ⟨offset, _ | ⟨c, rest⟩⟩ <;> exact ⟨rfl, rfl⟩

/-- The span of what is passed, from the position where it starts. -/
theorem Passes.span_eq {first second : Cursor} {taken : List Char}
    (passes : first.Passes taken second) :
    ⟨first.offset, second.offset⟩ =
      Span.ofText first.offset (String.ofList taken) := by
  rw [Span.ofText, utf8ByteSize_ofList, passes.2]

theorem Reaches.le {first second : Cursor} (reaches : first.Reaches second) :
    first.offset ≤ second.offset := by
  obtain ⟨passed, _, place⟩ := reaches
  omega

theorem Reaches.length_lt {first second : Cursor} (reaches : first.Reaches second)
    (less : first.offset < second.offset) :
    second.rest.length < first.rest.length := by
  obtain ⟨passed, shape, place⟩ := reaches
  cases passed with
  | nil =>
      rw [byteLength_nil, Nat.add_zero] at place
      omega
  | cons c passed =>
      rw [shape, List.length_append, List.length_cons]
      omega

/-- Moving a cursor does not change where the text ends. -/
theorem Reaches.stop_eq {first second : Cursor} (reaches : first.Reaches second) :
    second.offset + byteLength second.rest = first.offset + byteLength first.rest := by
  obtain ⟨passed, shape, place⟩ := reaches
  rw [shape, byteLength_append, place, Nat.add_assoc]

/-- A cursor stands in a source. -/
def StandsIn (source : String) (cursor : Cursor) : Prop :=
  (Cursor.start source).Reaches cursor

namespace StandsIn

variable {source : String} {first second : Cursor}

theorem start (source : String) : (Cursor.start source).StandsIn source :=
  .refl _

theorem next (stands : first.StandsIn source) (reaches : first.Reaches second) :
    second.StandsIn source :=
  stands.trans reaches

theorem isCut (stands : first.StandsIn source) : IsCut source.toList first.offset := by
  obtain ⟨passed, shape, place⟩ := stands
  exact ⟨passed, first.rest, shape, (place.trans (Nat.zero_add _)).symm⟩

/-- A position and what is left of the source make up the source. -/
theorem size (stands : first.StandsIn source) :
    first.offset + byteLength first.rest = source.utf8ByteSize := by
  rw [stands.stop_eq, ← byteLength_toList]
  exact Nat.zero_add _

/-- There is one cursor at each position. -/
theorem eq_of_offset (stands : first.StandsIn source)
    (standsToo : second.StandsIn source)
    (same : first.offset = second.offset) : first = second := by
  obtain ⟨left, shapeLeft, placeLeft⟩ := stands
  obtain ⟨right, shapeRight, placeRight⟩ := standsToo
  have sizes : byteLength left = byteLength right := by omega
  have rests : first.rest = second.rest := by
    have cut := splitAtByte?_append left first.rest
    rw [← shapeLeft, shapeRight, sizes, splitAtByte?_append] at cut
    exact (Prod.mk.inj (Option.some.inj cut)).2.symm
  rcases first with ⟨offset, rest⟩
  rcases second with ⟨offset', rest'⟩
  exact congr (congrArg Cursor.mk same) rests

theorem slice? {taken : List Char} (stands : first.StandsIn source)
    (passes : first.Passes taken second) :
    Span.slice? source ⟨first.offset, second.offset⟩ = some (String.ofList taken) := by
  obtain ⟨before, shape, place⟩ := stands
  have whole : source.toList = before ++ (taken ++ second.rest) := by
    rw [← passes.1]
    exact shape
  have start : first.offset = byteLength before := place.trans (Nat.zero_add _)
  rw [Span.slice?, passes.2, start, whole, sliceBytes?_append]
  rfl

/-- A text that is passed on the way from one cursor to another is
quoted between them. -/
theorem quotes {inner after last : Cursor} {taken : List Char}
    (stands : first.StandsIn source) (front : first.Reaches inner)
    (passes : inner.Passes taken after) (behind : after.Reaches last) :
    Span.Quotes source ⟨first.offset, last.offset⟩ (String.ofList taken)
      ⟨inner.offset, after.offset⟩ :=
  ⟨⟨front.le, behind.le⟩, (stands.next front).slice? passes⟩

/-- The text between two cursors lies in the source. -/
theorem liesIn (stands : first.StandsIn source) (reaches : first.Reaches second) :
    Span.LiesIn source ⟨first.offset, second.offset⟩ where
  ordered := by
    obtain ⟨passed, _, place⟩ := reaches
    exact place ▸ Nat.le_add_right _ _
  bounded := (stands.next reaches).size ▸ Nat.le_add_right _ _
  start := stands.isCut
  stop := (stands.next reaches).isCut

end StandsIn

/-- What lies between two cursors lies between two others around them. -/
theorem Reaches.within {first second third fourth : Cursor}
    (front : first.Reaches second) (behind : third.Reaches fourth) :
    Span.Within ⟨first.offset, fourth.offset⟩ ⟨second.offset, third.offset⟩ :=
  ⟨front.le, behind.le⟩

end Cursor

end VuePrecompiler.Text
