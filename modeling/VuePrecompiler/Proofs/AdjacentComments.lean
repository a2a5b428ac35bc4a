import VuePrecompiler.Binding.Found
import VuePrecompiler.Proofs.Numbers
import VuePrecompiler.Proofs.Slices
import VuePrecompiler.Proofs.SpannedTrees
import VuePrecompiler.Proofs.Trimming

/-!
# Comments in front of a position

The comments of a text lie one behind another.  Those in front of a position
are found by going back over them, as long as blanks only lie in between.  So
they are the comments behind which, up to the position, every character is
blank or belongs to a comment.
-/

namespace VuePrecompiler.Text

/-- A character of a text begins at a position. -/
def BeginsAt (text : List Char) (position : Nat) (c : Char) : Prop :=
  ∃ before after, text = before ++ c :: after ∧ byteLength before = position

namespace BeginsAt

variable {left right : List Char} {position : Nat} {c : Char}

/-- What begins behind the first part of a text begins in the second part. -/
theorem of_append (begins : BeginsAt (left ++ right) position c)
    (behind : byteLength left ≤ position) :
    BeginsAt right (position - byteLength left) c := by
  obtain ⟨before, after, parts, rfl⟩ := begins
  obtain ⟨inside, rfl, rfl⟩ := exists_middle parts behind
  exact ⟨inside, after, rfl, by simp⟩

/-- What begins in the first part of a text belongs to it. -/
theorem mem_of_lt (begins : BeginsAt (left ++ right) position c)
    (most : position < byteLength left) : c ∈ left := by
  obtain ⟨before, after, parts, rfl⟩ := begins
  rcases List.append_eq_append_iff.mp parts with ⟨inside, rfl, _⟩ | ⟨extra, rfl, shape⟩
  · rw [byteLength_append] at most
    omega
  · cases extra with
    | nil => simp at most
    | cons first extra =>
        obtain ⟨rfl, _⟩ := List.cons.inj shape
        simp

end BeginsAt

/-- The characters between two cuts are those that begin there. -/
theorem mem_between_iff {before inside after : List Char} {c : Char} :
    c ∈ inside ↔ ∃ position, BeginsAt (before ++ (inside ++ after)) position c ∧
      byteLength before ≤ position ∧
      position < byteLength before + byteLength inside := by
  constructor
  · intro member
    obtain ⟨front, back, rfl⟩ := List.append_of_mem member
    have positive := c.utf8Size_pos
    refine ⟨byteLength (before ++ front),
      ⟨before ++ front, back ++ after, by simp, rfl⟩, ?_, ?_⟩
    · simp
    · simp
      omega
  · rintro ⟨position, begins, least, most⟩
    exact (begins.of_append least).mem_of_lt (by omega)

/-- There are blanks only between two positions if both are cuts, in order, and
whatever begins between them is blank. -/
theorem isBlankBetween_iff {text : List Char} {start stop : Nat} :
    Binding.isBlankBetween text start stop = true ↔
      start ≤ stop ∧ IsCut text start ∧ IsCut text stop ∧
        ∀ position c, BeginsAt text position c → start ≤ position → position < stop →
          isBlank c = true := by
  simp only [Binding.isBlankBetween, Option.any_eq_true, List.all_eq_true]
  constructor
  · rintro ⟨gap, sliced, blank⟩
    obtain ⟨before, after, rfl, rfl, rfl⟩ := of_sliceBytes?_eq_some sliced
    refine ⟨Nat.le_add_right _ _, ⟨before, gap ++ after, rfl, rfl⟩,
      ⟨before ++ gap, after, by simp, by simp⟩, ?_⟩
    intro position c begins least most
    exact blank c (mem_between_iff.mpr ⟨position, begins, least, most⟩)
  · rintro ⟨ordered, first, second, blank⟩
    obtain ⟨before, gap, after, rfl, rfl, length⟩ := first.between second ordered
    obtain rfl : stop = byteLength before + byteLength gap := by omega
    refine ⟨gap, sliceBytes?_append before gap after, fun c member => ?_⟩
    obtain ⟨position, begins, least, most⟩ := mem_between_iff.mp member
    exact blank position c begins least most

end VuePrecompiler.Text

namespace VuePrecompiler.Binding

open Text Source Javascript

/-! ## Comments of a text -/

/-- Comments that lie in a text, one behind another. -/
structure AreCommentsOf (text : List Char) (comments : List Comment) : Prop where
  cover : ∀ comment ∈ comments, coversIn text comment.span = true
  ordered : comments.Pairwise fun left right => left.span.stop ≤ right.span.start

/-- From one position of a text to another, every character is blank or
lies in a comment. -/
structure IsClear (comments : List Comment) (text : List Char)
    (start stop : Nat) : Prop where
  isCut : IsCut text stop
  each : ∀ position c, BeginsAt text position c → start ≤ position → position < stop →
    isBlank c = true ∨
      ∃ other ∈ comments, other.span.start ≤ position ∧ position < other.span.stop

/-- A comment stands in front of a position. -/
structure IsInFront (comments : List Comment) (text : List Char) (position : Nat)
    (comment : Comment) : Prop where
  before : comment.span.stop ≤ position
  clear : IsClear comments text comment.span.stop position

theorem isInFront_iff {comments : List Comment} {text : List Char} {position : Nat}
    {comment : Comment} :
    IsInFront comments text position comment ↔
      comment.span.stop ≤ position ∧
      IsClear comments text comment.span.stop position :=
  ⟨fun inFront => ⟨inFront.before, inFront.clear⟩,
    fun ⟨before, clear⟩ => ⟨before, clear⟩⟩

section

variable {comments : List Comment} {text : List Char} {start middle stop : Nat}

theorem isClear_iff_of_between (cut : IsCut text middle) (front : start ≤ middle)
    (back : middle ≤ stop) :
    IsClear comments text start stop ↔
      IsClear comments text start middle ∧ IsClear comments text middle stop := by
  constructor
  · intro clear
    constructor
    · exact ⟨cut, fun position c begins least most =>
        clear.each position c begins least (Nat.lt_of_lt_of_le most back)⟩
    · exact ⟨clear.isCut, fun position c begins least most =>
        clear.each position c begins (Nat.le_trans front least) most⟩
  · rintro ⟨left, right⟩
    refine ⟨right.isCut, fun position c begins least most => ?_⟩
    by_cases inLeft : position < middle
    · exact left.each position c begins least inLeft
    · exact right.each position c begins (Nat.le_of_not_lt inLeft) most

theorem isClear_of_blank (blank : isBlankBetween text start stop = true) :
    IsClear comments text start stop := by
  obtain ⟨_, _, cut, blanks⟩ := isBlankBetween_iff.mp blank
  exact ⟨cut, fun position c begins least most =>
    .inl (blanks position c begins least most)⟩

theorem isClear_of_mem (areComments : AreCommentsOf text comments) {comment : Comment}
    (member : comment ∈ comments) :
    IsClear comments text comment.span.start comment.span.stop := by
  obtain ⟨_, _, cut⟩ := coversIn_iff.mp (areComments.cover comment member)
  exact ⟨cut, fun position c begins least most => .inr ⟨comment, member, least, most⟩⟩

/-- Where no comment lies in between, what is clear is blank. -/
theorem isBlankBetween_of_isClear (ordered : middle ≤ stop) (cut : IsCut text middle)
    (notBetween : ∀ comment ∈ comments, comment.span.stop ≤ middle ∨
      stop ≤ comment.span.start)
    (front : start ≤ middle) (clear : IsClear comments text start stop) :
    isBlankBetween text middle stop = true := by
  refine isBlankBetween_iff.mpr ⟨ordered, cut, clear.isCut, ?_⟩
  intro position c begins least most
  rcases clear.each position c begins (Nat.le_trans front least) most with
    blank | ⟨comment, isComment, begun, notEnded⟩
  · exact blank
  · rcases notBetween comment isComment with before | behind <;> omega

end

/-! ## The way back -/

/-- In order, the comments that end up to a position come first. -/
theorem takeWhile_eq_filter {text : List Char} {comments : List Comment}
    (areComments : AreCommentsOf text comments) (position : Nat) :
    (comments.takeWhile fun comment => comment.span.stop ≤ position) =
      comments.filter fun comment => comment.span.stop ≤ position := by
  obtain ⟨cover, ordered⟩ := areComments
  induction comments with
  | nil => rfl
  | cons comment comments induction =>
      obtain ⟨fromFirst, fromRest⟩ := List.pairwise_cons.mp ordered
      have coverRest : ∀ other ∈ comments, coversIn text other.span = true :=
        fun other member => cover other (List.mem_cons_of_mem _ member)
      by_cases ends : comment.span.stop ≤ position
      · simp [ends, induction coverRest fromRest]
      · have later :
            comments.filter (fun other => other.span.stop ≤ position) = [] := by
          rw [List.filter_eq_nil_iff]
          intro other member
          have behind := fromFirst other member
          obtain ⟨whole, _⟩ := coversIn_iff.mp (coverRest other member)
          simp only [decide_eq_true_eq]
          omega
        simp [ends, later]

open Classical in
/-- Going back from a position that all comments passed end before, and all
others begin behind. -/
theorem adjacent_eq_filter {text : List Char} {comments passed : List Comment}
    {position : Nat} (areComments : AreCommentsOf text comments)
    (ordered : passed.Pairwise fun left right => right.span.stop ≤ left.span.start)
    (known : ∀ comment ∈ passed, comment ∈ comments ∧ comment.span.stop ≤ position)
    (others : ∀ comment ∈ comments, comment ∈ passed ∨ position ≤ comment.span.start) :
    adjacent text position passed =
      passed.filter fun comment =>
        IsClear comments text comment.span.stop position := by
  -- over the comments passed: if the nearest is taken, the position moves to its
  -- start, and it is one of the others from then on
  induction passed generalizing position with
  | nil => rfl
  | cons comment before induction =>
      obtain ⟨fromFirst, fromRest⟩ := List.pairwise_cons.mp ordered
      obtain ⟨isComment, ends⟩ := known comment List.mem_cons_self
      obtain ⟨whole, startCut, stopCut⟩ :=
        coversIn_iff.mp (areComments.cover comment isComment)
      have upTo :
          ∀ other ∈ comment :: before, other.span.stop ≤ comment.span.stop := by
        intro other member
        rcases List.mem_cons.mp member with rfl | isBefore
        · exact Nat.le_refl _
        · exact Nat.le_trans (fromFirst other isBefore) whole
      by_cases blank : isBlankBetween text comment.span.stop position = true
      · have clear : IsClear comments text comment.span.stop position :=
          isClear_of_blank blank
        have same : ∀ other ∈ before, IsClear comments text other.span.stop position ↔
            IsClear comments text other.span.stop comment.span.start := by
          intro other member
          have inside : IsClear comments text comment.span.start position :=
            (isClear_iff_of_between stopCut whole ends).mpr
              ⟨isClear_of_mem areComments isComment, clear⟩
          rw [isClear_iff_of_between startCut (fromFirst other member)
            (Nat.le_trans whole ends)]
          exact and_iff_left inside
        have rest := @induction comment.span.start fromRest ?_ ?_
        · rw [adjacent, if_pos blank, rest,
            List.filter_cons_of_pos (by simpa using clear)]
          congr 1
          apply List.filter_congr
          intro other member
          simp [same other member]
        · intro other member
          exact ⟨(known other (List.mem_cons_of_mem _ member)).1,
            fromFirst other member⟩
        · intro other member
          rcases others other member with isPassed | behind
          · rcases List.mem_cons.mp isPassed with rfl | isBefore
            · exact .inr (Nat.le_refl _)
            · exact .inl isBefore
          · exact .inr (Nat.le_trans whole (Nat.le_trans ends behind))
      · have notBetween : ∀ third ∈ comments, third.span.stop ≤ comment.span.stop ∨
            position ≤ third.span.start := by
          intro third isThird
          rcases others third isThird with isPassed | behind
          · exact .inl (upTo third isPassed)
          · exact .inr behind
        rw [adjacent, if_neg blank, eq_comm, List.filter_eq_nil_iff]
        intro other member clear
        apply blank
        exact isBlankBetween_of_isClear ends stopCut notBetween (upTo other member)
          (of_decide_eq_true clear)

open Classical in
/-- The comments found are those in front of the position. -/
theorem commentsBefore_eq_filter {text : List Char} {comments : List Comment}
    {position : Nat} (areComments : AreCommentsOf text comments)
    (outside : ∀ comment ∈ comments,
      ¬ (comment.span.start < position ∧ position < comment.span.stop)) :
    commentsBefore comments text position =
      comments.filter fun comment => IsInFront comments text position comment := by
  have passed : comments.takeWhile (fun comment => comment.span.stop ≤ position) =
      comments.filter fun comment => comment.span.stop ≤ position :=
    takeWhile_eq_filter areComments position
  have back := @adjacent_eq_filter text comments
    (comments.filter fun comment => comment.span.stop ≤ position).reverse position
    areComments ?_ ?_ ?_
  · rw [commentsBefore, passed, back, List.filter_reverse, List.reverse_reverse,
      List.filter_filter]
    apply List.filter_congr
    intro comment _
    simp [isInFront_iff, Bool.and_comm]
  · apply List.pairwise_reverse.mpr
    exact areComments.ordered.filter _
  · intro comment member
    simpa using member
  · intro comment member
    by_cases ends : comment.span.stop ≤ position
    · exact .inl (by simpa using ⟨member, ends⟩)
    · have notInside := outside comment member
      exact .inr (by omega)

/-! ## Lines with the marker -/

/-- A line says the marker word, in letters of either case: with blanks around it,
and behind an asterisk perhaps. -/
def SaysMarker (line : List Char) : Prop :=
  ∃ before star word after, line = before ++ (star ++ (word ++ after)) ∧
    (∀ c ∈ before, isBlank c = true) ∧ (∀ c ∈ after, isBlank c = true) ∧
    (star = [] ∨ ∃ blanks, star = '*' :: blanks ∧ ∀ c ∈ blanks, isBlank c = true) ∧
    word.map Char.toLower = marker

theorem isBlank_toLower (c : Char) : isBlank c.toLower = isBlank c := by
  have capitals : ∀ code < 91, 65 ≤ code →
      isBlank (Char.ofNat code).toLower = isBlank (Char.ofNat code) := by
    decide
  rcases capital_or_toLower_eq c with ⟨code, least, most, rfl⟩ | same
  · exact capitals code most least
  · rw [same]

/-- Both ends of the marker word are visible, and it does not begin
with an asterisk. -/
theorem exists_ends_of_marker {word : List Char}
    (isMarker : word.map Char.toLower = marker) :
    ∃ first text last, word = first :: (text ++ [last]) ∧ first ≠ '*' ∧
      isBlank first = false ∧ isBlank last = false := by
  have parts : word.map Char.toLower = '@' :: ("coolievu".toList ++ ['e']) := isMarker
  obtain ⟨first, rest, rfl, sign, more⟩ := List.map_eq_cons_iff.mp parts
  obtain ⟨text, ending, rfl, _, lastOnly⟩ := List.map_eq_append_iff.mp more
  obtain ⟨last, rfl, letter⟩ := List.map_eq_singleton_iff.mp lastOnly
  refine ⟨first, text, last, rfl, ?_, ?_, ?_⟩
  · rintro rfl
    exact absurd sign (by decide)
  · rw [← isBlank_toLower, sign]
    decide
  · rw [← isBlank_toLower, letter]
    decide

/-- A line is taken for a marker if it says the marker word. -/
theorem isMarkerLine_iff {line : List Char} :
    isMarkerLine line = true ↔ SaysMarker line := by
  constructor
  · intro isLine
    obtain ⟨before, after, whole, blanksBefore, blanksAfter⟩ := exists_trim line
    simp only [isMarkerLine, beq_iff_eq] at isLine
    split at isLine
    · next rest shape =>
      have blanks : ∀ c ∈ rest.takeWhile isBlank, isBlank c = true :=
        List.all_eq_true.mp List.all_takeWhile
      refine ⟨before, '*' :: rest.takeWhile isBlank, trimStart rest, after, ?_,
        blanksBefore, blanksAfter, .inr ⟨_, rfl, blanks⟩, isLine⟩
      have behind : rest = rest.takeWhile isBlank ++ trimStart rest :=
        List.takeWhile_append_dropWhile.symm
      calc line
        _ = before ++ ('*' :: rest ++ after) := by rw [whole, shape, List.append_assoc]
        _ = before ++
            ('*' :: (rest.takeWhile isBlank ++ trimStart rest) ++ after) := by
          rw [← behind]
        _ = _ := by simp
    · exact ⟨before, [], trim line, after, by simpa using whole, blanksBefore,
        blanksAfter, .inl rfl, isLine⟩
  · rintro ⟨before, star, word, after, rfl, blanksBefore, blanksAfter, mayStar, isWord⟩
    obtain ⟨first, text, last, rfl, noStar, firstVisible, lastVisible⟩ :=
      exists_ends_of_marker isWord
    rcases mayStar with rfl | ⟨blanks, rfl, areBlank⟩
    · have trimmed : trim (before ++ ([] ++ (first :: (text ++ [last]) ++ after))) =
          first :: (text ++ [last]) :=
        trim_visible text blanksBefore firstVisible lastVisible blanksAfter
      rw [isMarkerLine, trimmed]
      split
      · next same =>
        exact absurd (List.cons.inj same).1 noStar
      · simpa using isWord
    · have shape : before ++ ('*' :: blanks ++ (first :: (text ++ [last]) ++ after)) =
          before ++ ('*' :: (blanks ++ first :: text ++ [last]) ++ after) := by simp
      have behind : trimStart (blanks ++ first :: text ++ [last]) =
          first :: (text ++ [last]) := by
        rw [List.append_assoc, trimStart, List.dropWhile_append_of_pos areBlank,
          List.cons_append, List.dropWhile_cons, firstVisible,
          if_neg Bool.false_ne_true]
      rw [isMarkerLine, shape, trim_visible _ blanksBefore (by decide)
        lastVisible blanksAfter]
      change ((trimStart (blanks ++ first :: text ++ [last])).map Char.toLower ==
        marker) = true
      rw [behind, isWord, beq_self_eq_true]

/-! ## Marked bindings -/

namespace Found

/-- Where the marker of a binding is looked for: in front of the
assignment or of the key. -/
def markedAt (span : Span) (found : Found) : Nat :=
  match found.form with
  | .assignment => span.start
  | .property => found.replaced.start

/-- A node is a marked binding if it is a binding and marked. -/
theorem ofNode?_eq_some_iff {marked : Nat → Bool} {kind : Kind} {span : Span}
    {children : List Tree} {found : Found} :
    ofNode? marked kind span children = some found ↔
      ofNode? (fun _ => true) kind span children = some found ∧
        marked (found.markedAt span) = true := by
  unfold ofNode?
  split
  · next target value =>
    cases targetStart? target with
    | none => simp
    | some start =>
        simp only [Option.bind_some, Option.ite_none_right_eq_some, Option.some.injEq,
          ↓reduceIte]
        rw [and_comm]
        apply and_congr_right
        rintro rfl
        rfl
  · next key value =>
    cases keyStart? key with
    | none => simp
    | some start =>
        simp only [Option.bind_some, Option.ite_none_right_eq_some, Option.some.injEq,
          ↓reduceIte]
        rw [and_comm]
        apply and_congr_right
        rintro rfl
        rfl
  · simp

end Found

open Classical in
/-- The comments found in front of a position are, in order, those behind which,
up to the position, every character is blank or belongs to a comment; and a
binding there is marked if one of these has a line with the marker. -/
theorem commentsBefore_inFront {text : List Char} {comments : List Comment}
    {position : Nat} (areComments : AreCommentsOf text comments)
    (outside : ∀ comment ∈ comments,
      ¬ (comment.span.start < position ∧ position < comment.span.stop)) :
    commentsBefore comments text position =
        comments.filter (fun comment => IsInFront comments text position comment) ∧
      ∀ kind span children found,
        Found.ofNode? (fun _ => true) kind span children = some found →
        found.markedAt span = position →
        (Found.ofNode? (fun place => isMarked (commentsBefore comments text place))
            kind span children = some found ↔
          ∃ comment ∈ comments, IsInFront comments text position comment ∧
            ∃ line ∈ splitOnChar '\n' comment.text.toList, SaysMarker line) := by
  have inFront := commentsBefore_eq_filter areComments outside
  refine ⟨inFront, ?_⟩
  rintro kind span children found isBinding rfl
  rw [Found.ofNode?_eq_some_iff, and_iff_right isBinding, inFront]
  simp [isMarked, isMarker, isMarkerLine_iff]

open Classical in
/-- Two of three comments stand in front of a property, and the first
of them marks it. -/
theorem commentsBefore_inFront_property :
    let text := "/**/{/*@coolievue*/ /**/ template:0}".toList
    let far : Comment := ⟨"", ⟨0, 4⟩, false⟩
    let near : List Comment := [⟨"@coolievue", ⟨5, 19⟩, false⟩, ⟨"", ⟨20, 24⟩, false⟩]
    AreCommentsOf text (far :: near) ∧
      (∀ comment ∈ far :: near, ¬ (comment.span.start < 25 ∧ 25 < comment.span.stop)) ∧
      (far :: near).filter (fun comment => IsInFront (far :: near) text 25 comment) =
        near ∧
      ∃ comment ∈ far :: near, IsInFront (far :: near) text 25 comment ∧
        ∃ line ∈ splitOnChar '\n' comment.text.toList, SaysMarker line := by
  intro text far near
  have areComments : AreCommentsOf text (far :: near) := by
    constructor <;> decide
  have outside : ∀ comment ∈ far :: near,
      ¬ (comment.span.start < 25 ∧ 25 < comment.span.stop) := by
    decide
  obtain ⟨found, marks⟩ := commentsBefore_inFront areComments outside
  have marked := marks .property ⟨25, 35⟩
    [.node (.propertyName "template") ⟨25, 33⟩ [], .node (.number "0") ⟨34, 35⟩ []] _
    rfl rfl
  exact ⟨areComments, outside, found.symm.trans (by decide), marked.mp (by decide)⟩

end VuePrecompiler.Binding
