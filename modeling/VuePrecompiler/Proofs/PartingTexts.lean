import VuePrecompiler.Proofs.TokenSteps

/-!
# Texts that part at an attribute

Two texts are the same up to an attribute, which one spells with a mark and
the other with `v-`, and the same behind its name.  A cursor that has not
passed the mark in the first has read the same in the second: nothing that
goes on up to the mark stops in front of it.
-/

namespace VuePrecompiler.Text

/-! ## Cuts -/

/-- A text is cut in front of the first stretch that passes a test. -/
structure CutsWhere (cut : List Char → List Char × List Char)
    (stops : List Char → Bool) : Prop where
  none : cut [] = ([], [])
  here : ∀ c text, stops (c :: text) = true → cut (c :: text) = ([], c :: text)
  later : ∀ c text, stops (c :: text) = false →
    cut (c :: text) = (c :: (cut text).1, (cut text).2)

theorem cutsWhere_breakOn (stop : List Char) :
    CutsWhere (breakOn stop) stop.isPrefixOf where
  none := rfl
  here := fun _ _ begins => if_pos begins
  later := fun _ _ other => if_neg (Bool.eq_false_iff.mp other)

theorem cutsWhere_takeWhile (test : Char → Bool) :
    CutsWhere (fun text => (text.takeWhile test, text.dropWhile test))
      (fun text => text.head?.any (!test ·)) where
  none := rfl
  here := by
    intro c text fails
    have fails : test c = false := by simpa using fails
    rw [List.takeWhile_cons, List.dropWhile_cons, fails]
    rfl
  later := by
    intro c text passes
    have passes : test c = true := by simpa using passes
    rw [List.takeWhile_cons, List.dropWhile_cons, passes]
    rfl

namespace CutsWhere

variable {cut : List Char → List Char × List Char} {stops : List Char → Bool}
  (cuts : CutsWhere cut stops)
include cuts

theorem length_le (text : List Char) : (cut text).2.length ≤ text.length := by
  induction text with
  | nil => rw [cuts.none]
  | cons c text induction =>
      cases stop : stops (c :: text) with
      | true => rw [cuts.here c text stop]
      | false =>
          rw [cuts.later c text stop]
          exact Nat.le_succ_of_le induction

/-- Two texts that part somewhere are cut in front of that place the same, unless
the cut of the first is behind it. -/
theorem append {a b : Char} {first second : List Char}
    (inFront : ∀ left, left ≠ [] →
      stops (left ++ a :: first) = stops (left ++ b :: second))
    (there : stops (a :: first) = true → stops (b :: second) = true) (left : List Char)
    (near : first.length < (cut (left ++ a :: first)).2.length) :
    (cut (left ++ a :: first)).1 = (cut (left ++ b :: second)).1 ∧
      ∃ rest, (cut (left ++ a :: first)).2 = rest ++ a :: first ∧
        (cut (left ++ b :: second)).2 = rest ++ b :: second := by
  induction left with
  | nil =>
      rw [List.nil_append] at near ⊢
      cases stop : stops (a :: first) with
      | true =>
          rw [List.nil_append, cuts.here a first stop, cuts.here b second (there stop)]
          exact ⟨rfl, [], rfl, rfl⟩
      | false =>
          rw [cuts.later a first stop] at near
          exact absurd (cuts.length_le first) (Nat.not_le.mpr near)
  | cons c left induction =>
      have same := inFront (c :: left) (List.cons_ne_nil c left)
      rw [List.cons_append, List.cons_append] at same ⊢
      rw [List.cons_append] at near
      cases stop : stops (c :: (left ++ a :: first)) with
      | true =>
          rw [cuts.here c _ stop, cuts.here c _ (same ▸ stop)]
          exact ⟨rfl, c :: left, rfl, rfl⟩
      | false =>
          rw [cuts.later c _ stop] at near ⊢
          rw [cuts.later c _ (same ▸ stop)]
          obtain ⟨taken, rests⟩ := induction near
          exact ⟨congrArg (List.cons c) taken, rests⟩

end CutsWhere

/-- A prefix without a certain character ends in front of it. -/
theorem prefix_append_cons_iff {text : List Char} {c : Char} (plain : c ∉ text)
    (left right : List Char) : text <+: left ++ c :: right ↔ text <+: left := by
  constructor
  · rintro ⟨after, shape⟩
    rcases List.append_eq_append_iff.mp shape with
      ⟨more, rfl, _⟩ | ⟨overlap, rfl, tail⟩
    · exact List.prefix_append text more
    · cases overlap with
      | nil => simp
      | cons p overlap =>
          obtain ⟨rfl, _⟩ := List.cons.inj tail
          exact absurd (List.mem_append_right left List.mem_cons_self) plain
  · exact fun begins => begins.trans (List.prefix_append left _)

theorem isPrefixOf_append_cons {text : List Char} {c : Char} (plain : c ∉ text)
    (left right : List Char) :
    text.isPrefixOf (left ++ c :: right) = text.isPrefixOf left := by
  rw [Bool.eq_iff_iff, List.isPrefixOf_iff_prefix, List.isPrefixOf_iff_prefix,
    prefix_append_cons_iff plain]

theorem cut_append_of_mem {test : Char → Bool} {left : List Char}
    (stops : ∃ c ∈ left, test c = false) (right : List Char) :
    (left ++ right).takeWhile test = left.takeWhile test ∧
      (left ++ right).dropWhile test = left.dropWhile test ++ right := by
  induction left with
  | nil =>
      obtain ⟨c, member, _⟩ := stops
      contradiction
  | cons c left induction =>
      rw [List.cons_append, List.takeWhile_cons, List.takeWhile_cons,
        List.dropWhile_cons, List.dropWhile_cons]
      cases passes : test c with
      | false => exact ⟨rfl, rfl⟩
      | true =>
          have later : ∃ c ∈ left, test c = false := by
            obtain ⟨d, member, fails⟩ := stops
            rcases List.mem_cons.mp member with rfl | member
            · rw [passes] at fails
              contradiction
            · exact ⟨d, member, fails⟩
          obtain ⟨taken, dropped⟩ := induction later
          exact ⟨congrArg (List.cons c) taken, dropped⟩

end VuePrecompiler.Text

namespace VuePrecompiler.Template

open Source Text

/-- An attribute at a position, with what follows it, spelled with a
mark and spelled out. -/
structure Respelling where
  place : Nat
  mark : Char
  short : List Char
  long : List Char
  isMark : mark ∈ [':', '@', '#']
  sameItem : ∀ value span,
    TagItem.ofSource ⟨(mark :: short).takeWhile Token.isAttributeChar, value, span⟩ =
      TagItem.ofSource ⟨('v' :: long).takeWhile Token.isAttributeChar, value, span⟩
  sameRest : (mark :: short).dropWhile Token.isAttributeChar =
    ('v' :: long).dropWhile Token.isAttributeChar

/-- Slashes are taken off at the end only. -/
theorem dropSlashes_append_cons {c : Char} (other : c ≠ '/') (left right : List Char) :
    Token.dropSlashes (left ++ c :: right) = left ++ c :: Token.dropSlashes right := by
  have stays : (c :: left.reverse).dropWhile (· == '/') = c :: left.reverse :=
    List.dropWhile_cons_of_neg (by simpa using other)
  rw [Token.dropSlashes, List.reverse_append, List.reverse_cons, List.append_assoc,
    List.singleton_append, List.dropWhile_append, stays, Token.dropSlashes]
  split
  · next empty => simp [List.isEmpty_iff.mp empty]
  · simp

/-- Whether a text is cut in front of this. -/
def Token.stopsText (text : List Char) : Bool :=
  text.head?.any (fun c => decide (c = '<')) || ['{', '{'].isPrefixOf text

theorem Token.cutsWhere_textPart : CutsWhere Token.textPart Token.stopsText where
  none := rfl
  here := fun _ _ stop => if_pos stop
  later := fun _ _ goesOn => if_neg (Bool.eq_false_iff.mp goesOn)

namespace Respelling

variable (respelling : Respelling)

/-- The cursor has not passed the mark. -/
def Near (cursor : Cursor) : Prop :=
  respelling.short.length < cursor.rest.length

/-- Two cursors stand at the same distance in front of the two spellings, and the
attribute does not touch the name of a tag. -/
structure InFront (left : List Char) (first second : Cursor) : Prop where
  restFirst : first.rest = left ++ respelling.mark :: respelling.short
  restSecond : second.rest = left ++ 'v' :: respelling.long
  sameOffset : first.offset = second.offset
  offset_eq : first.offset + byteLength left = respelling.place
  isApart : ∀ c ∈ left.getLast?, Token.isTagChar c = false

/-- Unless the first has passed the mark, both have read the same and stand in
front of the spellings again. -/
def ReadsSame {Result : Type} (first second : Result × Cursor) : Prop :=
  respelling.Near first.2 →
    first.1 = second.1 ∧ ∃ later, respelling.InFront later first.2 second.2

variable {respelling}

/-- Neither spelling begins within such a text. -/
def IsPlain (text : List Char) : Prop :=
  [':', '@', '#', 'v'].all (!text.contains ·) = true

instance (text : List Char) : Decidable (IsPlain text) :=
  inferInstanceAs (Decidable (_ = true))

theorem IsPlain.notMem {text : List Char} (plain : IsPlain text) {c : Char}
    (starts : c ∈ [':', '@', '#', 'v']) : c ∉ text := by
  simpa using List.all_eq_true.mp plain c starts

theorem IsPlain.mark_notMem {text : List Char} (plain : IsPlain text) :
    respelling.mark ∉ text :=
  plain.notMem (List.mem_append_left ['v'] respelling.isMark)

theorem IsPlain.letter_notMem {text : List Char} (plain : IsPlain text) : 'v' ∉ text :=
  plain.notMem (by decide)

/-- What passes of all marks passes of this one. -/
theorem passes_mark {test : Char → Bool} (all : [':', '@', '#'].all test = true) :
    test respelling.mark = true :=
  List.all_eq_true.mp all _ respelling.isMark

theorem isAttributeChar_mark : Token.isAttributeChar respelling.mark = true :=
  passes_mark (by decide)

/-- The mark ends neither a bare value nor the name of an end tag. -/
theorem goesOn_mark : (!isBlank respelling.mark && respelling.mark != '>') = true :=
  @passes_mark _ (fun c => !isBlank c && c != '>') (by decide)

theorem stopsText_mark :
    Token.stopsText (respelling.mark :: respelling.short) = false := by
  have goesOn := @passes_mark respelling (fun c => c != '<' && c != '{') (by decide)
  rw [Bool.and_eq_true, bne_iff_ne, bne_iff_ne] at goesOn
  simp [Token.stopsText, List.isPrefixOf, goesOn.1, goesOn.2.symm]

theorem Near.of_le {first second : Cursor} (near : respelling.Near second)
    (less : second.rest.length ≤ first.rest.length) : respelling.Near first :=
  Nat.lt_of_lt_of_le near less

theorem Near.of_reaches {first second : Cursor} (near : respelling.Near second)
    (reaches : first.Reaches second) : respelling.Near first := by
  obtain ⟨passed, shape, _⟩ := reaches
  refine near.of_le ?_
  rw [shape, List.length_append]
  exact Nat.le_add_left _ _

namespace InFront

variable {left : List Char} {first second : Cursor}
  (inFront : respelling.InFront left first second)
include inFront

/-- Two cursors in front of the spellings may go on to the same place. -/
theorem further {later : List Char} {firstNext secondNext : Cursor}
    (reaches : first.Reaches firstNext) (reachesToo : second.Reaches secondNext)
    (restFirst : firstNext.rest = later ++ respelling.mark :: respelling.short)
    (restSecond : secondNext.rest = later ++ 'v' :: respelling.long) :
    respelling.InFront later firstNext secondNext := by
  obtain ⟨passed, shape, place⟩ := reaches
  obtain ⟨passedToo, shapeToo, placeToo⟩ := reachesToo
  rw [restFirst, inFront.restFirst, ← List.append_assoc] at shape
  rw [restSecond, inFront.restSecond, ← List.append_assoc] at shapeToo
  obtain rfl := List.append_cancel_right shape
  obtain rfl := List.append_cancel_right (List.append_cancel_right shapeToo)
  refine ⟨restFirst, restSecond, ?_, ?_, ?_⟩
  · rw [place, placeToo, inFront.sameOffset]
  · rw [place, Nat.add_assoc, ← byteLength_append, inFront.offset_eq]
  · intro c last
    refine inFront.isApart c ?_
    rw [List.getLast?_append, Option.mem_def.mp last]
    rfl

theorem ne_nil : first.rest ≠ [] ∧ second.rest ≠ [] := by
  rw [inFront.restFirst, inFront.restSecond]
  exact ⟨List.append_ne_nil_of_right_ne_nil left (List.cons_ne_nil _ _),
    List.append_ne_nil_of_right_ne_nil left (List.cons_ne_nil _ _)⟩

/-- Who has passed the mark has passed all that is in front of it. -/
theorem passed_eq {passed : List Char} {cursor : Cursor}
    (passes : first.Passes passed cursor) (past : ¬ respelling.Near cursor) :
    ∃ more, passed = left ++ respelling.mark :: more := by
  obtain ⟨shape, _⟩ := passes
  rw [inFront.restFirst] at shape
  rw [Near, Nat.not_lt] at past
  rcases List.append_eq_append_iff.mp shape with
    ⟨more, rfl, tail⟩ | ⟨overlap, rfl, tail⟩
  · cases more with
    | nil =>
        rw [List.nil_append] at tail
        rw [← tail, List.length_cons] at past
        omega
    | cons c more =>
        obtain ⟨rfl, _⟩ := List.cons.inj tail
        exact ⟨more, rfl⟩
  · rw [tail, List.length_append, List.length_cons] at past
    omega

/-- Who has passed the mark stands behind the place of the attribute. -/
theorem place_lt {cursor : Cursor} (reaches : first.Reaches cursor)
    (past : ¬ respelling.Near cursor) : respelling.place < cursor.offset := by
  obtain ⟨passed, passes⟩ := reaches
  obtain ⟨more, rfl⟩ := inFront.passed_eq passes past
  have positive := respelling.mark.utf8Size_pos
  rw [passes.2, ← inFront.offset_eq, byteLength_append, byteLength_cons]
  omega

/-- Who reads what starts at the place has not passed the mark. -/
theorem near_of_le {cursor : Cursor} (reaches : first.Reaches cursor)
    (less : cursor.offset ≤ respelling.place) : respelling.Near cursor := by
  by_contra past
  exact absurd (inFront.place_lt reaches past) (Nat.not_lt.mpr less)

/-! ## Moves -/

/-- What a cursor takes in front of the spellings, it takes from both. -/
theorem cut {cut : List Char → List Char × List Char} {stops : List Char → Bool}
    (cuts : CutsWhere cut stops) (whole : ∀ text, (cut text).1 ++ (cut text).2 = text)
    (before : ∀ left, left ≠ [] → stops (left ++ respelling.mark :: respelling.short) =
      stops (left ++ 'v' :: respelling.long))
    (there : stops (respelling.mark :: respelling.short) = true →
      stops ('v' :: respelling.long) = true)
    (near : respelling.short.length < (cut first.rest).2.length) :
    (cut first.rest).1 = (cut second.rest).1 ∧ ∃ later, respelling.InFront later
      ⟨first.offset + byteLength (cut first.rest).1, (cut first.rest).2⟩
      ⟨second.offset + byteLength (cut second.rest).1, (cut second.rest).2⟩ := by
  rw [inFront.restFirst] at near
  obtain ⟨taken, later, restFirst, restSecond⟩ := cuts.append before there left near
  rw [← inFront.restFirst, ← inFront.restSecond] at taken
  rw [← inFront.restFirst] at restFirst
  rw [← inFront.restSecond] at restSecond
  exact ⟨taken, later, inFront.further ⟨_, (whole first.rest).symm, rfl⟩
    ⟨_, (whole second.rest).symm, rfl⟩ restFirst restSecond⟩

theorem takeWhile {test : Char → Bool}
    (there : test respelling.mark = true ∨ test 'v' = false) :
    respelling.ReadsSame (first.takeWhile test) (second.takeWhile test) := by
  intro near
  refine inFront.cut (cutsWhere_takeWhile test)
    (fun _ => List.takeWhile_append_dropWhile) ?_ ?_ near
  · intro left nonempty
    rw [List.head?_append_of_ne_nil _ nonempty, List.head?_append_of_ne_nil _ nonempty]
  · rcases there with passes | stops
    · simp [passes]
    · simp [stops]

theorem takeUntil {stop : List Char} (plain : IsPlain stop) :
    respelling.ReadsSame (first.takeUntil stop) (second.takeUntil stop) := by
  intro near
  have begins (left : List Char) :
      stop.isPrefixOf (left ++ respelling.mark :: respelling.short) =
        stop.isPrefixOf (left ++ 'v' :: respelling.long) := by
    rw [isPrefixOf_append_cons plain.mark_notMem,
      isPrefixOf_append_cons plain.letter_notMem]
  exact inFront.cut (cutsWhere_breakOn stop) (breakOn_append stop)
    (fun left _ => begins left) (fun found => begins [] ▸ found) near

theorem sees_eq {text : List Char} (plain : IsPlain text) :
    first.sees text = text.isPrefixOf left ∧
      second.sees text = text.isPrefixOf left := by
  rw [Cursor.sees, Cursor.sees, inFront.restFirst, inFront.restSecond,
    isPrefixOf_append_cons plain.mark_notMem,
    isPrefixOf_append_cons plain.letter_notMem]
  exact ⟨rfl, rfl⟩

theorem sees {text : List Char} (plain : IsPlain text) :
    first.sees text = second.sees text :=
  (inFront.sees_eq plain).1.trans (inFront.sees_eq plain).2.symm

theorem bump (near : respelling.Near first.bump) :
    first.rest.take 1 = second.rest.take 1 ∧
      ∃ later, respelling.InFront later first.bump second.bump := by
  have shape := inFront.restFirst
  have shapeToo := inFront.restSecond
  cases left with
  | nil =>
      rw [Near, Cursor.rest_bump, shape] at near
      exact absurd near (Nat.lt_irrefl _)
  | cons c later =>
      have bumped :
          first.bump.rest = later ++ respelling.mark :: respelling.short := by
        rw [Cursor.rest_bump, shape]
        rfl
      have bumpedToo : second.bump.rest = later ++ 'v' :: respelling.long := by
        rw [Cursor.rest_bump, shapeToo]
        rfl
      refine ⟨?_, later,
        inFront.further first.reaches_bump second.reaches_bump bumped bumpedToo⟩
      rw [shape, shapeToo]
      rfl

theorem skip {count : Nat} (near : respelling.Near (first.skip count)) :
    ∃ later, respelling.InFront later (first.skip count) (second.skip count) := by
  induction count generalizing left first second with
  | zero => exact ⟨left, inFront⟩
  | succ count induction =>
      have nearNext : respelling.Near first.bump :=
        near.of_le (Cursor.length_skip count _)
      obtain ⟨_, later, inFront⟩ := inFront.bump nearNext
      exact induction inFront near

theorem eat {text : List Char} (plain : IsPlain text) :
    ∃ later, respelling.InFront later (first.eat text) (second.eat text) := by
  by_cases begins : text <+: left
  · obtain ⟨later, rfl⟩ := begins
    refine ⟨later, inFront.further (first.reaches_eat text)
      (second.reaches_eat text) ?_ ?_⟩
    · exact Cursor.rest_eat (by rw [inFront.restFirst, List.append_assoc])
    · exact Cursor.rest_eat (by rw [inFront.restSecond, List.append_assoc])
  · have other : afterPrefix? text first.rest = none := by
      rw [inFront.restFirst]
      exact afterPrefix?_eq_none fun found =>
        begins ((prefix_append_cons_iff plain.mark_notMem _ _).mp found)
    have otherToo : afterPrefix? text second.rest = none := by
      rw [inFront.restSecond]
      exact afterPrefix?_eq_none fun found =>
        begins ((prefix_append_cons_iff plain.letter_notMem _ _).mp found)
    rw [Cursor.eat, Cursor.eat, other, otherToo]
    exact ⟨left, inFront⟩

/-! ## Values -/

theorem quotedValue {quote : Char} (plain : IsPlain [quote]) :
    respelling.ReadsSame (Token.quotedValue quote first)
      (Token.quotedValue quote second) := by
  intro near
  have nearEnd : respelling.Near (first.bump.takeWhile (· != quote)).2 :=
    near.of_le (Cursor.length_bump _)
  obtain ⟨_, _, inside⟩ := inFront.bump (nearEnd.of_le (Cursor.length_takeWhile _ _))
  have isOther : (respelling.mark != quote) = true :=
    bne_iff_ne.mpr fun same => plain.mark_notMem (List.mem_singleton.mpr same)
  obtain ⟨taken, _, atEnd⟩ := inside.takeWhile (.inl isOther) nearEnd
  refine ⟨?_, (atEnd.bump near).2⟩
  rw [Token.quotedValue, Token.quotedValue]
  dsimp only
  rw [taken, inside.sameOffset, atEnd.sameOffset]

/-- The mark ends no bare value, so who stops in front of it was stopped earlier. -/
theorem bareValue :
    respelling.ReadsSame (Token.bareValue first) (Token.bareValue second) := by
  intro near
  have nearEnd :
      respelling.Near (first.takeWhile fun c => !isBlank c && c != '>').2 := by
    by_contra past
    obtain ⟨more, taken⟩ := inFront.passed_eq (first.passes_takeWhile _) past
    have noSlash : respelling.mark ≠ '/' :=
      fun same => @IsPlain.mark_notMem respelling ['/'] (by decide)
        (List.mem_singleton.mpr same)
    rw [Near, Token.bareValue] at near
    dsimp only at near
    rw [taken, dropSlashes_append_cons noSlash, Cursor.rest_skip, inFront.restFirst,
      List.length_drop] at near
    simp only [List.length_append, List.length_cons] at near
    omega
  obtain ⟨taken, _⟩ := inFront.takeWhile (.inl goesOn_mark) nearEnd
  unfold Token.bareValue at near ⊢
  dsimp only at near ⊢
  rw [← taken]
  obtain ⟨later, behind⟩ := inFront.skip near
  exact ⟨by rw [inFront.sameOffset, behind.sameOffset], later, behind⟩

theorem attributeValue :
    respelling.ReadsSame (Token.attributeValue first)
      (Token.attributeValue second) := by
  rw [Token.attributeValue_eq, Token.attributeValue_eq second,
    ← inFront.sees (by decide), ← inFront.sees (by decide)]
  split
  · exact inFront.quotedValue (by decide)
  · split
    · exact inFront.quotedValue (by decide)
    · exact inFront.bareValue

theorem skipBlanks (near : respelling.Near first.skipBlanks) :
    ∃ later, respelling.InFront later first.skipBlanks second.skipBlanks :=
  (inFront.takeWhile (.inr (by decide)) near).2

theorem valueAfterName :
    respelling.ReadsSame (Token.valueAfterName first)
      (Token.valueAfterName second) := by
  intro near
  unfold Token.valueAfterName at near ⊢
  split at near
  · next sign =>
    have nearValue := near.of_le (Token.length_attributeValue _)
    have nearSign := nearValue.of_le (Cursor.length_skipBlanks _)
    obtain ⟨_, atSign⟩ := inFront.skipBlanks (nearSign.of_le (Cursor.length_bump _))
    obtain ⟨_, _, behindSign⟩ := atSign.bump nearSign
    obtain ⟨_, atValue⟩ := behindSign.skipBlanks nearValue
    obtain ⟨value, behind⟩ := atValue.attributeValue near
    rw [← atSign.sees (by decide), if_pos sign, if_pos sign]
    exact ⟨congrArg some value, behind⟩
  · next noSign =>
    obtain ⟨_, atSign⟩ := inFront.skipBlanks near
    rw [← atSign.sees (by decide), if_neg noSign, if_neg noSign]
    exact ⟨rfl, _, atSign⟩

end InFront

end Respelling

end VuePrecompiler.Template
