import VuePrecompiler.Proofs.MovedLexemes
import VuePrecompiler.Proofs.PartingTexts

/-!
# Lexemes around a spelling

Who reads an attribute where two spellings part has read the same up to there,
and reads the same from there on, since a lexeme says the same wherever it
stands.  So the lexemes of the two texts say the same.
-/

namespace VuePrecompiler.Template.Respelling.InFront

open Source Text

variable {respelling : Respelling} {left : List Char} {first second : Cursor}
  (inFront : respelling.InFront left first second)
include inFront

/-! ## Attributes -/

theorem endsAttributes : Token.endsAttributes first = Token.endsAttributes second := by
  have more : first.rest.isEmpty = second.rest.isEmpty := by
    rw [inFront.restFirst, inFront.restSecond]
    cases left with
    | nil => rfl
    | cons c left => rfl
  rw [Token.endsAttributes, Token.endsAttributes, more, inFront.sees (by decide),
    inFront.sees (by decide)]

theorem attributeAt :
    respelling.ReadsSame (Token.attributeAt first) (Token.attributeAt second) := by
  intro near
  have nearValue := near.of_le (Token.length_valueAfterName _)
  obtain ⟨_, atName⟩ :=
    inFront.skipBlanks (nearValue.of_le (Cursor.length_takeWhile _ _))
  obtain ⟨name, _, atValue⟩ := atName.takeWhile (.inl isAttributeChar_mark) nearValue
  obtain ⟨value, later, behind⟩ := atValue.valueAfterName near
  refine ⟨?_, later, behind⟩
  rw [Token.attributeAt, Token.attributeAt]
  dsimp only
  rw [name, value, atName.sameOffset, behind.sameOffset]

/-- A character in front of the spellings that starts no attribute is
passed over in both. -/
theorem stray (more : Token.endsAttributes first.skipBlanks = false)
    (empty : (Token.attributeAt first).1.name = [])
    (near : respelling.Near first.skipBlanks.bump) :
    Token.attributes second = Token.attributes second.skipBlanks.bump ∧
      ∃ later, respelling.InFront later first.skipBlanks.bump
        second.skipBlanks.bump := by
  have nearName := near.of_le (Cursor.length_bump _)
  obtain ⟨_, atName⟩ := inFront.skipBlanks nearName
  have whole := (first.skipBlanks.passes_takeWhile Token.isAttributeChar).1
  have taken : (first.skipBlanks.takeWhile Token.isAttributeChar).1 = [] := empty
  rw [taken, List.nil_append] at whole
  obtain ⟨name, _⟩ := atName.takeWhile (.inl isAttributeChar_mark)
    (nearName.of_le (Nat.le_of_eq (congrArg List.length whole)))
  have emptyToo : (Token.attributeAt second).1.name = [] := name.symm.trans taken
  exact ⟨Token.attributes_of_stray (atName.endsAttributes ▸ more) emptyToo,
    (atName.bump near).2⟩

theorem named (more : Token.endsAttributes first.skipBlanks = false)
    (nonempty : (Token.attributeAt first).1.name ≠ [])
    (near : respelling.Near (Token.attributeAt first).2) :
    Token.attributes second = ((Token.attributeAt first).1 ::
        (Token.attributes (Token.attributeAt second).2).1,
      (Token.attributes (Token.attributeAt second).2).2) ∧
      ∃ later, respelling.InFront later (Token.attributeAt first).2
        (Token.attributeAt second).2 := by
  have nearName :=
    (near.of_le (Token.length_valueAfterName _)).of_le (Cursor.length_takeWhile _ _)
  obtain ⟨_, atName⟩ := inFront.skipBlanks nearName
  obtain ⟨item, behind⟩ := inFront.attributeAt near
  rw [Token.attributes_of_name (atName.endsAttributes ▸ more) (item ▸ nonempty),
    ← item]
  exact ⟨rfl, behind⟩

/-- In front of the spellings the same attributes are read. -/
theorem attributes :
    respelling.ReadsSame (Token.attributes first) (Token.attributes second) := by
  intro near
  induction first using Token.attributes_induct generalizing left second with
  | ended first ends =>
      rw [Token.attributes_of_ends ends] at near ⊢
      obtain ⟨later, behind⟩ := inFront.skipBlanks near
      rw [Token.attributes_of_ends (behind.endsAttributes ▸ ends)]
      exact ⟨rfl, later, behind⟩
  | stray first more empty induction =>
      rw [Token.attributes_of_stray more empty] at near ⊢
      obtain ⟨same, _, behind⟩ :=
        inFront.stray more empty (near.of_le (Token.length_attributes _))
      rw [same]
      exact induction behind near
  | named first more nonempty induction =>
      rw [Token.attributes_of_name more nonempty] at near ⊢
      obtain ⟨same, _, behind⟩ :=
        inFront.named more nonempty (near.of_le (Token.length_attributes _))
      obtain ⟨others, behindAll⟩ := induction behind near
      rw [same]
      exact ⟨congrArg (List.cons _) others, behindAll⟩

/-- The attribute itself says the same in both spellings. -/
theorem attributeAt_place (here : first.skipBlanks.offset = respelling.place) :
    (Token.attributeAt second).1.name ≠ [] ∧
      (TagItem.ofSource (Token.attributeAt first).1).unplaced =
        (TagItem.ofSource (Token.attributeAt second).1).unplaced ∧
      (Token.attributeAt first).2.rest = (Token.attributeAt second).2.rest := by
  obtain ⟨later, atName⟩ :=
    inFront.skipBlanks (inFront.near_of_le first.reaches_skipBlanks
      (Nat.le_of_eq here))
  obtain rfl : later = [] := by
    cases later with
    | nil => rfl
    | cons c later =>
        have positive := c.utf8Size_pos
        have place := atName.offset_eq
        rw [byteLength_cons] at place
        omega
  have firstName : (first.skipBlanks.takeWhile Token.isAttributeChar).1 =
      (respelling.mark :: respelling.short).takeWhile Token.isAttributeChar := by
    rw [Cursor.takeWhile_fst, atName.restFirst, List.nil_append]
  have secondName : (second.skipBlanks.takeWhile Token.isAttributeChar).1 =
      ('v' :: respelling.long).takeWhile Token.isAttributeChar := by
    rw [Cursor.takeWhile_fst, atName.restSecond, List.nil_append]
  have behindName : (first.skipBlanks.takeWhile Token.isAttributeChar).2.rest =
      (second.skipBlanks.takeWhile Token.isAttributeChar).2.rest := by
    rw [Cursor.rest_takeWhile, Cursor.rest_takeWhile, atName.restFirst,
      atName.restSecond]
    exact respelling.sameRest
  obtain ⟨value, behind⟩ := Token.valueAfterName_moved behindName
  refine ⟨?_, ?_, behind⟩
  · have letter : Token.isAttributeChar 'v' = true := by decide
    have name : (Token.attributeAt second).1.name = _ := secondName
    rw [name, List.takeWhile_cons, if_pos letter]
    exact List.cons_ne_nil _ _
  · rw [Token.attributeAt, Token.attributeAt]
    dsimp only
    rw [firstName, secondName, ← respelling.sameItem]
    exact TagItem.ofSource_moved value _ _ _

/-- Who reads an attribute at the place reads the same from both spellings. -/
theorem attributes_at {item : SourceAttribute}
    (member : item ∈ (Token.attributes first).1)
    (here : item.span.start = respelling.place) :
    Token.itemsSaid (Token.attributes first).1 =
      Token.itemsSaid (Token.attributes second).1 ∧
      (Token.attributes first).2.rest = (Token.attributes second).2.rest := by
  induction first using Token.attributes_induct generalizing left second with
  | ended first ends =>
      rw [Token.attributes_of_ends ends] at member
      contradiction
  | stray first more empty induction =>
      rw [Token.attributes_of_stray more empty] at member ⊢
      have front := first.reaches_skipBlanks.trans first.skipBlanks.reaches_bump
      obtain ⟨same, _, behind⟩ := inFront.stray more empty
        (inFront.near_of_le front (here ▸ Token.le_of_mem_attributes member))
      rw [same]
      exact induction behind member
  | named first more nonempty induction =>
      rw [Token.attributes_of_name more nonempty] at member ⊢
      rcases List.mem_cons.mp member with rfl | member
      · have nearName :=
          inFront.near_of_le first.reaches_skipBlanks (Nat.le_of_eq here)
        obtain ⟨_, atName⟩ := inFront.skipBlanks nearName
        obtain ⟨nonemptyToo, item, behind⟩ := inFront.attributeAt_place here
        obtain ⟨others, behindAll⟩ := Token.attributes_moved behind
        rw [Token.attributes_of_name (atName.endsAttributes ▸ more) nonemptyToo]
        exact ⟨congrArg₂ List.cons item others, behindAll⟩
      · obtain ⟨same, _, behind⟩ := inFront.named more nonempty
          (inFront.near_of_le (Token.reaches_attributeAt first)
            (here ▸ Token.le_of_mem_attributes member))
        obtain ⟨others, behindAll⟩ := induction behind member
        rw [same]
        exact ⟨congrArg (List.cons _) others, behindAll⟩

/-! ## Tokens -/

/-- The name of a tag ends in front of the spellings. -/
theorem tagName (nonempty : left ≠ []) :
    (first.takeWhile Token.isTagChar).1 = (second.takeWhile Token.isTagChar).1 ∧
      ∃ later, respelling.InFront later (first.takeWhile Token.isTagChar).2
        (second.takeWhile Token.isTagChar).2 := by
  have stops : ∃ c ∈ left, Token.isTagChar c = false :=
    ⟨_, List.getLast_mem nonempty,
      inFront.isApart _ (List.getLast?_eq_some_getLast nonempty)⟩
  obtain ⟨taken, rest⟩ := cut_append_of_mem stops (respelling.mark :: respelling.short)
  obtain ⟨takenToo, restToo⟩ := cut_append_of_mem stops ('v' :: respelling.long)
  rw [← inFront.restFirst] at taken rest
  rw [← inFront.restSecond] at takenToo restToo
  exact ⟨taken.trans takenToo.symm, _, inFront.further (first.reaches_takeWhile _)
    (second.reaches_takeWhile _) rest restToo⟩

theorem startTagAt (nonempty : left ≠ []) :
    respelling.ReadsSame (Token.startTagAt first) (Token.startTagAt second) := by
  intro near
  obtain ⟨name, _, behindName⟩ := inFront.tagName nonempty
  have nearEnd :
      respelling.Near (Token.attributes (first.takeWhile Token.isTagChar).2).2 := by
    unfold Token.startTagAt at near
    dsimp only at near
    split at near
    · exact near.of_le (Cursor.length_skip 2 _)
    · exact near.of_le (Cursor.length_eat ['>'] _)
  obtain ⟨items, _, atEnd⟩ := behindName.attributes nearEnd
  unfold Token.startTagAt at near ⊢
  dsimp only at near ⊢
  rw [← name, ← items, ← atEnd.sees (by decide)]
  split at near
  · next closed =>
    rw [if_pos closed, if_pos closed]
    exact ⟨rfl, atEnd.skip near⟩
  · next unclosed =>
    rw [if_neg unclosed, if_neg unclosed]
    exact ⟨rfl, atEnd.eat (by decide)⟩

theorem startTagAt_at (nonempty : left ≠ []) {item : SourceAttribute}
    (member : item ∈ (Token.startTagAt first).1.items)
    (here : item.span.start = respelling.place) :
    (Token.startTagAt first).1.saying = (Token.startTagAt second).1.saying ∧
      (Token.startTagAt first).2.rest = (Token.startTagAt second).2.rest := by
  obtain ⟨name, _, behindName⟩ := inFront.tagName nonempty
  rw [Token.items_startTagAt] at member
  obtain ⟨items, behind⟩ := behindName.attributes_at member here
  unfold Token.startTagAt
  dsimp only
  rw [← name, Token.sees_moved behind]
  split
  · exact ⟨Token.startTag_said items true, by rw [Cursor.rest_skip,
      Cursor.rest_skip, behind]⟩
  · exact ⟨Token.startTag_said items false, Token.eat_moved behind ['>']⟩

/-- Something between two marks, the first of which is at the cursor. -/
theorem marked {count : Nat} {stop : List Char} (plain : IsPlain stop)
    (near : respelling.Near (((first.skip count).takeUntil stop).2.eat stop)) :
    (first.skip count).offset = (second.skip count).offset ∧
      ((first.skip count).takeUntil stop).1 = ((second.skip count).takeUntil stop).1 ∧
      ((first.skip count).takeUntil stop).2.offset =
        ((second.skip count).takeUntil stop).2.offset ∧
      ∃ later, respelling.InFront later
        (((first.skip count).takeUntil stop).2.eat stop)
        (((second.skip count).takeUntil stop).2.eat stop) := by
  have nearEnd := near.of_le (Cursor.length_eat stop _)
  obtain ⟨_, inside⟩ := inFront.skip (nearEnd.of_le (Cursor.length_takeUntil stop _))
  obtain ⟨taken, _, atEnd⟩ := inside.takeUntil plain nearEnd
  exact ⟨inside.sameOffset, taken, atEnd.sameOffset, atEnd.eat plain⟩

theorem endTagAt :
    respelling.ReadsSame (Token.endTagAt first) (Token.endTagAt second) := by
  intro near
  have nearEnd := near.of_le (Cursor.length_eat ['>'] _)
  obtain ⟨_, inside⟩ := inFront.skip (nearEnd.of_le (Cursor.length_takeUntil ['>'] _))
  obtain ⟨name, _⟩ := inside.takeWhile (.inl goesOn_mark)
    (nearEnd.of_reaches (Token.reaches_endOfTag _))
  obtain ⟨_, _, _, behind⟩ := inFront.marked (by decide) near
  exact ⟨congrArg (fun name => Token.endTag (String.ofList name)) name, behind⟩

theorem commentAt :
    respelling.ReadsSame (Token.commentAt first) (Token.commentAt second) := by
  intro near
  obtain ⟨_, content, _, behind⟩ := inFront.marked (by decide) near
  exact ⟨congrArg (fun content => Token.comment (String.ofList content)) content,
    behind⟩

theorem interpolationAt :
    respelling.ReadsSame (Token.interpolationAt first)
      (Token.interpolationAt second) := by
  intro near
  obtain ⟨start, content, stop, behind⟩ := inFront.marked (by decide) near
  refine ⟨?_, behind⟩
  rw [Token.interpolationAt, Token.interpolationAt]
  dsimp only
  rw [start, content, stop]

theorem textAt :
    respelling.ReadsSame (Token.textAt first) (Token.textAt second) := by
  intro near
  obtain ⟨start, _, behindFirst⟩ := inFront.bump (near.of_le (Token.length_textPart _))
  have plain : IsPlain ['{', '{'] := by decide
  have before : ∀ left, left ≠ [] →
      Token.stopsText (left ++ respelling.mark :: respelling.short) =
        Token.stopsText (left ++ 'v' :: respelling.long) := by
    intro left nonempty
    rw [Token.stopsText, Token.stopsText, List.head?_append_of_ne_nil _ nonempty,
      List.head?_append_of_ne_nil _ nonempty, isPrefixOf_append_cons plain.mark_notMem,
      isPrefixOf_append_cons plain.letter_notMem]
  obtain ⟨more, behind⟩ :=
    behindFirst.cut Token.cutsWhere_textPart Token.textPart_append before
      (fun stops => absurd (stopsText_mark.symm.trans stops) Bool.false_ne_true) near
  refine ⟨?_, behind⟩
  rw [Token.textAt, Token.textAt]
  dsimp only
  rw [start, more]

/-- A start tag in front of the spellings has at least one letter of its name there. -/
theorem seesTag (tag : Token.seesTag first = true) :
    Token.seesTag second = true ∧
      ∃ later, later ≠ [] ∧ respelling.InFront later first.bump second.bump := by
  obtain ⟨c, tail, shape, letter⟩ := Token.seesTag_iff.mp tag
  rw [inFront.restFirst] at shape
  have noTag := @passes_mark respelling (fun c => c != '<' && !c.isAlpha) (by decide)
  rw [Bool.and_eq_true, bne_iff_ne, Bool.not_eq_true'] at noTag
  match left with
  | [] =>
      obtain ⟨isTag, _⟩ := List.cons.inj shape
      exact absurd isTag noTag.1
  | [_] =>
      obtain ⟨_, rest⟩ := List.cons.inj shape
      obtain ⟨rfl, _⟩ := List.cons.inj rest
      rw [noTag.2] at letter
      contradiction
  | a :: b :: later =>
      obtain ⟨rfl, rest⟩ := List.cons.inj shape
      obtain ⟨rfl, _⟩ := List.cons.inj rest
      refine ⟨Token.seesTag_iff.mpr ⟨b, _, inFront.restSecond, letter⟩, b :: later,
        List.cons_ne_nil b later,
        inFront.further first.reaches_bump second.reaches_bump ?_ ?_⟩
      · rw [Cursor.rest_bump, inFront.restFirst]
        rfl
      · rw [Cursor.rest_bump, inFront.restSecond]
        rfl

/-- If the second spelling makes a tag of a `<` that stands in front of it, then
the first is text. -/
theorem not_near_of_tag (noTag : Token.seesTag first = false)
    (tag : Token.seesTag second = true) : ¬ respelling.Near (Token.next first).2 := by
  obtain ⟨c, tail, shape, letter⟩ := Token.seesTag_iff.mp tag
  rw [inFront.restSecond] at shape
  match left with
  | [] =>
      obtain ⟨isTag, _⟩ := List.cons.inj shape
      contradiction
  | [_] =>
      obtain ⟨rfl, _⟩ := List.cons.inj shape
      have other {text : List Char} (plain : IsPlain text)
          (longer : text.isPrefixOf ['<'] = false) : ¬ first.sees text = true := by
        rw [(inFront.sees_eq plain).1, longer]
        exact Bool.false_ne_true
      have behind : first.bump.rest = respelling.mark :: respelling.short := by
        rw [Cursor.rest_bump, inFront.restFirst]
        rfl
      have goesOn := Token.cutsWhere_textPart.later _ _ (@stopsText_mark respelling)
      rw [Token.next_eq, noTag, if_neg Bool.false_ne_true,
        if_neg (@other ['<', '/'] (by decide) (by decide)),
        if_neg (@other ['<', '!', '-', '-'] (by decide) (by decide)),
        if_neg (@other ['<', '!'] (by decide) (by decide)),
        if_neg (@other ['{', '{'] (by decide) (by decide)), Near, Token.textAt,
        behind, goesOn]
      exact Nat.not_lt.mpr (Token.length_textPart _)
  | a :: b :: later =>
      obtain ⟨rfl, rest⟩ := List.cons.inj shape
      obtain ⟨rfl, _⟩ := List.cons.inj rest
      have tagToo := Token.seesTag_iff.mpr ⟨b, _, inFront.restFirst, letter⟩
      rw [noTag] at tagToo
      contradiction

theorem declaration :
    respelling.ReadsSame (Token.declaration, Token.skipTag (first.skip 2))
      (Token.declaration, Token.skipTag (second.skip 2)) := by
  intro near
  obtain ⟨_, _, _, behind⟩ := inFront.marked (by decide) near
  exact ⟨rfl, behind⟩

/-- In front of the spellings the same token is read. -/
theorem next : respelling.ReadsSame (Token.next first) (Token.next second) := by
  cases tag : Token.seesTag first with
  | true =>
      obtain ⟨tagToo, _, nonempty, atName⟩ := inFront.seesTag tag
      rw [Token.next_eq, if_pos tag, Token.next_eq, if_pos tagToo]
      exact atName.startTagAt nonempty
  | false =>
      cases tagToo : Token.seesTag second with
      | true => exact fun near => absurd near (inFront.not_near_of_tag tag tagToo)
      | false =>
          rw [Token.next_eq, Token.next_eq second, tag, tagToo,
            if_neg Bool.false_ne_true, if_neg Bool.false_ne_true,
            ← inFront.sees (by decide), ← inFront.sees (by decide),
            ← inFront.sees (by decide), ← inFront.sees (by decide)]
          split
          · exact inFront.endTagAt
          · split
            · exact inFront.commentAt
            · split
              · exact inFront.declaration
              · split
                · exact inFront.interpolationAt
                · exact inFront.textAt

/-- Who reads an attribute of a tag at the place reads the same from both spellings. -/
theorem next_at {item : SourceAttribute} (member : item ∈ (Token.next first).1.items)
    (here : item.span.start = respelling.place) :
    (Token.next first).1.saying = (Token.next second).1.saying ∧
      (Token.next first).2.rest = (Token.next second).2.rest := by
  cases tag : Token.seesTag first with
  | false =>
      rw [Token.items_of_noTag tag] at member
      contradiction
  | true =>
      obtain ⟨tagToo, _, nonempty, atName⟩ := inFront.seesTag tag
      rw [Token.next_eq, if_pos tag] at member ⊢
      rw [Token.next_eq, if_pos tagToo]
      exact atName.startTagAt_at nonempty member here

/-- Two texts that spell an attribute in two ways say the same, if it is read as
one in the first. -/
theorem lexemes {item : SourceAttribute} (member : item ∈ attributesFrom first)
    (here : item.span.start = respelling.place) :
    sayings (lexemes first) = sayings (lexemes second) := by
  induction first using lexemes_induct generalizing left second with
  | ended first none => exact absurd none inFront.ne_nil.1
  | token first more induction =>
      rw [attributesFrom_of_more more] at member
      rw [Template.lexemes, dif_neg more, Template.lexemes, dif_neg inFront.ne_nil.2]
      rcases List.mem_append.mp member with member | member
      · obtain ⟨said, behind⟩ := inFront.next_at member here
        exact congrArg₂ List.cons said (lexemes_moved behind)
      · have near := inFront.near_of_le (Token.reaches_next first)
          (here ▸ le_of_mem_attributesFrom member)
        obtain ⟨said, _, behind⟩ := inFront.next near
        exact congrArg₂ List.cons (congrArg Token.saying said)
          (induction behind member)

end VuePrecompiler.Template.Respelling.InFront
