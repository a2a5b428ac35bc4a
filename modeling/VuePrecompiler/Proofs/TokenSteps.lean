import VuePrecompiler.Proofs.CursorMoves
import VuePrecompiler.Proofs.LexemeSlices

/-!
# How tokens are read

The kind of a token shows in its first characters, and attributes and tokens
are read one behind the other.
-/

namespace VuePrecompiler.Text.Cursor

theorem sees_eq_false {text : List Char} {cursor : Cursor}
    (other : ∀ tail, cursor.rest ≠ text ++ tail) : cursor.sees text = false := by
  rw [sees, Bool.eq_false_iff, ne_eq, List.isPrefixOf_iff_prefix]
  rintro ⟨tail, shape⟩
  exact other tail shape.symm

theorem sees_of_append {text tail : List Char} {cursor : Cursor}
    (shape : cursor.rest = text ++ tail) : cursor.sees text = true := by
  rw [sees, List.isPrefixOf_iff_prefix, shape]
  exact List.prefix_append text tail
end VuePrecompiler.Text.Cursor

namespace VuePrecompiler.Template

open Source Text

namespace Token

/-! ## Attributes -/

theorem attributeValue_eq (cursor : Cursor) :
    attributeValue cursor =
      if cursor.sees ['"'] then quotedValue '"' cursor
      else if cursor.sees ['\''] then quotedValue '\'' cursor
      else bareValue cursor := by
  unfold attributeValue
  split
  · next tail shape =>
    rw [@Cursor.sees_of_append ['"'] tail _ shape]
    rfl
  · next tail shape =>
    rw [@Cursor.sees_eq_false ['"'] _ (by simp [shape]),
      @Cursor.sees_of_append ['\''] tail _ shape]
    rfl
  · next noDouble noSingle =>
    rw [@Cursor.sees_eq_false ['"'] _ noDouble,
      @Cursor.sees_eq_false ['\''] _ noSingle]
    rfl
/-- What stands behind the blanks at a cursor, taken as an attribute, and the
cursor behind it. -/
def attributeAt (cursor : Cursor) : SourceAttribute × Cursor :=
  let name := cursor.skipBlanks.takeWhile isAttributeChar
  let value := valueAfterName name.2
  (⟨name.1, value.1, ⟨cursor.skipBlanks.offset, value.2.offset⟩⟩, value.2)

theorem reaches_attributeAt (cursor : Cursor) :
    cursor.Reaches (attributeAt cursor).2 :=
  cursor.reaches_skipBlanks.trans
    ((Cursor.reaches_takeWhile isAttributeChar _).trans (reaches_valueAfterName _))

/-- Attributes are read one at a time, and a character that starts
none is passed over. -/
theorem attributes_induct {motive : Cursor → Prop}
    (ended : ∀ cursor, endsAttributes cursor.skipBlanks = true → motive cursor)
    (stray : ∀ cursor, endsAttributes cursor.skipBlanks = false →
      (attributeAt cursor).1.name = [] → motive cursor.skipBlanks.bump → motive cursor)
    (named : ∀ cursor, endsAttributes cursor.skipBlanks = false →
      (attributeAt cursor).1.name ≠ [] → motive (attributeAt cursor).2 → motive cursor)
    (cursor : Cursor) : motive cursor := by
  induction cursor using attributes.induct with
  | case1 cursor here ends => exact ended cursor ends
  | case2 cursor here more name empty induction =>
      exact stray cursor (Bool.eq_false_iff.mpr more) empty induction
  | case3 cursor here more name nonempty value induction =>
      exact named cursor (Bool.eq_false_iff.mpr more) nonempty induction

theorem attributes_of_ends {cursor : Cursor}
    (ends : endsAttributes cursor.skipBlanks = true) :
    attributes cursor = ([], cursor.skipBlanks) := by
  rw [attributes]
  dsimp only
  rw [if_pos ends]

theorem attributes_of_stray {cursor : Cursor}
    (more : endsAttributes cursor.skipBlanks = false)
    (empty : (attributeAt cursor).1.name = []) :
    attributes cursor = attributes cursor.skipBlanks.bump := by
  rw [attributes]
  dsimp only
  rw [more, if_neg Bool.false_ne_true]
  exact if_pos empty

theorem attributes_of_name {cursor : Cursor}
    (more : endsAttributes cursor.skipBlanks = false)
    (nonempty : (attributeAt cursor).1.name ≠ []) :
    attributes cursor = ((attributeAt cursor).1 ::
      (attributes (attributeAt cursor).2).1,
      (attributes (attributeAt cursor).2).2) := by
  rw [attributes]
  dsimp only
  rw [more, if_neg Bool.false_ne_true]
  exact if_neg nonempty

/-- No attribute starts before the cursor. -/
theorem le_of_mem_attributes {cursor : Cursor} {item : SourceAttribute}
    (member : item ∈ (attributes cursor).1) : cursor.offset ≤ item.span.start := by
  induction cursor using attributes_induct with
  | ended cursor ends =>
      rw [attributes_of_ends ends] at member
      contradiction
  | stray cursor more empty induction =>
      rw [attributes_of_stray more empty] at member
      have front := cursor.reaches_skipBlanks.trans cursor.skipBlanks.reaches_bump
      exact Nat.le_trans front.le (induction member)
  | named cursor more nonempty induction =>
      rw [attributes_of_name more nonempty] at member
      rcases List.mem_cons.mp member with rfl | member
      · exact cursor.reaches_skipBlanks.le
      · exact Nat.le_trans (reaches_attributeAt cursor).le (induction member)

/-! ## Tokens -/

/-- Whether a start tag follows. -/
def seesTag (cursor : Cursor) : Bool :=
  match cursor.rest with
  | '<' :: c :: _ => c.isAlpha
  | _ => false

theorem seesTag_of_rest {cursor : Cursor} {c : Char} {tail : List Char}
    (shape : cursor.rest = '<' :: c :: tail) : seesTag cursor = c.isAlpha := by
  simp only [seesTag, shape]

theorem seesTag_iff {cursor : Cursor} : seesTag cursor = true ↔
    ∃ c tail, cursor.rest = '<' :: c :: tail ∧ c.isAlpha = true := by
  constructor
  · intro tag
    unfold seesTag at tag
    split at tag
    · next c tail shape => exact ⟨c, tail, shape, tag⟩
    · contradiction
  · rintro ⟨c, tail, shape, letter⟩
    rw [seesTag_of_rest shape, letter]

theorem next_eq (cursor : Cursor) :
    next cursor =
      if seesTag cursor then startTagAt cursor.bump
      else if cursor.sees ['<', '/'] then endTagAt cursor
      else if cursor.sees ['<', '!', '-', '-'] then commentAt cursor
      else if cursor.sees ['<', '!'] then (.declaration, skipTag (cursor.skip 2))
      else if cursor.sees ['{', '{'] then interpolationAt cursor
      else textAt cursor := by
  unfold next
  split
  · next tail shape =>
    rw [seesTag_of_rest shape, @Cursor.sees_of_append ['<', '/'] tail _ shape]
    rfl
  · next tail shape =>
    rw [seesTag_of_rest shape, @Cursor.sees_eq_false ['<', '/'] _ (by simp [shape]),
      @Cursor.sees_of_append ['<', '!', '-', '-'] tail _ shape]
    rfl
  · next tail noComment shape =>
    have notComment : cursor.sees ['<', '!', '-', '-'] = false :=
      Cursor.sees_eq_false fun after same => by
        rw [shape] at same
        exact noComment after (by simpa using same)
    rw [seesTag_of_rest shape, @Cursor.sees_eq_false ['<', '/'] _ (by simp [shape]),
      notComment, @Cursor.sees_of_append ['<', '!'] tail _ shape]
    rfl
  · next c tail noSlash noComment noBang shape =>
    have other (text : List Char)
        (differs : ∀ after, '<' :: c :: tail ≠ text ++ after) :
        cursor.sees text = false :=
      Cursor.sees_eq_false fun after same => differs after (shape.symm.trans same)
    rw [seesTag_of_rest shape, other ['<', '/'] (by simpa using noSlash),
      other ['<', '!', '-', '-'] (by simpa using fun after bang => absurd bang noBang),
      other ['<', '!'] (by simpa using noBang), other ['{', '{'] (by simp)]
    cases letter : c.isAlpha with
    | true => exact tagAt_of_letter shape letter
    | false => rfl
  · next tail shape =>
    have noTag : seesTag cursor = false := by simp [seesTag, shape]
    rw [noTag, @Cursor.sees_eq_false ['<', '/'] _ (by simp [shape]),
      @Cursor.sees_eq_false ['<', '!', '-', '-'] _ (by simp [shape]),
      @Cursor.sees_eq_false ['<', '!'] _ (by simp [shape]),
      @Cursor.sees_of_append ['{', '{'] tail _ shape]
    rfl
  · next noSlash noComment noBang noTag noBraces =>
    have notTag : seesTag cursor = false := by
      unfold seesTag
      split
      · next c tail shape => exact absurd shape (noTag c tail)
      · rfl
    rw [notTag, @Cursor.sees_eq_false ['<', '/'] _ noSlash,
      @Cursor.sees_eq_false ['<', '!', '-', '-'] _ noComment,
      @Cursor.sees_eq_false ['<', '!'] _ noBang,
      @Cursor.sees_eq_false ['{', '{'] _ noBraces]
    rfl

/-- The attributes of a start tag. -/
def items : Token → List SourceAttribute
  | .startTag _ attributes _ => attributes
  | _ => []

theorem items_startTagAt (cursor : Cursor) :
    (startTagAt cursor).1.items = (attributes (cursor.takeWhile isTagChar).2).1 := by
  rw [startTagAt_fst]
  rfl

theorem items_of_noTag {cursor : Cursor} (noTag : seesTag cursor = false) :
    (next cursor).1.items = [] := by
  rw [next_eq, noTag, if_neg Bool.false_ne_true]
  repeat' split
  all_goals rfl

theorem le_of_mem_items {cursor : Cursor} {item : SourceAttribute}
    (member : item ∈ (next cursor).1.items) : cursor.offset ≤ item.span.start := by
  cases tag : seesTag cursor with
  | false =>
      rw [items_of_noTag tag] at member
      contradiction
  | true =>
      rw [next_eq, if_pos tag, items_startTagAt] at member
      have front := cursor.reaches_bump.trans (Cursor.reaches_takeWhile isTagChar _)
      exact Nat.le_trans front.le (le_of_mem_attributes member)

end Token

/-! ## Lexemes -/

/-- Lexemes are read one at a time. -/
theorem lexemes_induct {motive : Cursor → Prop}
    (ended : ∀ cursor, cursor.rest = [] → motive cursor)
    (token : ∀ cursor, cursor.rest ≠ [] → motive (Token.next cursor).2 → motive cursor)
    (cursor : Cursor) : motive cursor := by
  induction cursor using lexemes.induct with
  | case1 cursor none => exact ended cursor none
  | case2 cursor more next induction => exact token cursor more induction

/-- The attributes of all start tags from a cursor on. -/
def attributesFrom (cursor : Cursor) : List SourceAttribute :=
  (lexemes cursor).flatMap (·.token.items)

theorem attributesFrom_of_more {cursor : Cursor} (more : cursor.rest ≠ []) :
    attributesFrom cursor =
      (Token.next cursor).1.items ++ attributesFrom (Token.next cursor).2 := by
  rw [attributesFrom, lexemes, dif_neg more, List.flatMap_cons, attributesFrom]

theorem le_of_mem_attributesFrom {cursor : Cursor} {item : SourceAttribute}
    (member : item ∈ attributesFrom cursor) : cursor.offset ≤ item.span.start := by
  induction cursor using lexemes_induct with
  | ended cursor none =>
      rw [attributesFrom, lexemes, dif_pos none] at member
      contradiction
  | token cursor more induction =>
      rw [attributesFrom_of_more more] at member
      rcases List.mem_append.mp member with member | member
      · exact Token.le_of_mem_items member
      · exact Nat.le_trans (Token.reaches_next cursor).le (induction member)

end VuePrecompiler.Template
