import VuePrecompiler.Template.Token
import VuePrecompiler.Proofs.CursorMoves

/-!
# Where lexemes stand

Every move of a cursor passes some text and adds its bytes to the position.
So the lexemes of a template start one behind the other, and the position at
which a start tag starts tells it from all others.
-/

namespace VuePrecompiler.Text

/-! ## Cuts keep the text -/

theorem breakOn_append (separator text : List Char) :
    (breakOn separator text).1 ++ (breakOn separator text).2 = text := by
  induction text with
  | nil => rfl
  | cons c rest induction =>
      rw [breakOn]
      split
      · rfl
      · exact congrArg (List.cons c) induction

theorem of_afterPrefix?_eq_some {start text rest : List Char}
    (found : afterPrefix? start text = some rest) : text = start ++ rest := by
  induction start generalizing text with
  | nil => exact Option.some.inj found
  | cons p start induction =>
      cases text with
      | nil => contradiction
      | cons c text =>
          rw [afterPrefix?] at found
          split at found
          · next same => rw [induction found, same, List.cons_append]
          · contradiction

namespace Cursor

/-- A cursor stands behind another one in the same text. -/
def Reaches (before after : Cursor) : Prop :=
  ∃ passed, before.rest = passed ++ after.rest ∧
    after.offset = before.offset + byteLength passed

namespace Reaches

variable {first second third : Cursor}

theorem refl (cursor : Cursor) : Reaches cursor cursor :=
  ⟨[], rfl, rfl⟩

theorem trans (near : Reaches first second) (far : Reaches second third) :
    Reaches first third := by
  obtain ⟨left, shapeLeft, placeLeft⟩ := near
  obtain ⟨right, shapeRight, placeRight⟩ := far
  refine ⟨left ++ right, ?_, ?_⟩
  · rw [shapeLeft, shapeRight, List.append_assoc]
  · rw [placeRight, placeLeft, byteLength_append, Nat.add_assoc]

theorem offset_lt (reaches : Reaches first second)
    (less : second.rest.length < first.rest.length) :
    first.offset < second.offset := by
  obtain ⟨passed, shape, place⟩ := reaches
  cases passed with
  | nil =>
      rw [shape, List.nil_append] at less
      exact absurd less (Nat.lt_irrefl _)
  | cons c passed =>
      have positive := c.utf8Size_pos
      rw [byteLength_cons] at place
      omega

end Reaches

theorem reaches_bump (cursor : Cursor) : cursor.Reaches cursor.bump := by
  rcases cursor with ⟨offset, _ | ⟨c, rest⟩⟩
  · exact .refl _
  · exact ⟨[c], rfl, rfl⟩

theorem reaches_skip (count : Nat) (cursor : Cursor) :
    cursor.Reaches (cursor.skip count) := by
  induction count generalizing cursor with
  | zero => exact .refl cursor
  | succ count induction => exact (reaches_bump cursor).trans (induction cursor.bump)

theorem reaches_takeWhile (test : Char → Bool) (cursor : Cursor) :
    cursor.Reaches (cursor.takeWhile test).2 :=
  ⟨cursor.rest.takeWhile test, List.takeWhile_append_dropWhile.symm, rfl⟩

theorem reaches_skipBlanks (cursor : Cursor) : cursor.Reaches cursor.skipBlanks :=
  reaches_takeWhile isBlank cursor

theorem reaches_takeUntil (stop : List Char) (cursor : Cursor) :
    cursor.Reaches (cursor.takeUntil stop).2 :=
  ⟨(breakOn stop cursor.rest).1, (breakOn_append stop cursor.rest).symm, rfl⟩

theorem reaches_eat (text : List Char) (cursor : Cursor) :
    cursor.Reaches (cursor.eat text) := by
  unfold eat
  split
  · next rest found => exact ⟨text, of_afterPrefix?_eq_some found, rfl⟩
  · exact .refl cursor

end Cursor

end VuePrecompiler.Text

namespace VuePrecompiler.Template

open Source Text

namespace Token

theorem reaches_skipTag (cursor : Cursor) : cursor.Reaches (skipTag cursor) :=
  (cursor.reaches_takeUntil ['>']).trans (Cursor.reaches_eat ['>'] _)

theorem reaches_quotedValue (quote : Char) (cursor : Cursor) :
    cursor.Reaches (quotedValue quote cursor).2 :=
  cursor.reaches_bump.trans
    ((Cursor.reaches_takeWhile (· != quote) _).trans (Cursor.reaches_bump _))

theorem reaches_attributeValue (cursor : Cursor) :
    cursor.Reaches (attributeValue cursor).2 := by
  unfold attributeValue
  split
  · exact reaches_quotedValue '"' cursor
  · exact reaches_quotedValue '\'' cursor
  · exact Cursor.reaches_skip _ cursor

theorem reaches_valueAfterName (cursor : Cursor) :
    cursor.Reaches (valueAfterName cursor).2 := by
  unfold valueAfterName
  split
  · exact cursor.reaches_skipBlanks.trans ((Cursor.reaches_bump _).trans
      ((Cursor.reaches_skipBlanks _).trans (reaches_attributeValue _)))
  · exact cursor.reaches_skipBlanks

theorem reaches_attributes (cursor : Cursor) :
    cursor.Reaches (attributes cursor).2 := by
  fun_induction attributes cursor with
  | case1 cursor => exact cursor.reaches_skipBlanks
  | case2 cursor here _ name _ induction =>
      exact cursor.reaches_skipBlanks.trans ((Cursor.reaches_bump _).trans induction)
  | case3 cursor here _ name _ value others induction =>
      exact cursor.reaches_skipBlanks.trans ((Cursor.reaches_takeWhile _ _).trans
        ((reaches_valueAfterName _).trans induction))

theorem reaches_startTagAt (cursor : Cursor) :
    cursor.Reaches (startTagAt cursor).2 := by
  have named : cursor.Reaches (attributes (cursor.takeWhile isTagChar).2).2 :=
    (cursor.reaches_takeWhile isTagChar).trans (reaches_attributes _)
  unfold startTagAt
  dsimp only
  split
  · exact named.trans (Cursor.reaches_skip 2 _)
  · exact named.trans (Cursor.reaches_eat ['>'] _)

theorem reaches_tagAt (cursor : Cursor) : cursor.Reaches (tagAt cursor).2 := by
  unfold tagAt
  split
  · exact .refl cursor
  · exact reaches_startTagAt cursor

/-- Behind a `<`, a letter begins the name of a tag. -/
theorem name_of_letter {cursor : Cursor} {c : Char} {tail : List Char}
    (shape : cursor.rest = '<' :: c :: tail) (letter : c.isAlpha = true) :
    (cursor.bump.takeWhile isTagChar).1 = c :: tail.takeWhile isTagChar := by
  have isFirst : isTagChar c = true := by
    rw [isTagChar, Char.isAlphanum, letter]
    rfl
  rw [Cursor.takeWhile_fst, Cursor.rest_bump, shape, List.drop_one, List.tail_cons,
    List.takeWhile_cons, if_pos isFirst]

theorem tagAt_of_letter {cursor : Cursor} {c : Char} {tail : List Char}
    (shape : cursor.rest = '<' :: c :: tail) (letter : c.isAlpha = true) :
    tagAt cursor.bump = startTagAt cursor.bump := by
  refine if_neg ?_
  rw [name_of_letter shape letter]
  exact List.cons_ne_nil _ _

theorem textPart_append (text : List Char) :
    (textPart text).1 ++ (textPart text).2 = text := by
  induction text with
  | nil => rfl
  | cons c rest induction =>
      rw [textPart]
      split
      · rfl
      · exact congrArg (List.cons c) induction

theorem reaches_textAt (cursor : Cursor) : cursor.Reaches (textAt cursor).2 :=
  cursor.reaches_bump.trans
    ⟨(textPart cursor.bump.rest).1, (textPart_append cursor.bump.rest).symm, rfl⟩

theorem reaches_marked (count : Nat) (stop : List Char) (cursor : Cursor) :
    cursor.Reaches (((cursor.skip count).takeUntil stop).2.eat stop) :=
  (cursor.reaches_skip count).trans
    ((Cursor.reaches_takeUntil stop _).trans (Cursor.reaches_eat stop _))

theorem reaches_next (cursor : Cursor) : cursor.Reaches (next cursor).2 := by
  unfold next
  split
  · exact (cursor.reaches_skip 2).trans (reaches_skipTag _)
  · exact reaches_marked 4 ['-', '-', '>'] cursor
  · exact (cursor.reaches_skip 2).trans (reaches_skipTag _)
  · split
    · exact cursor.reaches_bump.trans (reaches_tagAt _)
    · exact reaches_textAt cursor
  · exact reaches_marked 2 ['}', '}'] cursor
  · exact reaches_textAt cursor

end Token

/-- No token is a tag without a name: what is read as a tag has a
letter behind its `<`. -/
theorem Token.next_ne_nameless (cursor : Cursor) (found : String) :
    (next cursor).1 ≠ .nameless found := by
  intro isNameless
  unfold next at isNameless
  split at isNameless
  case h_4 c tail _ _ _ shape =>
    split at isNameless
    · next letter =>
      rw [tagAt_of_letter shape letter, startTagAt] at isNameless
      split at isNameless
      all_goals contradiction
    · contradiction
  all_goals contradiction

/-- No lexeme starts before the cursor, and each starts behind those before it. -/
theorem lexemes_increasing (cursor : Cursor) :
    (∀ lexeme ∈ lexemes cursor, cursor.offset ≤ lexeme.span.start) ∧
      (lexemes cursor).Pairwise (·.span.start < ·.span.start) := by
  fun_induction lexemes cursor with
  | case1 cursor ended => exact ⟨by simp, .nil⟩
  | case2 cursor more next induction =>
      obtain ⟨behind, increasing⟩ := induction
      have later : cursor.offset < next.2.offset :=
        (Token.reaches_next cursor).offset_lt (Token.length_next more)
      constructor
      · intro lexeme member
        rcases List.mem_cons.mp member with rfl | member
        · exact Nat.le_refl _
        · exact Nat.le_trans (Nat.le_of_lt later) (behind lexeme member)
      · refine .cons ?_ increasing
        intro lexeme member
        exact Nat.lt_of_lt_of_le later (behind lexeme member)

end VuePrecompiler.Template
