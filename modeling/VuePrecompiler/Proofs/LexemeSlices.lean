import VuePrecompiler.Proofs.CursorMoves
import VuePrecompiler.Proofs.ReadingSteps
import VuePrecompiler.Proofs.Slices

/-!
# Lexemes quote the source

All that a lexeme says stands in the source: its name, its attributes with
their values and its content are slices inside of its span, and every span in
it falls between characters.
-/

namespace VuePrecompiler.Template

open Source Text

/-- An attribute stands in a part of the source, its name in front and
its value inside. -/
structure SourceAttribute.IsTaken (source : String) (outer : Span)
    (item : SourceAttribute) : Prop where
  liesIn : item.span.LiesIn source
  inside : outer.Within item.span
  name : item.span.Quotes source (String.ofList item.name)
    (.ofText item.span.start (String.ofList item.name))
  value : ∀ value ∈ item.value, item.span.Quotes source value.1 value.2

theorem SourceAttribute.IsTaken.widen {source : String} {wide outer : Span}
    {item : SourceAttribute} (taken : item.IsTaken source outer)
    (inside : wide.Within outer) :
    item.IsTaken source wide :=
  { taken with inside := inside.trans taken.inside }

/-- What a token says stands in its part of the source.  A tag without a name has
no such part: what it says stands behind it. -/
def Token.IsTaken (source : String) (span : Span) : Token → Prop
  | .startTag name attributes _ =>
    span.Quotes source name (.ofText (span.start + 1) name) ∧
      ∀ item ∈ attributes, item.IsTaken source span
  | .nameless _ => False
  | .endTag name => span.Quotes source name (.ofText (span.start + 2) name)
  | .comment content => span.Quotes source content (.ofText (span.start + 4) content)
  | .declaration => True
  | .interpolation content inner => span.Quotes source content inner
  | .text content => span.Quotes source content span

namespace Token

variable {source : String} {cursor : Cursor}

/-! ## Attributes -/

theorem dropSlashes_append (value : List Char) :
    ∃ slashes, dropSlashes value ++ slashes = value := by
  refine ⟨(value.reverse.takeWhile (· == '/')).reverse, ?_⟩
  rw [dropSlashes, ← List.reverse_append, List.takeWhile_append_dropWhile,
    List.reverse_reverse]

theorem attributeValue_quotes (stands : cursor.StandsIn source) :
    Span.Quotes source ⟨cursor.offset, (attributeValue cursor).2.offset⟩
      (attributeValue cursor).1.1 (attributeValue cursor).1.2 := by
  have quoted (quote : Char) : Span.Quotes source
      ⟨cursor.offset, (quotedValue quote cursor).2.offset⟩
      (quotedValue quote cursor).1.1 (quotedValue quote cursor).1.2 :=
    stands.quotes cursor.reaches_bump
      (Cursor.passes_takeWhile (· != quote) cursor.bump) (Cursor.reaches_bump _)
  unfold attributeValue
  split
  · exact quoted '"'
  · exact quoted '\''
  · -- The slashes behind the value are not passed.
    obtain ⟨slashes, value⟩ :=
      dropSlashes_append (cursor.takeWhile fun c => !isBlank c && c != '>').1
    have shape := (Cursor.passes_takeWhile (fun c => !isBlank c && c != '>') cursor).1
    rw [← value, List.append_assoc] at shape
    exact stands.quotes (.refl cursor) (Cursor.passes_skip shape rfl) (.refl _)

theorem valueAfterName_quotes (stands : cursor.StandsIn source) :
    ∀ value ∈ (valueAfterName cursor).1,
      Span.Quotes source ⟨cursor.offset, (valueAfterName cursor).2.offset⟩
        value.1 value.2 := by
  intro value given
  unfold valueAfterName at given ⊢
  split at given
  · next sign =>
    obtain rfl := Option.mem_some.mp given
    have front : cursor.Reaches cursor.skipBlanks.bump.skipBlanks :=
      cursor.reaches_skipBlanks.trans
        ((Cursor.reaches_bump _).trans (Cursor.reaches_skipBlanks _))
    rw [if_pos sign]
    exact (attributeValue_quotes (stands.next front)).widen ⟨front.le, Nat.le_refl _⟩
  · contradiction

theorem attributes_taken (stands : cursor.StandsIn source) :
    ∀ item ∈ (attributes cursor).1,
      item.IsTaken source ⟨cursor.offset, (attributes cursor).2.offset⟩ := by
  fun_induction attributes cursor with
  | case1 => simp
  | case2 cursor here _ _ _ induction =>
      have front : cursor.Reaches here.bump :=
        cursor.reaches_skipBlanks.trans (Cursor.reaches_bump here)
      exact fun item member =>
        (induction (stands.next front) item member).widen ⟨front.le, Nat.le_refl _⟩
  | case3 cursor here _ name _ value others induction =>
      have blanks : cursor.Reaches here := cursor.reaches_skipBlanks
      have named := Cursor.passes_takeWhile isAttributeChar here
      have valued : name.2.Reaches value.2 := reaches_valueAfterName name.2
      have front : here.Reaches value.2 := named.reaches.trans valued
      have later : value.2.Reaches others.2 := reaches_attributes value.2
      have standsHere := stands.next blanks
      intro item member
      rcases List.mem_cons.mp member with rfl | member
      · refine ⟨standsHere.liesIn front, ⟨blanks.le, later.le⟩, ?_, ?_⟩
        · rw [← named.span_eq]
          exact standsHere.quotes (.refl here) named valued
        · intro given isValue
          exact (valueAfterName_quotes
            (standsHere.next named.reaches) given isValue).widen
            ⟨named.reaches.le, Nat.le_refl _⟩
      · exact (induction (standsHere.next front) item member).widen
          ⟨(blanks.trans front).le, Nat.le_refl _⟩

/-! ## Tokens -/

/-- The name of an end tag is not behind its end. -/
theorem reaches_endOfTag (cursor : Cursor) :
    (cursor.takeWhile fun c => !isBlank c && c != '>').2.Reaches
      (cursor.takeUntil ['>']).2 := by
  have named := Cursor.passes_takeWhile (fun c => !isBlank c && c != '>') cursor
  have begins : (cursor.takeWhile fun c => !isBlank c && c != '>').1 <+:
      (cursor.takeUntil ['>']).1 := by
    have shorter := List.takeWhile_prefix (fun c => !isBlank c)
      (l := cursor.rest.takeWhile (· != '>'))
    simp only [List.takeWhile_takeWhile, Bool.decide_and,
      Bool.decide_eq_true] at shorter
    rw [Cursor.takeUntil_fst, breakOn_singleton]
    exact shorter
  exact named.reaches_of_prefix (Cursor.passes_takeUntil ['>'] cursor) begins

theorem startTagAt_fst (cursor : Cursor) :
    (startTagAt cursor).1 =
      .startTag (String.ofList (cursor.takeWhile isTagChar).1)
        (attributes (cursor.takeWhile isTagChar).2).1
        ((attributes (cursor.takeWhile isTagChar).2).2.sees ['/', '>']) := by
  unfold startTagAt
  dsimp only
  split
  · next closed => rw [closed]
  · next unclosed => rw [Bool.eq_false_iff.mpr unclosed]

section

variable (stands : cursor.StandsIn source)
include stands

theorem startTagAt_taken {tail : List Char} (shape : cursor.rest = '<' :: tail) :
    (startTagAt cursor.bump).1.IsTaken source
      ⟨cursor.offset, (startTagAt cursor.bump).2.offset⟩ := by
  have mark : cursor.Passes ['<'] cursor.bump :=
    @Cursor.passes_skip 1 ['<'] tail cursor shape rfl
  have named := Cursor.passes_takeWhile isTagChar cursor.bump
  have ending : (attributes (cursor.bump.takeWhile isTagChar).2).2.Reaches
      (startTagAt cursor.bump).2 := by
    unfold startTagAt
    dsimp only
    split
    · exact Cursor.reaches_skip 2 _
    · exact Cursor.reaches_eat ['>'] _
  have front : cursor.Reaches (cursor.bump.takeWhile isTagChar).2 :=
    mark.reaches.trans named.reaches
  rw [startTagAt_fst]
  constructor
  · have quoted :=
      stands.quotes mark.reaches named ((reaches_attributes _).trans ending)
    rw [named.span_eq, mark.2] at quoted
    exact quoted
  · intro item member
    exact (attributes_taken (stands.next front) item member).widen ⟨front.le,
      ending.le⟩

/-- What stands behind a mark is quoted. -/
theorem quotes_behind {mark tail taken : List Char} {after last : Cursor}
    (shape : cursor.rest = mark ++ tail)
    (passes : (cursor.skip mark.length).Passes taken after)
    (behind : after.Reaches last) :
    Span.Quotes source ⟨cursor.offset, last.offset⟩ (String.ofList taken)
      (.ofText (cursor.offset + byteLength mark) (String.ofList taken)) := by
  have front := Cursor.passes_skip shape rfl
  have quoted := stands.quotes front.reaches passes behind
  rw [passes.span_eq, front.2] at quoted
  exact quoted

theorem textAt_taken :
    (textAt cursor).1.IsTaken source ⟨cursor.offset, (textAt cursor).2.offset⟩ := by
  have later : cursor.bump.Passes (textPart cursor.bump.rest).1 (textAt cursor).2 :=
    ⟨(textPart_append cursor.bump.rest).symm, rfl⟩
  exact stands.quotes (.refl cursor) (cursor.passes_bump.append later) (.refl _)

theorem endTagAt_taken {tail : List Char} (shape : cursor.rest = '<' :: '/' :: tail) :
    (endTagAt cursor).1.IsTaken source ⟨cursor.offset,
      (endTagAt cursor).2.offset⟩ := by
  have named :=
    Cursor.passes_takeWhile (fun c => !isBlank c && c != '>') (cursor.skip 2)
  have behind := (reaches_endOfTag (cursor.skip 2)).trans (Cursor.reaches_eat ['>'] _)
  exact @quotes_behind _ _ stands ['<', '/'] tail _ _ _ shape named behind

theorem commentAt_taken {tail : List Char}
    (shape : cursor.rest = '<' :: '!' :: '-' :: '-' :: tail) :
    (commentAt cursor).1.IsTaken source ⟨cursor.offset, (commentAt cursor).2.offset⟩ :=
  @quotes_behind _ _ stands ['<', '!', '-', '-'] tail _ _ _ shape
    (Cursor.passes_takeUntil ['-', '-', '>'] _) (Cursor.reaches_eat _ _)

theorem interpolationAt_taken :
    (interpolationAt cursor).1.IsTaken source
      ⟨cursor.offset, (interpolationAt cursor).2.offset⟩ :=
  stands.quotes (cursor.reaches_skip 2) (Cursor.passes_takeUntil ['}', '}'] _)
    (Cursor.reaches_eat _ _)

/-- What the token at a cursor says stands in the source. -/
theorem next_taken :
    (next cursor).1.IsTaken source ⟨cursor.offset, (next cursor).2.offset⟩ := by
  unfold next
  split
  · next shape => exact endTagAt_taken stands shape
  · next shape => exact commentAt_taken stands shape
  · exact trivial
  · next shape =>
    split
    · next letter =>
      rw [tagAt_of_letter shape letter]
      exact startTagAt_taken stands shape
    · exact textAt_taken stands
  · exact interpolationAt_taken stands
  · exact textAt_taken stands

end

end Token

end VuePrecompiler.Template
