import Mathlib.Data.List.DropRight
import Mathlib.Data.List.Forall2
import VuePrecompiler.Proofs.LexemePlaces
import VuePrecompiler.Proofs.Markup

/-!
# Tokens of written markup

In front of the text of some markup a cursor sees the token that the markup
was written as, and stands behind it afterwards.
-/

namespace VuePrecompiler.Template

open Source Text Markup

/-- An attribute of a start tag spells an attribute of markup. -/
def Spells (item : SourceAttribute) (shown : MarkupAttribute) : Prop :=
  item.name = shown.1.toList ∧ item.value.map Prod.fst = shown.2

namespace Token

/-! ## Characters of names -/

theorem isAlphanum_lt {c : Char} (alphanumeric : c.isAlphanum = true) :
    c.toNat < 128 := by
  have below : ∀ {last : Char}, last.toNat < 128 → c.val ≤ last.val →
      c.toNat < 128 := by
    intro last small upTo
    exact Nat.lt_of_le_of_lt (UInt32.le_iff_toNat_le.mp upTo) small
  rcases Bool.or_eq_true_iff.mp alphanumeric with letter | digit
  · rcases Bool.or_eq_true_iff.mp letter with upper | lower
    · exact @below 'Z' (by decide) (of_decide_eq_true upper).2
    · exact @below 'z' (by decide)
        (of_decide_eq_true (Bool.and_eq_true_iff.mp lower).2)
  · exact @below '9' (by decide) (of_decide_eq_true (Bool.and_eq_true_iff.mp digit).2)

theorem isAttributeChar_lt {c : Char} (named : isAttributeChar c = true) :
    c.toNat < 128 := by
  simp only [isAttributeChar, Bool.or_eq_true, List.contains_eq_mem,
    decide_eq_true_eq] at named
  rcases named with alphanumeric | mark
  · exact isAlphanum_lt alphanumeric
  · simp only [List.mem_cons, List.not_mem_nil, or_false] at mark
    rcases mark with rfl | rfl | rfl | rfl | rfl | rfl | rfl | rfl | rfl <;> decide

/-- The characters of names are no blanks, and none of the marks that end names. -/
theorem isAttributeChar_plain {c : Char} (named : isAttributeChar c = true) :
    isBlank c = false ∧ c ∉ ['=', '>', '/'] := by
  have all : ∀ code < 128, isAttributeChar (Char.ofNat code) = true →
      isBlank (Char.ofNat code) = false ∧ Char.ofNat code ∉ ['=', '>', '/'] := by
    decide +kernel
  have here := all c.toNat (isAttributeChar_lt named)
  rw [Char.ofNat_toNat] at here
  exact here named

theorem isAttributeChar_of_isTagChar {c : Char} (named : isTagChar c = true) :
    isAttributeChar c = true := by
  simp only [isTagChar, Bool.or_eq_true, beq_iff_eq] at named
  simp only [isAttributeChar, Bool.or_eq_true, List.contains_eq_mem, decide_eq_true_eq]
  rcases named with ((alphanumeric | rfl) | rfl) | rfl
  · exact Or.inl alphanumeric
  · exact Or.inr (by decide)
  · exact Or.inr (by decide)
  · exact Or.inr (by decide)

/-! ## Attributes -/

/-- What stands behind the attributes of a start tag, and behind each name in it. -/
def behindName (value : Option String) (later : List Char) : List Char :=
  match value with
  | none => later
  | some value => '=' :: '"' :: (value.toList ++ '"' :: later)

theorem writtenAttribute_append (shown : MarkupAttribute) (later : List Char) :
    writtenAttribute shown ++ later =
      ' ' :: (shown.1.toList ++ behindName shown.2 later) := by
  rcases shown with ⟨name, _ | value⟩
  · rfl
  · simp [writtenAttribute, behindName]

/-- What is written behind a name does not go on with it. -/
theorem head_behindName {value : Option String} {attributes : List MarkupAttribute}
    {tail : List Char} :
    ∀ c ∈
      (behindName value (attributes.flatMap writtenAttribute ++ '>' :: tail)).head?,
      isAttributeChar c = false := by
  intro c head
  cases value with
  | some value =>
      obtain rfl := Option.mem_some_iff.mp head
      decide
  | none =>
      cases attributes with
      | nil =>
          obtain rfl := Option.mem_some_iff.mp head
          decide
      | cons first rest =>
          rw [behindName, List.flatMap_cons, List.append_assoc,
            writtenAttribute_append] at head
          obtain rfl := Option.mem_some_iff.mp head
          decide

/-- In front of its attributes a start tag goes on with the first of their names. -/
theorem dropWhile_attributes_cons {shown : MarkupAttribute} (static : IsStatic shown)
    (later : List Char) :
    (writtenAttribute shown ++ later).dropWhile isBlank =
      shown.1.toList ++ behindName shown.2 later := by
  obtain ⟨first, rest, name⟩ := List.exists_cons_of_ne_nil static.named
  have isName : isAttributeChar first = true := static.chars first (by simp [name])
  have blank : isBlank ' ' = true := by decide
  rw [writtenAttribute_append, List.dropWhile_cons, if_pos blank, name,
    List.cons_append, List.dropWhile_cons, (isAttributeChar_plain isName).1,
    if_neg Bool.false_ne_true]

/-- No attribute starts with an equals sign. -/
theorem head_dropWhile_attributes {attributes : List MarkupAttribute}
    {tail : List Char} (static : ∀ item ∈ attributes, IsStatic item) :
    ∀ c ∈
      ((attributes.flatMap writtenAttribute ++ '>' :: tail).dropWhile isBlank).head?,
      c ≠ '=' := by
  intro c head
  cases attributes with
  | nil =>
      obtain rfl := Option.mem_some_iff.mp head
      decide
  | cons first rest =>
      have firstStatic := static first List.mem_cons_self
      rw [List.flatMap_cons, List.append_assoc,
        dropWhile_attributes_cons firstStatic] at head
      obtain ⟨initial, others, name⟩ := List.exists_cons_of_ne_nil firstStatic.named
      rw [name] at head
      obtain rfl := Option.mem_some_iff.mp head
      have isName : isAttributeChar initial = true :=
        firstStatic.chars initial (by simp [name])
      rintro rfl
      exact absurd isName (by decide)

/-- What stands between quotes is taken as it is. -/
theorem quotedValue_written {cursor : Cursor} {quote : Char} {text later : List Char}
    (shape : cursor.rest = quote :: (text ++ quote :: later))
    (unquoted : quote ∉ text) :
    (quotedValue quote cursor).1.1 = String.ofList text ∧
      (quotedValue quote cursor).2.rest = later := by
  have inner : cursor.bump.rest = text ++ quote :: later := by
    rw [Cursor.rest_bump, shape]
    rfl
  have all : ∀ c ∈ text, (c != quote) = true := by
    intro c member
    rw [bne_iff_ne]
    rintro rfl
    exact unquoted member
  have stops : ∀ c ∈ (quote :: later).head?, (c != quote) = false := by
    intro c head
    obtain rfl := Option.mem_some_iff.mp head
    exact bne_self_eq_false _
  constructor
  · rw [quotedValue, Cursor.takeWhile_fst, inner, takeWhile_append_of_stop all stops]
  · rw [quotedValue, Cursor.rest_bump, Cursor.rest_takeWhile, inner,
      dropWhile_append_of_stop all stops]
    rfl

/-- Without an equals sign there is no value. -/
theorem valueAfterName_bare {cursor : Cursor}
    (bare : ∀ c ∈ (cursor.rest.dropWhile isBlank).head?, c ≠ '=') :
    valueAfterName cursor = (none, cursor.skipBlanks) := by
  have unseen : cursor.skipBlanks.sees ['='] = false := by
    rw [Cursor.sees, Cursor.rest_skipBlanks]
    cases following : cursor.rest.dropWhile isBlank with
    | nil => rfl
    | cons c more =>
        have other : c ≠ '=' := bare c (by rw [following]; rfl)
        rw [Bool.eq_false_iff, ne_eq, List.isPrefixOf_iff_prefix,
          List.cons_prefix_cons]
        exact fun begins => other begins.1.symm
  rw [valueAfterName, unseen, if_neg Bool.false_ne_true]

theorem valueAfterName_quoted {cursor : Cursor} {text later : List Char}
    (shape : cursor.rest = '=' :: '"' :: (text ++ '"' :: later))
    (unquoted : '"' ∉ text) :
    (valueAfterName cursor).1.map Prod.fst = some (String.ofList text) ∧
      (valueAfterName cursor).2.rest = later := by
  have atEquals : cursor.skipBlanks.rest = '=' :: '"' :: (text ++ '"' :: later) := by
    rw [Cursor.rest_skipBlanks, shape]
    rfl
  have seen : cursor.skipBlanks.sees ['='] = true := by
    rw [Cursor.sees, atEquals]
    rfl
  have atQuote :
      cursor.skipBlanks.bump.skipBlanks.rest = '"' :: (text ++ '"' :: later) := by
    rw [Cursor.rest_skipBlanks, Cursor.rest_bump, atEquals]
    rfl
  have quoted : attributeValue cursor.skipBlanks.bump.skipBlanks =
      quotedValue '"' cursor.skipBlanks.bump.skipBlanks := by
    unfold attributeValue
    rw [atQuote]
    rfl
  obtain ⟨taken, left⟩ := quotedValue_written atQuote unquoted
  rw [valueAfterName, seen, if_pos rfl, quoted]
  exact ⟨congrArg some taken, left⟩

/-- A value in double quotes is taken as it is, and a missing one is none. -/
theorem valueAfterName_written {cursor : Cursor} {value : Option String}
    {later : List Char} (shape : cursor.rest = behindName value later)
    (unquoted : ∀ text ∈ value, '"' ∉ text.toList)
    (bare : ∀ c ∈ (later.dropWhile isBlank).head?, c ≠ '=') :
    (valueAfterName cursor).1.map Prod.fst = value ∧
      (valueAfterName cursor).2.skipBlanks.rest = later.dropWhile isBlank := by
  cases value with
  | none =>
      have atLater : cursor.rest = later := shape
      rw [← atLater] at bare ⊢
      rw [valueAfterName_bare bare]
      exact ⟨rfl, List.dropWhile_idempotent _ _⟩
  | some text =>
      obtain ⟨taken, left⟩ := valueAfterName_quoted shape (unquoted text rfl)
      rw [Cursor.rest_skipBlanks, left, taken, String.ofList_toList]
      exact ⟨rfl, rfl⟩

theorem endsAttributes_of_name {shown : MarkupAttribute} (static : IsStatic shown)
    {cursor : Cursor} {later : List Char}
    (shape : cursor.rest = shown.1.toList ++ later) :
    endsAttributes cursor = false := by
  obtain ⟨initial, others, name⟩ := List.exists_cons_of_ne_nil static.named
  have isName : isAttributeChar initial = true := static.chars initial (by simp [name])
  have plain := (isAttributeChar_plain isName).2
  simp only [List.mem_cons, List.not_mem_nil, or_false, not_or] at plain
  have noClose : ∀ mark : List Char, mark.head? = some '>' ∨ mark.head? = some '/' →
      cursor.sees mark = false := by
    intro mark starts
    rw [Cursor.sees, Bool.eq_false_iff, ne_eq, List.isPrefixOf_iff_prefix, shape, name]
    rintro ⟨more, same⟩
    cases mark with
    | nil => simp at starts
    | cons c mark =>
        obtain ⟨rfl, _⟩ := List.cons.inj same
        simp only [List.head?_cons, Option.some_inj] at starts
        exact starts.elim plain.2.1 plain.2.2
  rw [endsAttributes, noClose _ (Or.inl rfl), noClose _ (Or.inr rfl), shape, name]
  rfl

/-- The attributes of a start tag are read as they were written. -/
theorem attributes_written {attributes : List MarkupAttribute}
    (static : ∀ item ∈ attributes, IsStatic item) {cursor : Cursor} {tail : List Char}
    (shape : cursor.skipBlanks.rest =
      (attributes.flatMap writtenAttribute ++ '>' :: tail).dropWhile isBlank) :
    List.Forall₂ Spells (Token.attributes cursor).1 attributes ∧
      (Token.attributes cursor).2.rest = '>' :: tail := by
  induction attributes generalizing cursor with
  | nil =>
      have atEnd : cursor.skipBlanks.rest = '>' :: tail := shape
      have ended : endsAttributes cursor.skipBlanks = true := by
        rw [endsAttributes, Cursor.sees, atEnd]
        rfl
      rw [Token.attributes]
      simp only [ended, ↓reduceIte]
      exact ⟨.nil, atEnd⟩
  | cons shown rest induction =>
      have shownStatic := static shown List.mem_cons_self
      have restStatic : ∀ item ∈ rest, IsStatic item := fun item member =>
        static item (List.mem_cons_of_mem _ member)
      rw [List.flatMap_cons, List.append_assoc,
        dropWhile_attributes_cons shownStatic] at shape
      have more : endsAttributes cursor.skipBlanks = false :=
        endsAttributes_of_name shownStatic shape
      have name :
          cursor.skipBlanks.rest.takeWhile isAttributeChar = shown.1.toList := by
        rw [shape]
        exact takeWhile_append_of_stop shownStatic.chars head_behindName
      have behind : (cursor.skipBlanks.takeWhile isAttributeChar).2.rest =
          behindName shown.2 (rest.flatMap writtenAttribute ++ '>' :: tail) := by
        rw [Cursor.rest_takeWhile, shape]
        exact dropWhile_append_of_stop shownStatic.chars head_behindName
      obtain ⟨value, left⟩ := valueAfterName_written behind shownStatic.unquoted
        (head_dropWhile_attributes restStatic)
      obtain ⟨others, ended⟩ := induction restStatic left
      rw [Token.attributes]
      simp only [more, Bool.false_eq_true, ↓reduceIte, Cursor.takeWhile_fst, name,
        shownStatic.named]
      exact ⟨.cons ⟨rfl, value⟩ others, ended⟩

end Token

/-! ## Start tags -/

theorem Markup.IsStatic.not_prefixed {shown : MarkupAttribute}
    (static : IsStatic shown) {start : List Char} (directive : ['v', '-'] <+: start) :
    afterPrefix? start shown.1.toList = none :=
  afterPrefix?_eq_none fun begins => static.noDirective (directive.trans begins)

theorem Markup.IsStatic.not_marked {shown : MarkupAttribute} (static : IsStatic shown)
    {mark : Char} (special : mark ∈ [':', '.', '@', '#']) :
    shown.1.toList.head? ≠ some mark := by
  intro head
  exact static.noShorthand mark head special

theorem Markup.IsStatic.not_shorthand {shown : MarkupAttribute}
    (static : IsStatic shown) {mark : Char}
    (special : mark ∈ [':', '.', '@', '#']) :
    afterPrefix? [mark] shown.1.toList = none := by
  refine afterPrefix?_eq_none ?_
  rintro ⟨more, begins⟩
  exact static.not_marked special (by rw [← begins]; rfl)

/-- A static attribute is none of the things that special names stand for. -/
theorem ofSource_static {shown : MarkupAttribute} (static : IsStatic shown)
    {item : SourceAttribute} (spells : Spells item shown) :
    ∃ plain, TagItem.ofSource item = .plain plain ∧
      (plain.name, plain.value.map AttributeValue.text) = shown := by
  obtain ⟨name, value⟩ := spells
  have unbound : TagItem.boundName? shown.1.toList = none := by
    rw [TagItem.boundName?, static.not_prefixed (by decide),
      static.not_shorthand (by decide), if_neg (static.not_marked (by decide))]
    rfl
  have noEvent : TagItem.eventName? shown.1.toList = none := by
    rw [TagItem.eventName?, static.not_prefixed (by decide),
      static.not_shorthand (by decide)]
    rfl
  have noDirective := static.not_prefixed (List.prefix_refl ['v', '-'])
  have noSlot : afterPrefix? ['#'] shown.1.toList = none :=
    static.not_shorthand (by decide)
  rw [← name] at unbound noEvent noDirective noSlot
  let values := item.value.map fun given => (⟨given.1, given.2⟩ : AttributeValue)
  have shownValue : values.map AttributeValue.text = shown.2 := by
    rw [← value, Option.map_map]
    rfl
  refine ⟨⟨String.ofList item.name, values, item.span⟩, ?_, ?_⟩
  · simp only [TagItem.ofSource, unbound, noEvent, noDirective, noSlot]
    rfl
  · rw [shownValue, name, String.ofList_toList]

/-- A start tag with static attributes says these and nothing else. -/
theorem tagShows_ofSource {name : String} {attributes : List MarkupAttribute}
    (static : ∀ item ∈ attributes, IsStatic item) {items : List SourceAttribute}
    (spell : List.Forall₂ Spells items attributes) :
    TagShows name attributes (StartTag.ofSource name items) := by
  suffices all :
    ∃ plain : List Attribute, items.map TagItem.ofSource = plain.map TagItem.plain ∧
      (plain.map fun item => (item.name, item.value.map AttributeValue.text)) =
        attributes by
    obtain ⟨plain, classified, same⟩ := all
    refine ⟨rfl, rfl, ?_, ?_, ?_, ?_⟩
    · rw [← same]
      simp [StartTag.ofSource, classified, List.filterMap_map]
    · simp [StartTag.ofSource, classified, List.filterMap_map]
    · simp [StartTag.ofSource, classified, List.filterMap_map]
    · simp [StartTag.ofSource, classified, List.filterMap_map]
  induction spell with
  | nil => exact ⟨[], rfl, rfl⟩
  | @cons item shown items attributes first rest induction =>
      obtain ⟨plain, classified, same⟩ :=
        ofSource_static (static shown List.mem_cons_self) first
      obtain ⟨others, othersClassified, othersSame⟩ :=
        induction fun item member => static item (List.mem_cons_of_mem _ member)
      refine ⟨plain :: others, ?_, ?_⟩
      · rw [List.map_cons, classified, othersClassified, List.map_cons]
      · rw [List.map_cons, same, othersSame]

/-! ## Tokens -/

namespace Token

/-- A cursor in front of some characters sees a token, and stands
behind them afterwards. -/
def Sees (cursor : Cursor) (token : Token) (tail : List Char) : Prop :=
  (next cursor).1 = token ∧ (next cursor).2.rest = tail

theorem next_of_letter {cursor : Cursor} {first : Char} {more : List Char}
    (shape : cursor.rest = '<' :: first :: more) (letter : first.isAlpha = true) :
    next cursor = startTagAt cursor.bump := by
  have notSlash : first ≠ '/' := by
    rintro rfl
    exact absurd letter (by decide)
  have notMark : first ≠ '!' := by
    rintro rfl
    exact absurd letter (by decide)
  unfold next
  rw [shape]
  split
  · next same => exact absurd (List.cons.inj (List.cons.inj same).2).1 notSlash
  · next same => exact absurd (List.cons.inj (List.cons.inj same).2).1 notMark
  · next same => exact absurd (List.cons.inj (List.cons.inj same).2).1 notMark
  · next same =>
    obtain ⟨rfl, _⟩ := List.cons.inj (List.cons.inj same).2
    rw [if_pos letter, tagAt_of_letter shape letter]
  · next same => exact absurd (List.cons.inj same).1 (by decide)
  · next other _ => exact absurd rfl (other first more)

/-- Text starts with no tag and no interpolation. -/
theorem next_of_text {cursor : Cursor} (noTag : cursor.rest.head? ≠ some '<')
    (noBraces : ¬ ['{', '{'] <+: cursor.rest) : next cursor = textAt cursor := by
  unfold next
  split
  · next shape => exact absurd (by rw [shape]; rfl) noTag
  · next shape => exact absurd (by rw [shape]; rfl) noTag
  · next shape => exact absurd (by rw [shape]; rfl) noTag
  · next shape => exact absurd (by rw [shape]; rfl) noTag
  · next more shape => exact absurd ⟨more, shape.symm⟩ noBraces
  · rfl

/-- A start tag is taken apart into its name and its attributes. -/
theorem startTagAt_written {name : String} {attributes : List MarkupAttribute}
    {tail : List Char} (isName : IsElementName name)
    (static : ∀ item ∈ attributes, IsStatic item) {cursor : Cursor}
    (shape : cursor.rest = name.toList ++
      (attributes.flatMap writtenAttribute ++ '>' :: tail)) :
    ∃ items, (startTagAt cursor).1 = .startTag name items false ∧
      (startTagAt cursor).2.rest = tail ∧ List.Forall₂ Spells items attributes := by
  have stops : ∀ c ∈ (attributes.flatMap writtenAttribute ++ '>' :: tail).head?,
      isTagChar c = false := by
    intro c head
    rw [Bool.eq_false_iff]
    intro named
    have other := @head_behindName none attributes tail c head
    rw [isAttributeChar_of_isTagChar named] at other
    contradiction
  have taken : cursor.rest.takeWhile isTagChar = name.toList := by
    rw [shape]
    exact takeWhile_append_of_stop isName.chars stops
  have behind : (cursor.takeWhile isTagChar).2.rest =
      attributes.flatMap writtenAttribute ++ '>' :: tail := by
    rw [Cursor.rest_takeWhile, shape]
    exact dropWhile_append_of_stop isName.chars stops
  obtain ⟨spell, ended⟩ := @attributes_written attributes static
    (cursor.takeWhile isTagChar).2 tail (by rw [Cursor.rest_skipBlanks, behind])
  have notSelfClosing :
      (Token.attributes (cursor.takeWhile isTagChar).2).2.sees ['/', '>'] =
      false := by
    rw [Cursor.sees, ended]
    rfl
  refine ⟨_, ?_, ?_, spell⟩
  · rw [startTagAt]
    simp only [notSelfClosing, Bool.false_eq_true, ↓reduceIte, Cursor.takeWhile_fst,
      taken, String.ofList_toList]
  · rw [startTagAt]
    simp only [notSelfClosing, Bool.false_eq_true, ↓reduceIte]
    exact @Cursor.rest_eat ['>'] tail _ ended

theorem next_startTag {name : String} {attributes : List MarkupAttribute}
    {tail : List Char} (isName : IsElementName name)
    (static : ∀ item ∈ attributes, IsStatic item)
    {cursor : Cursor} (shape : cursor.rest = Markup.startTag name attributes ++ tail) :
    ∃ items, Sees cursor (.startTag name items false) tail ∧
      TagShows name attributes (StartTag.ofSource name items) := by
  obtain ⟨first, rest, letters, letter⟩ := isName.letter
  have tag : cursor.rest =
      '<' :: first :: (rest ++ (attributes.flatMap writtenAttribute ++ ['>']) ++
        tail) := by
    rw [shape, Markup.startTag, letters]
    rfl
  have inside : cursor.bump.rest =
      name.toList ++ (attributes.flatMap writtenAttribute ++ '>' :: tail) := by
    rw [Cursor.rest_bump, shape]
    simp [Markup.startTag]
  obtain ⟨items, token, behind, spell⟩ := startTagAt_written isName static inside
  refine ⟨items, ?_, tagShows_ofSource static spell⟩
  rw [Sees, next_of_letter tag letter]
  exact ⟨token, behind⟩

theorem next_endTag {name : String} {tail : List Char} (isName : IsElementName name)
    {cursor : Cursor} (shape : cursor.rest = Markup.endTag name ++ tail) :
    Sees cursor (.endTag name) tail := by
  have inside : (cursor.skip 2).rest = name.toList ++ '>' :: tail := by
    rw [Cursor.rest_skip, shape]
    simp [Markup.endTag]
  have chars : ∀ c ∈ name.toList, (!isBlank c && c != '>') = true := by
    intro c member
    obtain ⟨notBlank, plain⟩ :=
      isAttributeChar_plain (isAttributeChar_of_isTagChar (isName.chars c member))
    have notClose : c ≠ '>' := by
      rintro rfl
      exact plain (by decide)
    rw [notBlank, bne_iff_ne.mpr notClose]
    rfl
  have stops : ∀ c ∈ ('>' :: tail).head?, (!isBlank c && c != '>') = false := by
    intro c head
    obtain rfl := Option.mem_some_iff.mp head
    decide
  have atTag : next cursor = endTagAt cursor := by
    unfold next
    rw [shape]
    rfl
  have noClose : '>' ∉ name.toList := by
    intro member
    exact absurd (isName.chars '>' member) (by decide)
  constructor
  · rw [atTag, endTagAt, Cursor.takeWhile_fst, inside,
      takeWhile_append_of_stop chars stops, String.ofList_toList]
  · rw [atTag, endTagAt, skipTag]
    exact (Cursor.takeUntil_eat inside (breakOn_char noClose)).2

theorem next_comment {content : String} {tail : List Char}
    (closed : ¬ "-->".toList <:+: content.toList) {cursor : Cursor}
    (shape : cursor.rest = (Markup.comment content).written ++ tail) :
    Sees cursor (.comment content) tail := by
  have inside :
      (cursor.skip 4).rest = content.toList ++ (['-', '-', '>'] ++ tail) := by
    rw [Cursor.rest_skip, shape]
    simp [Markup.written]
  have atComment : next cursor = commentAt cursor := by
    unfold next
    rw [shape]
    rfl
  have cut : breakOn ['-', '-', '>'] (content.toList ++ (['-', '-', '>'] ++ tail)) =
      (content.toList, ['-', '-', '>'] ++ tail) := by
    refine breakOn_of_first ?_ (List.cons_ne_nil _ _)
    intro left right split nonempty begins
    -- The end mark lies in the content, or its third character is a dash of the
    -- real one.
    rcases right with _ | ⟨first, _ | ⟨second, _ | ⟨third, right⟩⟩⟩
    · contradiction
    · simp at begins
    · simp at begins
    · simp only [List.cons_append, List.cons_prefix_cons] at begins
      obtain ⟨rfl, rfl, rfl, _⟩ := begins
      exact closed ⟨left, right, by rw [split]; simp⟩
  obtain ⟨taken, left⟩ := Cursor.takeUntil_eat inside cut
  constructor
  · rw [atComment, commentAt]
    simp only [taken, String.ofList_toList]
  · rw [atComment]
    exact left

/-- With blanks around it, an expression still ends at the closing braces only. -/
theorem spaced_closed {expression tail : List Char}
    (closed : ¬ ['}', '}'] <:+: expression)
    (left right : List Char) (split : ' ' :: (expression ++ [' ']) = left ++ right)
    (nonempty : right ≠ []) : ¬ ['}', '}'] <+: right ++ (['}', '}'] ++ tail) := by
  intro begins
  rw [← List.cons_append] at split
  rcases right with _ | ⟨first, _ | ⟨second, right⟩⟩
  · contradiction
  · simp only [List.cons_append, List.cons_prefix_cons] at begins
    obtain ⟨_, last⟩ := List.append_singleton_inj.mp split
    rw [← last] at begins
    exact absurd begins.1 (by decide)
  · simp only [List.cons_append, List.cons_prefix_cons] at begins
    obtain ⟨rfl, rfl, _⟩ := begins
    -- The braces are not at the ends, where the blanks are.
    rcases List.eq_nil_or_concat' right with rfl | ⟨inner, last, rfl⟩
    · have ends : left ++ ['}', '}'] = (left ++ ['}']) ++ ['}'] := by simp
      rw [ends] at split
      exact absurd (List.append_singleton_inj.mp split).2 (by decide)
    · have ends : left ++ '}' :: '}' :: (inner ++ [last]) =
          (left ++ '}' :: '}' :: inner) ++ [last] := by simp
      rw [ends] at split
      have front := (List.append_singleton_inj.mp split).1
      cases left with
      | nil => exact absurd (List.cons.inj front).1 (by decide)
      | cons c left =>
          exact closed ⟨left, inner, by rw [(List.cons.inj front).2]; simp⟩

theorem next_interpolation {expression : String} {tail : List Char}
    (closed : ¬ ['}', '}'] <:+: expression.toList) {cursor : Cursor}
    (shape : cursor.rest = (Markup.interpolation expression).written ++ tail) :
    ∃ inner, Sees cursor (.interpolation (" " ++ expression ++ " ") inner) tail := by
  have inside : (cursor.skip 2).rest =
      (' ' :: (expression.toList ++ [' '])) ++ (['}', '}'] ++ tail) := by
    rw [Cursor.rest_skip, shape]
    simp [Markup.written]
  have atBraces : next cursor = interpolationAt cursor := by
    unfold next
    rw [shape]
    rfl
  have cut := breakOn_of_first (@spaced_closed _ tail closed) (List.cons_ne_nil _ _)
  obtain ⟨taken, left⟩ := Cursor.takeUntil_eat inside cut
  have content : String.ofList (' ' :: (expression.toList ++ [' '])) =
      " " ++ expression ++ " " := by
    rw [← String.toList_inj]
    simp
  refine ⟨⟨(cursor.skip 2).offset, ((cursor.skip 2).takeUntil ['}', '}']).2.offset⟩,
    ?_, ?_⟩
  · rw [atBraces, interpolationAt]
    simp only [taken, content]
  · rw [atBraces]
    exact left

/-- What can follow a text: the end, a tag or a comment, or an interpolation if
the text does not end with a brace. -/
def StopsText (content tail : List Char) : Prop :=
  tail = [] ∨ (∃ rest, tail = '<' :: rest) ∨
    (∃ rest, tail = '{' :: '{' :: rest) ∧ content.getLast? ≠ some '{'

theorem StopsText.behind {c : Char} {later tail : List Char}
    (stops : StopsText (c :: later) tail) : StopsText later tail := by
  rcases stops with rfl | tag | ⟨braces, last⟩
  · exact Or.inl rfl
  · exact Or.inr (Or.inl tag)
  · refine Or.inr (Or.inr ⟨braces, ?_⟩)
    cases later with
    | nil => simp
    | cons d later => rwa [List.getLast?_cons_cons] at last

/-- Neither in a text nor at its end an interpolation begins. -/
theorem not_braces {content tail : List Char} (more : content ≠ [])
    (noBraces : ¬ ['{', '{'] <:+: content) (stops : StopsText content tail) :
    ¬ ['{', '{'] <+: content ++ tail := by
  intro begins
  rcases content with _ | ⟨first, _ | ⟨second, content⟩⟩
  · contradiction
  · simp only [List.cons_append, List.nil_append, List.cons_prefix_cons] at begins
    obtain ⟨rfl, begins⟩ := begins
    rcases stops with rfl | ⟨rest, rfl⟩ | ⟨_, last⟩
    · simp at begins
    · simp at begins
    · exact last rfl
  · simp only [List.cons_append, List.cons_prefix_cons] at begins
    obtain ⟨rfl, rfl, _⟩ := begins
    exact noBraces ⟨[], content, rfl⟩

theorem textPart_tail {content tail : List Char} (stops : StopsText content tail) :
    textPart tail = ([], tail) := by
  rcases stops with rfl | ⟨rest, rfl⟩ | ⟨⟨rest, rfl⟩, _⟩
  · rfl
  · rw [textPart, if_pos (by simp)]
  · rw [textPart, if_pos (by simp)]

/-- A text goes on up to what stops it. -/
theorem textPart_written {content tail : List Char} (noTag : '<' ∉ content)
    (noBraces : ¬ ['{', '{'] <:+: content) (stops : StopsText content tail) :
    textPart (content ++ tail) = (content, tail) := by
  induction content with
  | nil => exact textPart_tail stops
  | cons c content induction =>
      rw [List.mem_cons, not_or] at noTag
      have noBracesBehind : ¬ ['{', '{'] <:+: content := fun inside =>
        noBraces (List.infix_cons inside)
      have goesOn :
          (decide (c = '<') || ['{', '{'].isPrefixOf (c :: (content ++ tail))) =
            false := by
        rw [Bool.or_eq_false_iff, decide_eq_false_iff_not, Bool.eq_false_iff, ne_eq,
          List.isPrefixOf_iff_prefix]
        exact ⟨Ne.symm noTag.1, not_braces (List.cons_ne_nil c content) noBraces stops⟩
      rw [List.cons_append, textPart, goesOn, if_neg Bool.false_ne_true,
        induction noTag.2 noBracesBehind stops.behind]

theorem next_text {content : String} {tail : List Char} (more : content.toList ≠ [])
    (noTag : '<' ∉ content.toList) (noBraces : ¬ ['{', '{'] <:+: content.toList)
    (stops : StopsText content.toList tail) {cursor : Cursor}
    (shape : cursor.rest = content.toList ++ tail) :
    Sees cursor (.text content) tail := by
  have whole : content = String.ofList content.toList := String.ofList_toList.symm
  generalize content.toList = letters at more noTag noBraces stops shape whole
  subst whole
  cases letters with
  | nil => contradiction
  | cons c letters =>
      rw [List.mem_cons, not_or] at noTag
      have atText : next cursor = textAt cursor := by
        refine next_of_text ?_ ?_
        · rw [shape]
          exact fun head => noTag.1 (Option.some.inj head).symm
        · rw [shape]
          exact not_braces more noBraces stops
      have behind : textPart cursor.bump.rest = (letters, tail) := by
        rw [Cursor.rest_bump, shape]
        exact textPart_written noTag.2
          (fun inside => noBraces (List.infix_cons inside)) stops.behind
      constructor
      · rw [atText, textAt, behind, shape]
        rfl
      · rw [atText, textAt, behind]

end Token

end VuePrecompiler.Template
