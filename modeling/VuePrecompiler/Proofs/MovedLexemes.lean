import VuePrecompiler.Proofs.Sayings
import VuePrecompiler.Proofs.TokenSteps

/-!
# Lexemes at another position

What the lexemes of a text say depends on the text alone and not on the
position at which it begins.
-/

namespace VuePrecompiler.Template

open Source Text

namespace TagItem

/-- What is made of a code depends on its text if a given one only counts
without its place. -/
theorem unplaced_moved {value other : Option Code} {made remade : Option Code → TagItem}
    (same : value.map Code.unplaced = other.map Code.unplaced)
    (absent : (made none).unplaced = (remade none).unplaced)
    (given : ∀ code moved : Code, code.unplaced = moved.unplaced →
      (made (some code)).unplaced = (remade (some moved)).unplaced) :
    (made value).unplaced = (remade other).unplaced := by
  cases value with
  | none =>
      obtain rfl := Option.map_eq_none_iff.mp same.symm
      exact absent
  | some code =>
      obtain ⟨moved, rfl, codes⟩ := Option.map_eq_some_iff.mp same.symm
      exact given code moved codes.symm

section

variable {value other : Option Code}
  (same : value.map Code.unplaced = other.map Code.unplaced) (span otherSpan : Span)
include same

theorem ofBinding_moved (bound : List Char) :
    (ofBinding bound value span).unplaced =
      (ofBinding bound other otherSpan).unplaced := by
  apply unplaced_moved same
  · rfl
  · intro code moved codes
    exact congrArg (fun code => TagItem.binding ⟨_, code, _, nowhere⟩) codes

theorem ofListener_moved (event : List Char) :
    (ofListener event value span).unplaced =
      (ofListener event other otherSpan).unplaced := by
  apply unplaced_moved same
  · rfl
  · intro code moved codes
    exact congrArg (fun code => TagItem.listener ⟨_, code, _, nowhere⟩) codes

end

theorem code_said (value : Option (String × Span)) :
    (value.map fun given => Code.mk given.1 given.2).map Code.unplaced =
      (value.map Prod.fst).map fun text => ⟨text, nowhere⟩ := by
  rw [Option.map_map, Option.map_map]
  rfl

theorem attribute_said (name : String) (value : Option (String × Span)) (span : Span) :
    (Attribute.mk name (value.map fun given => ⟨given.1, given.2⟩) span).unplaced =
      ⟨name, (value.map Prod.fst).map fun text => ⟨text, nowhere⟩, nowhere⟩ := by
  rw [Attribute.unplaced, Option.map_map, Option.map_map]
  rfl

/-- What an attribute says depends on its name and the text of its value. -/
theorem ofSource_moved {value other : Option (String × Span)}
    (same : value.map Prod.fst = other.map Prod.fst) (name : List Char)
    (span otherSpan : Span) :
    (ofSource ⟨name, value, span⟩).unplaced =
      (ofSource ⟨name, other, otherSpan⟩).unplaced := by
  have codes : (value.map fun given => Code.mk given.1 given.2).map Code.unplaced =
      (other.map fun given => Code.mk given.1 given.2).map Code.unplaced := by
    rw [code_said, code_said, same]
  have plain : (Attribute.mk (String.ofList name)
      (value.map fun given => ⟨given.1, given.2⟩) span).unplaced =
      (Attribute.mk (String.ofList name)
        (other.map fun given => ⟨given.1, given.2⟩) otherSpan).unplaced := by
    rw [attribute_said, attribute_said, same]
  unfold ofSource
  dsimp only
  cases boundName? name with
  | some bound => exact ofBinding_moved codes span otherSpan bound
  | none =>
      cases eventName? name with
      | some event => exact ofListener_moved codes span otherSpan event
      | none =>
          cases afterPrefix? ['v', '-'] name with
          | some rest =>
              exact congrArg (fun code =>
                TagItem.directive ⟨_, _, _, code, nowhere⟩) codes
          | none =>
              cases afterPrefix? ['#'] name with
              | some slot =>
                  exact congrArg (fun code =>
                    TagItem.directive ⟨_, _, _, code, nowhere⟩) codes
              | none => exact congrArg TagItem.plain plain

end TagItem

namespace Token

section

variable {first second : Cursor} (same : first.rest = second.rest)
include same

theorem eat_moved (text : List Char) :
    (first.eat text).rest = (second.eat text).rest := by
  rw [Cursor.eat, Cursor.eat, same]
  cases afterPrefix? text second.rest with
  | none => exact same
  | some rest => rfl

theorem skipBlanks_moved : first.skipBlanks.rest = second.skipBlanks.rest := by
  rw [Cursor.rest_skipBlanks, Cursor.rest_skipBlanks, same]

theorem takeUntil_moved (stop : List Char) :
    (first.takeUntil stop).1 = (second.takeUntil stop).1 ∧
      (first.takeUntil stop).2.rest = (second.takeUntil stop).2.rest := by
  rw [Cursor.takeUntil_fst, Cursor.takeUntil_fst, Cursor.rest_takeUntil,
    Cursor.rest_takeUntil, same]
  exact ⟨rfl, rfl⟩

theorem skipTag_moved : (skipTag first).rest = (skipTag second).rest :=
  eat_moved (takeUntil_moved same ['>']).2 ['>']

theorem sees_moved (text : List Char) : first.sees text = second.sees text := by
  rw [Cursor.sees, Cursor.sees, same]

theorem endsAttributes_moved : endsAttributes first = endsAttributes second := by
  rw [endsAttributes, endsAttributes, sees_moved same, sees_moved same, same]

theorem attributeValue_moved :
    (attributeValue first).1.1 = (attributeValue second).1.1 ∧
      (attributeValue first).2.rest = (attributeValue second).2.rest := by
  have quoted (quote : Char) :
      (quotedValue quote first).1.1 = (quotedValue quote second).1.1 ∧
      (quotedValue quote first).2.rest = (quotedValue quote second).2.rest := by
    simp only [quotedValue, Cursor.takeWhile_fst, Cursor.rest_bump,
      Cursor.rest_takeWhile, same, and_self]
  have bare : (bareValue first).1.1 = (bareValue second).1.1 ∧
      (bareValue first).2.rest = (bareValue second).2.rest := by
    simp only [bareValue, Cursor.takeWhile_fst, Cursor.rest_skip, same, and_self]
  unfold attributeValue
  rw [same]
  split
  · exact quoted '"'
  · exact quoted '\''
  · exact bare

theorem valueAfterName_moved :
    (valueAfterName first).1.map Prod.fst = (valueAfterName second).1.map Prod.fst ∧
      (valueAfterName first).2.rest = (valueAfterName second).2.rest := by
  have blanks := skipBlanks_moved same
  have behindSign : first.skipBlanks.bump.skipBlanks.rest =
      second.skipBlanks.bump.skipBlanks.rest := by
    simp only [Cursor.rest_skipBlanks, Cursor.rest_bump, same]
  obtain ⟨value, rest⟩ := attributeValue_moved behindSign
  unfold valueAfterName
  rw [sees_moved blanks]
  split
  · exact ⟨congrArg some value, rest⟩
  · exact ⟨rfl, blanks⟩

end

/-! ## Attributes -/

/-- What the attributes of a start tag say. -/
def itemsSaid (attributes : List SourceAttribute) : List TagItem :=
  attributes.map fun item => (TagItem.ofSource item).unplaced

theorem startTag_said {name : String} {attributes others : List SourceAttribute}
    (same : itemsSaid attributes = itemsSaid others) (selfClosing : Bool) :
    (Token.startTag name attributes selfClosing).saying =
      (Token.startTag name others selfClosing).saying := by
  unfold itemsSaid at same
  rw [saying, saying, StartTag.ofSource_unplaced, StartTag.ofSource_unplaced, same]

theorem attributeAt_moved {first second : Cursor} (same : first.rest = second.rest) :
    (attributeAt first).1.name = (attributeAt second).1.name ∧
      (TagItem.ofSource (attributeAt first).1).unplaced =
        (TagItem.ofSource (attributeAt second).1).unplaced ∧
      (attributeAt first).2.rest = (attributeAt second).2.rest := by
  have blanks := skipBlanks_moved same
  have names : (first.skipBlanks.takeWhile isAttributeChar).1 =
      (second.skipBlanks.takeWhile isAttributeChar).1 :=
    congrArg (List.takeWhile isAttributeChar) blanks
  have behindName : (first.skipBlanks.takeWhile isAttributeChar).2.rest =
      (second.skipBlanks.takeWhile isAttributeChar).2.rest :=
    congrArg (List.dropWhile isAttributeChar) blanks
  obtain ⟨value, behind⟩ := valueAfterName_moved behindName
  refine ⟨names, ?_, behind⟩
  rw [attributeAt, attributeAt]
  dsimp only
  rw [names]
  exact TagItem.ofSource_moved value _ _ _

theorem attributes_moved {first second : Cursor} (same : first.rest = second.rest) :
    itemsSaid (attributes first).1 = itemsSaid (attributes second).1 ∧
      (attributes first).2.rest = (attributes second).2.rest := by
  induction first using attributes_induct generalizing second with
  | ended first ends =>
      have blanks := skipBlanks_moved same
      rw [attributes_of_ends ends,
        attributes_of_ends (endsAttributes_moved blanks ▸ ends)]
      exact ⟨rfl, blanks⟩
  | stray first more empty induction =>
      have blanks := skipBlanks_moved same
      have moreToo : endsAttributes second.skipBlanks = false :=
        endsAttributes_moved blanks ▸ more
      have emptyToo : (attributeAt second).1.name = [] :=
        (attributeAt_moved same).1 ▸ empty
      have behind : first.skipBlanks.bump.rest = second.skipBlanks.bump.rest := by
        rw [Cursor.rest_bump, Cursor.rest_bump, blanks]
      rw [attributes_of_stray more empty, attributes_of_stray moreToo emptyToo]
      exact induction behind
  | named first more nonempty induction =>
      have moreToo : endsAttributes second.skipBlanks = false :=
        endsAttributes_moved (skipBlanks_moved same) ▸ more
      obtain ⟨names, item, behind⟩ := attributeAt_moved same
      have nonemptyToo : (attributeAt second).1.name ≠ [] := names ▸ nonempty
      obtain ⟨others, behindAll⟩ := induction behind
      rw [attributes_of_name more nonempty, attributes_of_name moreToo nonemptyToo]
      exact ⟨congrArg₂ List.cons item others, behindAll⟩

/-! ## Tokens -/

section

variable {first second : Cursor} (same : first.rest = second.rest)
include same

theorem startTagAt_moved : (startTagAt first).1.saying = (startTagAt second).1.saying ∧
    (startTagAt first).2.rest = (startTagAt second).2.rest := by
  have names : (first.takeWhile isTagChar).1 = (second.takeWhile isTagChar).1 :=
    congrArg (List.takeWhile isTagChar) same
  have behindName :
      (first.takeWhile isTagChar).2.rest = (second.takeWhile isTagChar).2.rest :=
    congrArg (List.dropWhile isTagChar) same
  obtain ⟨saysSame, behind⟩ := attributes_moved behindName
  unfold startTagAt
  dsimp only
  rw [sees_moved behind, names]
  split
  · exact ⟨startTag_said saysSame true, by rw [Cursor.rest_skip,
      Cursor.rest_skip, behind]⟩
  · exact ⟨startTag_said saysSame false, eat_moved behind ['>']⟩

theorem tagAt_moved : (tagAt first).1.saying = (tagAt second).1.saying ∧
    (tagAt first).2.rest = (tagAt second).2.rest := by
  have names : (first.takeWhile isTagChar).1 = (second.takeWhile isTagChar).1 :=
    congrArg (List.takeWhile isTagChar) same
  unfold tagAt
  rw [names, same]
  split
  · exact ⟨rfl, same⟩
  · exact startTagAt_moved same

theorem next_moved : (next first).1.saying = (next second).1.saying ∧
    (next first).2.rest = (next second).2.rest := by
  have skips (count : Nat) : (first.skip count).rest = (second.skip count).rest := by
    rw [Cursor.rest_skip, Cursor.rest_skip, same]
  have text : (textAt first).1.saying = (textAt second).1.saying ∧
      (textAt first).2.rest = (textAt second).2.rest := by
    simp only [textAt, saying, Cursor.rest_bump, same, and_self]
  unfold next
  rw [same]
  split
  · exact ⟨by simp only [endTagAt, saying, Cursor.takeWhile_fst, skips],
      skipTag_moved (skips 2)⟩
  · have inner := takeUntil_moved (skips 4) ['-', '-', '>']
    exact ⟨congrArg (fun content =>
      Saying.leaf (.comment (String.ofList content) nowhere)) inner.1,
        eat_moved inner.2 ['-', '-', '>']⟩
  · exact ⟨rfl, skipTag_moved (skips 2)⟩
  · split
    · exact tagAt_moved (skips 1)
    · exact text
  · have inner := takeUntil_moved (skips 2) ['}', '}']
    exact ⟨congrArg (fun content => Saying.leaf
      (.interpolation ⟨trimmed (String.ofList content), nowhere⟩ nowhere)) inner.1,
      eat_moved inner.2 ['}', '}']⟩
  · exact text

end

end Token

/-- The lexemes of a text say the same at every position. -/
theorem lexemes_moved {first second : Cursor} (same : first.rest = second.rest) :
    sayings (lexemes first) = sayings (lexemes second) := by
  induction first using lexemes_induct generalizing second with
  | ended first none =>
      rw [lexemes, dif_pos none, lexemes, dif_pos (same ▸ none)]
  | token first more induction =>
      obtain ⟨saysSame, behind⟩ := Token.next_moved same
      rw [lexemes, dif_neg more, lexemes, dif_neg (same ▸ more)]
      exact congrArg₂ List.cons saysSame (induction behind)

end VuePrecompiler.Template
