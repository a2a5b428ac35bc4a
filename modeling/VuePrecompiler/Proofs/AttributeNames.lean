import VuePrecompiler.Proofs.Segments
import VuePrecompiler.Proofs.Separators
import VuePrecompiler.Template.StartTag

/-!
# The parts of attribute names

The name of a binding, a listener or a directive is a mark, a base and dotted
modifiers; the base is a word, or code in brackets.  A base in brackets is cut
behind the first closing bracket and any other at the first dot.  So the parts
are what was written, unless the code in brackets holds a closing bracket.
-/

namespace VuePrecompiler.Template

open Source Text

/-! ## Written names -/

/-- Modifiers as a name spells them. -/
def dotted (modifiers : List (List Char)) : List Char :=
  modifiers.flatMap ('.' :: ·)

/-- Code in brackets, as a name spells it. -/
def bracketed (code : List Char) : List Char :=
  '[' :: (code ++ [']'])

/-- A word of a name: no character in it ends a part of the name. -/
structure IsWord (word : List Char) : Prop where
  noDot : '.' ∉ word
  noOpening : '[' ∉ word
  noClosing : ']' ∉ word

instance (word : List Char) : Decidable (IsWord word) :=
  decidable_of_iff ('.' ∉ word ∧ '[' ∉ word ∧ ']' ∉ word)
    ⟨fun ⟨dot, opening, closing⟩ => ⟨dot, opening, closing⟩,
      fun ⟨dot, opening, closing⟩ => ⟨dot, opening, closing⟩⟩

/-- The modifiers of a name are words that are not empty. -/
structure AreModifiers (modifiers : List (List Char)) : Prop where
  words : ∀ modifier ∈ modifiers, IsWord modifier
  nonempty : ∀ modifier ∈ modifiers, modifier ≠ []

theorem AreModifiers.of_cons {modifier : List Char} {modifiers : List (List Char)}
    (are : AreModifiers (modifier :: modifiers)) : AreModifiers modifiers where
  words := fun other member => are.words other (List.mem_cons_of_mem _ member)
  nonempty := fun other member => are.nonempty other (List.mem_cons_of_mem _ member)

theorem AreModifiers.notMem_dotted {modifiers : List (List Char)}
    (are : AreModifiers modifiers) : ']' ∉ dotted modifiers := by
  intro closing
  obtain ⟨modifier, member, closing⟩ := List.mem_flatMap.mp closing
  rcases List.mem_cons.mp closing with same | closing
  · contradiction
  · exact (are.words modifier member).noClosing closing

/-- What introduces a name: the mark of a binding or a listener, or the
name of a directive. -/
inductive NameMark where
  | binding
  | listener
  | directive (name : List Char)

namespace NameMark

def text : NameMark → List Char
  | .binding => [':']
  | .listener => ['@']
  | .directive name => 'v' :: '-' :: (name ++ [':'])

/-- What introduces the name of a directive does not end it, and is no long
spelling of the other two marks. -/
def IsSpelled : NameMark → Prop
  | .binding => True
  | .listener => True
  | .directive name => IsWord name ∧ ':' ∉ name ∧ name ≠ "bind".toList ∧
      name ≠ "on".toList

/-- The item that a mark makes of a base, modifiers and a value. -/
def item (mark : NameMark) (name : Name) (modifiers : List String)
    (value : Option Code) (span : Span) : TagItem :=
  match mark with
  | .binding =>
    value.elim .nothing fun value => .binding ⟨name, value, modifiers, span⟩
  | .listener => .listener ⟨name, value.getD ⟨"", span⟩, modifiers, span⟩
  | .directive own => .directive ⟨String.ofList own, some name, modifiers, value, span⟩

/-- How the base and the modifiers behind a mark are told apart. -/
def split (mark : NameMark) (name : List Char) : Name × List String :=
  match mark with
  | .binding => splitBindingName name
  | .listener => splitListenerName name
  | .directive _ =>
    let (base, after) := (splitBehindBracket? name).getD (breakOn ['.'] name)
    (Name.ofText base, modifiersOf after)

end NameMark

/-! ## Modifiers -/

theorem splitOnChar_dotted {word : List Char} (noDot : '.' ∉ word)
    {modifiers : List (List Char)} (are : AreModifiers modifiers) :
    splitOnChar '.' (word ++ dotted modifiers) = word :: modifiers := by
  induction modifiers generalizing word with
  | nil =>
      rw [dotted, List.flatMap_nil, List.append_nil]
      exact splitOnChar_of_notMem noDot
  | cons modifier modifiers induction =>
      have later := induction (are.words modifier List.mem_cons_self).noDot are.of_cons
      have shape :
          dotted (modifier :: modifiers) = '.' :: (modifier ++ dotted modifiers) := rfl
      rw [shape, splitOnChar_append, splitOnChar_of_notMem noDot, later,
        List.singleton_append]

/-- Dotted modifiers are read as they were written. -/
theorem modifiersOf_dotted {modifiers : List (List Char)}
    (are : AreModifiers modifiers) :
    modifiersOf (dotted modifiers) = modifiers.map String.ofList := by
  have stretches : splitOnChar '.' (dotted modifiers) = [] :: modifiers :=
    splitOnChar_dotted List.not_mem_nil are
  have kept : modifiers.filter (· ≠ []) = modifiers :=
    List.filter_eq_self.mpr fun modifier member =>
      decide_eq_true (are.nonempty modifier member)
  rw [modifiersOf, stretches, List.filter_cons_of_neg (by decide), kept]

theorem modifiersOf_dot (text : List Char) :
    modifiersOf ('.' :: text) = modifiersOf text := by
  rw [modifiersOf, splitOnChar_cons_self, List.filter_cons_of_neg (by decide),
    modifiersOf]

/-! ## Bases -/

theorem ofText_bracketed (code : List Char) :
    Name.ofText (bracketed code) = .computed (String.ofList code) := by
  have inside : insideBrackets? '[' ']' (bracketed code) = some code := by
    simp [bracketed, insideBrackets?]
  rw [Name.ofText, inside]

theorem ofText_word {word : List Char} (isWord : IsWord word) :
    Name.ofText word = .fixed (String.ofList word) := by
  have outside : insideBrackets? '[' ']' word = none := by
    cases word with
    | nil => rfl
    | cons first rest =>
        have other : first ≠ '[' :=
          fun same => isWord.noOpening (same ▸ List.mem_cons_self)
        rw [insideBrackets?, decide_eq_false other, Bool.false_and,
          if_neg Bool.false_ne_true]
  rw [Name.ofText, outside]

theorem splitBehindBracket?_append {front : List Char} (plain : ']' ∉ front)
    (name : List Char) :
    splitBehindBracket? (front ++ name) =
      (splitBehindBracket? name).map fun (before, after) =>
        (front ++ before, after) := by
  rw [splitBehindBracket?, splitBehindBracket?, splitOnce?_char_append plain,
    Option.map_map, Option.map_map]
  congr 1
  funext parts
  simp

theorem splitBehindBracket?_bracketed {code : List Char} (closed : ']' ∉ code)
    (after : List Char) :
    splitBehindBracket? (bracketed code ++ after) = some (bracketed code, after) := by
  have absent : ']' ∉ '[' :: code := by
    rw [List.mem_cons, not_or]
    exact ⟨by decide, closed⟩
  have shape : bracketed code ++ after = ('[' :: code) ++ ']' :: after := by
    simp [bracketed]
  rw [splitBehindBracket?, shape, splitOnce?_char absent]
  rfl

theorem splitBehindBracket?_of_notMem {name : List Char} (absent : ']' ∉ name) :
    splitBehindBracket? name = none := by
  rw [splitBehindBracket?, splitOnce?_of_notMem absent, Option.map_none]

theorem splitBindingName_of_head {name : List Char}
    (noBracket : name.head? ≠ some '[') :
    splitBindingName name = splitBindingName.plain name := by
  unfold splitBindingName
  split
  · exact absurd rfl noBracket
  · rfl

namespace NameMark

/-- A base in brackets ends at the first closing bracket. -/
theorem split_bracketed (mark : NameMark) {code : List Char} (closed : ']' ∉ code)
    (after : List Char) :
    mark.split (bracketed code ++ after) =
      (.computed (String.ofList code), modifiersOf after) := by
  have cut := splitBehindBracket?_bracketed closed after
  cases mark with
  | binding =>
      have shape : bracketed code ++ after = '[' :: (code ++ ']' :: after) := by
        simp [bracketed]
      rw [split, shape, splitBindingName, splitOnce?_char closed]
  | listener =>
      have opens : (bracketed code ++ after).head? = some '[' := rfl
      rw [split, splitListenerName, if_pos opens, cut]
      dsimp only
      rw [ofText_bracketed]
  | directive name =>
      rw [split, cut]
      dsimp only [Option.getD_some]
      rw [ofText_bracketed]

/-- A word ends at the first dot. -/
theorem split_word (mark : NameMark) {word : List Char} (isWord : IsWord word)
    {modifiers : List (List Char)} (are : AreModifiers modifiers) :
    mark.split (word ++ dotted modifiers) =
      (.fixed (String.ofList word), modifiers.map String.ofList) := by
  have absent : ']' ∉ word ++ dotted modifiers := by
    rw [List.mem_append, not_or]
    exact ⟨isWord.noClosing, are.notMem_dotted⟩
  have unbracketed := splitBehindBracket?_of_notMem absent
  have cut : breakOn ['.'] (word ++ dotted modifiers) = (word, dotted modifiers) := by
    have here : breakOn ['.'] (dotted modifiers) = ([], dotted modifiers) := by
      cases modifiers <;> rfl
    rw [breakOn_char_append isWord.noDot, here, List.append_nil]
  cases mark with
  | binding =>
      rw [split, splitBindingName_of_head, splitBindingName.plain]
      · cases modifiers with
        | nil =>
            rw [dotted, List.flatMap_nil, List.append_nil,
              splitOnce?_of_notMem isWord.noDot]
            rfl
        | cons modifier modifiers =>
            have shape : dotted (modifier :: modifiers) =
                '.' :: (modifier ++ dotted modifiers) :=
              rfl
            rw [shape, splitOnce?_char isWord.noDot]
            dsimp only
            rw [← modifiersOf_dot, ← shape, modifiersOf_dotted are]
      · cases word with
        | nil => cases modifiers <;> simp [dotted]
        | cons first rest =>
            intro opens
            obtain rfl := Option.some.inj opens
            exact isWord.noOpening List.mem_cons_self
  | listener =>
      rw [split, splitListenerName, unbracketed, ite_self, cut]
      dsimp only
      rw [ofText_word isWord, modifiersOf_dotted are]
  | directive name =>
      rw [split, unbracketed, Option.getD_none, cut]
      dsimp only
      rw [ofText_word isWord, modifiersOf_dotted are]

/-! ## Items -/

theorem splitDirectiveName_append {directive : List Char} (isWord : IsWord directive)
    (noColon : ':' ∉ directive) (name : List Char) :
    splitDirectiveName (directive ++ ':' :: name) =
      (String.ofList directive, some ((NameMark.directive directive).split name).1,
        ((NameMark.directive directive).split name).2) := by
  have shape : directive ++ ':' :: name = (directive ++ [':']) ++ name := by simp
  have noClosing : ']' ∉ directive ++ [':'] := by simp [isWord.noClosing]
  have noDot : '.' ∉ directive ++ [':'] := by simp [isWord.noDot]
  have cut : (splitBehindBracket? (directive ++ ':' :: name)).getD
      (breakOn ['.'] (directive ++ ':' :: name)) =
        (directive ++ ':' :: ((splitBehindBracket? name).getD (breakOn ['.'] name)).1,
          ((splitBehindBracket? name).getD (breakOn ['.'] name)).2) := by
    rw [shape, splitBehindBracket?_append noClosing, breakOn_char_append noDot]
    cases splitBehindBracket? name <;> simp
  rw [splitDirectiveName, cut]
  dsimp only
  rw [splitOnce?_char noColon]
  rfl

theorem ofBinding_of_head {name : List Char} (noDot : name.head? ≠ some '.')
    (value : Option Code) (span : Span) :
    TagItem.ofBinding name value span =
      NameMark.binding.item (splitBindingName name).1 (splitBindingName name).2
        value span := by
  cases name with
  | nil => cases value <;> rfl
  | cons first rest =>
      have other : first ≠ '.' := fun same => noDot (same ▸ rfl)
      cases value <;> simp [TagItem.ofBinding, item, other]

/-- A directive of another name does not start with a key. -/
theorem afterPrefix?_of_ne {key own : List Char} (noColonInKey : ':' ∉ key)
    (noColon : ':' ∉ own) (other : own ≠ key) (name : List Char) :
    afterPrefix? (key ++ [':']) (own ++ ':' :: name) = none := by
  refine afterPrefix?_eq_none ?_
  rintro ⟨rest, same⟩
  rw [List.append_assoc, List.singleton_append] at same
  have parts := splitOnce?_char noColon name
  rw [← same, splitOnce?_char noColonInKey] at parts
  exact other (Prod.mk.inj (Option.some.inj parts)).1.symm

/-- A name behind a mark becomes the item of that mark. -/
theorem ofSource_text {mark : NameMark} (isSpelled : mark.IsSpelled) {name : List Char}
    (noDot : mark = .binding → name.head? ≠ some '.') (value : Option (String × Span))
    (span : Span) :
    TagItem.ofSource ⟨mark.text ++ name, value, span⟩ =
      mark.item (mark.split name).1 (mark.split name).2
        (value.map fun (text, span) => ⟨text, span⟩) span := by
  cases mark with
  | binding =>
      have bound : TagItem.boundName? (text .binding ++ name) = some name := rfl
      rw [TagItem.ofSource, bound]
      dsimp only
      rw [ofBinding_of_head (noDot rfl)]
      rfl
  | listener =>
      have unbound : TagItem.boundName? (text .listener ++ name) = none := rfl
      have event : TagItem.eventName? (text .listener ++ name) = some name := rfl
      rw [TagItem.ofSource, unbound, event]
      rfl
  | directive own =>
      obtain ⟨isWord, noColon, notBind, notOn⟩ := isSpelled
      have shape : (NameMark.directive own).text ++ name =
          'v' :: '-' :: (own ++ ':' :: name) := by
        simp [text]
      have unbound :
          TagItem.boundName? ('v' :: '-' :: (own ++ ':' :: name)) = none := by
        have other :=
          @afterPrefix?_of_ne "bind".toList own (by decide) noColon notBind name
        exact congrArg (Option.or · none) other
      have noEvent :
          TagItem.eventName? ('v' :: '-' :: (own ++ ':' :: name)) = none := by
        have other :=
          @afterPrefix?_of_ne "on".toList own (by decide) noColon notOn name
        exact congrArg (Option.or · none) other
      have rest : afterPrefix? ['v', '-'] ('v' :: '-' :: (own ++ ':' :: name)) =
          some (own ++ ':' :: name) := rfl
      rw [TagItem.ofSource, shape, unbound, noEvent, rest]
      dsimp only
      rw [splitDirectiveName_append isWord noColon]
      rfl

/-- An item tells the base of its name. -/
theorem item_base {mark : NameMark} {name other : Name}
    {modifiers others : List String} {value : Option Code} {span : Span}
    (valued : mark = .binding → value.isSome)
    (same : mark.item name modifiers value span = mark.item other others value span) :
    name = other := by
  cases mark with
  | binding =>
      obtain ⟨code, rfl⟩ := Option.isSome_iff_exists.mp (valued rfl)
      exact congrArg Binding.name (TagItem.binding.inj same)
  | listener => exact congrArg Listener.name (TagItem.listener.inj same)
  | directive own =>
      exact Option.some.inj (congrArg Directive.argument (TagItem.directive.inj same))

/-- The parts of a name are read back: code in brackets with its modifiers, as far
as no closing bracket stands in the code, and a word with its modifiers always.
Code in which brackets are balanced is cut short as well if there are any. -/
theorem ofSource_parts {mark : NameMark} (isSpelled : mark.IsSpelled)
    {modifiers : List (List Char)} (are : AreModifiers modifiers)
    {value : Option (String × Span)} (valued : mark = .binding → value.isSome)
    (span : Span) :
    let item (name : Name) := mark.item name (modifiers.map String.ofList)
      (value.map fun (text, span) => ⟨text, span⟩) span
    (∀ code, TagItem.ofSource
        ⟨mark.text ++ (bracketed code ++ dotted modifiers), value, span⟩ =
        item (.computed (String.ofList code)) ↔ ']' ∉ code) ∧
      ∀ word, IsWord word → (mark = .binding → modifiers ≠ [] → word ≠ []) →
        TagItem.ofSource ⟨mark.text ++ (word ++ dotted modifiers), value, span⟩ =
          item (.fixed (String.ofList word)) := by
  intro item
  have brackets (code after : List Char) (closed : ']' ∉ code) :
      TagItem.ofSource ⟨mark.text ++ (bracketed code ++ after), value, span⟩ =
        mark.item (.computed (String.ofList code)) (modifiersOf after)
          (value.map fun (text, span) => ⟨text, span⟩) span := by
    have noDot : (bracketed code ++ after).head? ≠ some '.' := by simp [bracketed]
    rw [ofSource_text isSpelled fun _ => noDot, mark.split_bracketed closed after]
  constructor
  · intro code
    constructor
    · intro whole closing
      obtain ⟨before, rest, rfl, closed⟩ := List.eq_append_cons_of_mem closing
      have shape : bracketed (before ++ ']' :: rest) ++ dotted modifiers =
          bracketed before ++ (rest ++ ']' :: dotted modifiers) := by simp [bracketed]
      rw [shape, brackets before _ closed] at whole
      have shorter := item_base (by simpa using valued) whole
      have same :=
        congrArg List.length (String.ofList_injective (Name.computed.inj shorter))
      rw [List.length_append, List.length_cons] at same
      omega
    · intro closed
      rw [brackets code _ closed, modifiersOf_dotted are]
  · intro word isWord named
    have noDot : mark = .binding → (word ++ dotted modifiers).head? ≠ some '.' := by
      intro isBinding
      cases word with
      | nil =>
          cases modifiers with
          | nil => simp [dotted]
          | cons first rest =>
              exact absurd rfl (named isBinding (List.cons_ne_nil first rest))
      | cons first rest =>
          intro dot
          obtain rfl := Option.some.inj dot
          exact isWord.noDot List.mem_cons_self
    rw [ofSource_text isSpelled noDot, mark.split_word isWord are]

/-- A directive with a dotted expression as its argument and two modifiers. -/
theorem directive_parts :
    let mark := NameMark.directive "tip".toList
    let modifiers := ["top".toList, "slow".toList]
    let value := some ("text", Span.mk 25 29)
    mark.IsSpelled ∧ AreModifiers modifiers ∧ ']' ∉ "a.b".toList ∧
      TagItem.ofSource ⟨"v-tip:[a.b].top.slow".toList, value, ⟨3, 30⟩⟩ =
        .directive ⟨"tip", some (.computed "a.b"), ["top", "slow"],
          some ⟨"text", ⟨25, 29⟩⟩, ⟨3, 30⟩⟩ := by
  intro mark modifiers value
  have isSpelled : mark.IsSpelled := ⟨by decide, by decide, by decide, by decide⟩
  have are : AreModifiers modifiers := ⟨by decide, by decide⟩
  have closed : ']' ∉ "a.b".toList := by decide
  have parts := @ofSource_parts mark isSpelled modifiers are value nofun ⟨3, 30⟩
  exact ⟨isSpelled, are, closed, (parts.1 "a.b".toList).mpr closed⟩

/-- Code with an index is cut at the bracket of the index. -/
theorem index_cut :
    let item (name : Name) (modifiers : List String) : TagItem :=
      .binding ⟨name, ⟨"b", ⟨16, 17⟩⟩, modifiers, ⟨3, 18⟩⟩
    let source : SourceAttribute :=
      ⟨":[a[0]].sync".toList, some ("b", ⟨16, 17⟩), ⟨3, 18⟩⟩
    TagItem.ofSource source = item (.computed "a[0") ["]", "sync"] ∧
      TagItem.ofSource source ≠ item (.computed "a[0]") ["sync"] := by
  decide

end NameMark

end VuePrecompiler.Template
