import Mathlib.Logic.Relation
import VuePrecompiler.Proofs.AttributeNames
import VuePrecompiler.Proofs.RespelledLexemes

/-!
# Short and long names

A binding, a listener and slot content may be named with a mark or in full.
For bindings and listeners the two spellings mean the same.  For slots they do
if the name is read as a whole: behind `#` it always is, and behind `v-slot:`
what follows a dot or a closing bracket is taken for modifiers.
-/

namespace VuePrecompiler.Template

open Source Text

/-- Nothing behind a dot or a closing bracket is cut off a name. -/
structure IsWhole (name : List Char) : Prop where
  closing : ']' ∉ name.dropLast
  dotted : '.' ∈ name → name.getLast? = some ']'

instance (name : List Char) : Decidable (IsWhole name) :=
  decidable_of_iff (']' ∉ name.dropLast ∧ ('.' ∈ name → name.getLast? = some ']'))
    ⟨fun ⟨closing, dotted⟩ => ⟨closing, dotted⟩,
      fun ⟨closing, dotted⟩ => ⟨closing, dotted⟩⟩

/-- The same name, with a mark and in full. -/
inductive SameName : List Char → List Char → Prop where
  | binding (name : List Char) : SameName (':' :: name) ("v-bind:".toList ++ name)
  | listener (name : List Char) : SameName ('@' :: name) ("v-on:".toList ++ name)
  | slot {name : List Char} :
      IsWhole name → SameName ('#' :: name) ("v-slot:".toList ++ name)

/-- Two templates are the same but for one attribute, whose name is spelled with a
mark in the first and in full in the second. -/
structure RespellsAt (before name other after : List Char) (short long : String) :
    Prop where
  isShort : short.toList = before ++ (name ++ after)
  isLong : long.toList = before ++ (other ++ after)
  sameName : SameName name other
  isName : ∀ c ∈ name, Token.isAttributeChar c = true
  ends : ∀ c ∈ after.head?, Token.isAttributeChar c = false
  /-- The name is not a part of a text, a comment or a value, but
  that of an attribute. -/
  isAttribute : ∃ item ∈ attributesFrom (Cursor.start short), item.span.start =
    byteLength before
  /-- The attribute does not touch the name of its tag. -/
  isApart : ∀ c ∈ before.getLast?, Token.isTagChar c = false

def Respells (short long : String) : Prop :=
  ∃ before name other after, RespellsAt before name other after short long

/-! ## Names -/

theorem insideBrackets?_eq_some {text code : List Char}
    (found : insideBrackets? '[' ']' text = some code) : text = bracketed code := by
  cases text with
  | nil => contradiction
  | cons first rest =>
      rw [insideBrackets?] at found
      split at found
      · next inside =>
        rw [Bool.and_eq_true, decide_eq_true_iff, decide_eq_true_iff] at inside
        obtain ⟨rfl, last⟩ := inside
        obtain rfl := Option.some.inj found
        rw [bracketed, List.dropLast_append_getLast? _ last]
      · contradiction

/-- A name tells its text. -/
theorem Name.ofText_injective : Function.Injective Name.ofText := by
  intro text other same
  unfold Name.ofText at same
  split at same
  · next code inside =>
    split at same
    · next otherCode insideToo =>
      have codes := String.ofList_injective (Name.computed.inj same)
      rw [insideBrackets?_eq_some inside, insideBrackets?_eq_some insideToo, codes]
    · contradiction
  · split at same
    · contradiction
    · exact String.ofList_injective (Name.fixed.inj same)

/-- The argument of a directive and the text of its modifiers. -/
def splitArgument (name : List Char) : List Char × List Char :=
  (splitBehindBracket? name).getD (breakOn ['.'] name)

theorem splitArgument_append (name : List Char) :
    (splitArgument name).1 ++ (splitArgument name).2 = name := by
  rw [splitArgument]
  cases cut : splitBehindBracket? name with
  | none => exact breakOn_append ['.'] name
  | some parts =>
      obtain ⟨⟨before, after⟩, found, rfl⟩ := Option.map_eq_some_iff.mp cut
      rw [Option.getD_some, of_splitOnce?_eq_some found, List.append_assoc]

theorem splitArgument_snd_eq_nil (name : List Char) :
    (splitArgument name).2 = [] ↔ IsWhole name := by
  by_cases closing : ']' ∈ name
  · obtain ⟨before, after, rfl, absent⟩ := List.eq_append_cons_of_mem closing
    have cut : splitArgument (before ++ ']' :: after) = (before ++ [']'], after) := by
      rw [splitArgument, splitBehindBracket?, splitOnce?_char absent]
      rfl
    rw [cut]
    constructor
    · rintro rfl
      exact ⟨by rwa [List.dropLast_concat], fun _ => List.getLast?_concat⟩
    · rintro ⟨inner, _⟩
      by_contra more
      rw [List.dropLast_append_of_ne_nil (List.cons_ne_nil _ _),
        List.dropLast_cons_of_ne_nil more] at inner
      exact inner (List.mem_append_right before List.mem_cons_self)
  · have cut : splitArgument name = breakOn ['.'] name := by
      rw [splitArgument, splitBehindBracket?_of_notMem closing, Option.getD_none]
    have noLast : name.getLast? ≠ some ']' :=
      fun last => closing (List.mem_of_getLast? last)
    rw [cut, breakOn_singleton, List.dropWhile_eq_nil_iff]
    constructor
    · intro noDot
      exact ⟨fun inner => closing (List.dropLast_subset name inner),
        fun dot => absurd (noDot '.' dot) (by decide)⟩
    · rintro ⟨_, dotted⟩ c member
      exact bne_iff_ne.mpr fun same => noLast (dotted (same ▸ member))

namespace TagItem

variable (name : List Char) (value : Option (String × Span)) (span : Span)

theorem ofSource_binding :
    ofSource ⟨':' :: name, value, span⟩ =
      ofSource ⟨"v-bind:".toList ++ name, value, span⟩ := rfl

theorem ofSource_listener :
    ofSource ⟨'@' :: name, value, span⟩ =
      ofSource ⟨"v-on:".toList ++ name, value, span⟩ := rfl

/-- The two spellings of a slot mean the same if the name is a whole. -/
theorem ofSource_slot :
    ofSource ⟨'#' :: name, value, span⟩ =
      ofSource ⟨"v-slot:".toList ++ name, value, span⟩ ↔
      IsWhole name := by
  have isSpelled : (NameMark.directive "slot".toList).IsSpelled :=
    ⟨by decide, by decide, by decide, by decide⟩
  have long := @NameMark.ofSource_text _ isSpelled name nofun value span
  have short : ofSource ⟨'#' :: name, value, span⟩ =
      .directive ⟨"slot", some (Name.ofText name), [],
        value.map fun given => ⟨given.1, given.2⟩, span⟩ := rfl
  have shape :
      "v-slot:".toList ++ name = (NameMark.directive "slot".toList).text ++ name := rfl
  rw [shape, long, short, ← splitArgument_snd_eq_nil]
  constructor
  · intro same
    have bases : some (Name.ofText name) = some (Name.ofText (splitArgument name).1) :=
      congrArg Directive.argument (TagItem.directive.inj same)
    have whole := Name.ofText_injective (Option.some.inj bases)
    have parts := splitArgument_append name
    rw [← whole] at parts
    exact List.append_right_eq_self.mp parts
  · intro nothing
    have whole := splitArgument_append name
    rw [nothing, List.append_nil] at whole
    have split : (NameMark.directive "slot".toList).split name =
        (Name.ofText (splitArgument name).1, modifiersOf (splitArgument name).2) := rfl
    rw [split, nothing, whole]
    rfl

end TagItem

namespace SameName

variable {name other : List Char} (same : SameName name other)
include same

theorem ofSource_eq (value : Option (String × Span)) (span : Span) :
    TagItem.ofSource ⟨name, value, span⟩ = TagItem.ofSource ⟨other, value, span⟩ := by
  cases same with
  | binding name => exact TagItem.ofSource_binding name value span
  | listener name => exact TagItem.ofSource_listener name value span
  | slot whole => exact (TagItem.ofSource_slot _ value span).mpr whole

theorem parts : ∃ mark ∈ [':', '@', '#'], ∃ short long, name = mark :: short ∧
    other = 'v' :: long := by
  cases same with
  | binding name => exact ⟨':', by decide, _, _, rfl, rfl⟩
  | listener name => exact ⟨'@', by decide, _, _, rfl, rfl⟩
  | slot whole => exact ⟨'#', by decide, _, _, rfl, rfl⟩

theorem isName (all : ∀ c ∈ name, Token.isAttributeChar c = true) :
    ∀ c ∈ other, Token.isAttributeChar c = true := by
  have longer {marks base : List Char} {mark : Char}
      (marksAll : marks.all Token.isAttributeChar)
      (baseAll : ∀ c ∈ mark :: base, Token.isAttributeChar c = true) :
      ∀ c ∈ marks ++ base, Token.isAttributeChar c = true := by
    intro c member
    rcases List.mem_append.mp member with inMarks | inBase
    · exact List.all_eq_true.mp marksAll c inMarks
    · exact baseAll c (List.mem_cons_of_mem mark inBase)
  cases same with
  | binding name => exact longer (by decide) all
  | listener name => exact longer (by decide) all
  | slot whole => exact longer (by decide) all

end SameName

/-! ## Templates -/

/-- Two templates that differ in the spelling of one attribute say the same. -/
theorem Respells.sayings {short long : String} (respells : Respells short long) :
    sayings (lexemes (Cursor.start short)) =
      sayings (lexemes (Cursor.start long)) := by
  obtain ⟨before, name, other, after, respells⟩ := respells
  obtain ⟨item, member, here⟩ := respells.isAttribute
  have isName := respells.sameName.isName respells.isName
  obtain ⟨mark, isMark, short, long, rfl, rfl⟩ := respells.sameName.parts
  let respelling : Respelling := {
    place := byteLength before
    mark
    short := short ++ after
    long := long ++ after
    isMark
    sameItem := by
      intro value span
      rw [← List.cons_append, ← List.cons_append,
        takeWhile_append_of_stop respells.isName respells.ends,
        takeWhile_append_of_stop isName respells.ends]
      exact respells.sameName.ofSource_eq value span
    sameRest := by
      rw [← List.cons_append, ← List.cons_append,
        dropWhile_append_of_stop respells.isName respells.ends,
        dropWhile_append_of_stop isName respells.ends] }
  have inFront : respelling.InFront before (Cursor.start _) (Cursor.start _) := {
    restFirst := respells.isShort
    restSecond := respells.isLong
    sameOffset := rfl
    offset_eq := Nat.zero_add _
    isApart := respells.isApart }
  exact inFront.lexemes member here

end VuePrecompiler.Template

namespace VuePrecompiler.Render

open Template Source Text

/-- What a template compiles to, or why it cannot be compiled, whatever the place. -/
def outcome (source : String) : Except (String × String) String :=
  (compile source).mapError fun fault => (fault.code, fault.message)

theorem outcome_of_sayings {first second : String}
    (same : sayings (lexemes (Cursor.start first)) =
      sayings (lexemes (Cursor.start second))) :
    outcome first = outcome second := by
  have unplaced (source : String) : outcome source =
      (unplacedResult id (compile source)).mapError fun fault =>
        (fault.code, fault.message) := by
    rw [outcome]
    cases compile source with
    | ok code => rfl
    | error fault =>
        exact congrArg Except.error
          (congrArg₂ Prod.mk fault.code_unplaced.symm fault.message_unplaced.symm)
  rw [unplaced, unplaced, compile_sayings same]

/-- A short name and its long spelling mean the same, a slot's if and only if it
is read as a whole; and so templates that differ in spellings only compile to the
same render code or fail for the same reason. -/
theorem spellings_agree (name : List Char) (value : Option (String × Span))
    (span : Span) :
    TagItem.ofSource ⟨':' :: name, value, span⟩ =
        TagItem.ofSource ⟨"v-bind:".toList ++ name, value, span⟩ ∧
      TagItem.ofSource ⟨'@' :: name, value, span⟩ =
        TagItem.ofSource ⟨"v-on:".toList ++ name, value, span⟩ ∧
      (TagItem.ofSource ⟨'#' :: name, value, span⟩ =
        TagItem.ofSource ⟨"v-slot:".toList ++ name, value, span⟩ ↔ IsWhole name) ∧
      ∀ first second, Relation.EqvGen Respells first second →
        outcome first = outcome second := by
  refine ⟨TagItem.ofSource_binding name value span,
    TagItem.ofSource_listener name value span,
    TagItem.ofSource_slot name value span, ?_⟩
  intro first second related
  induction related with
  | rel short long respells => exact outcome_of_sayings respells.sayings
  | refl => rfl
  | symm _ _ _ same => exact same.symm
  | trans _ _ _ _ _ near far => exact near.trans far

/-- A listener with a modifier and a slot that code with a dot names. -/
theorem component_spellings :
    let short := "<my-c @done.once=\"f\"><template #[k.x]=\"p\">t</template></my-c>"
    let long :=
      "<my-c v-on:done.once=\"f\"><template v-slot:[k.x]=\"p\">t</template></my-c>"
    let name := "[k.x]".toList
    let value := some ("p", Span.mk 39 40)
    IsWhole name ∧ Relation.EqvGen Respells short long ∧
      TagItem.ofSource ⟨'#' :: name, value, ⟨31, 41⟩⟩ =
        TagItem.ofSource ⟨"v-slot:".toList ++ name, value, ⟨31, 41⟩⟩ ∧
      outcome short = outcome long := by
  intro short long name value
  have whole : IsWhole name := by decide
  let middle := "<my-c v-on:done.once=\"f\"><template #[k.x]=\"p\">t</template></my-c>"
  have listener : Respells short middle := by
    refine ⟨"<my-c ".toList, "@done.once".toList, "v-on:done.once".toList,
      "=\"f\"><template #[k.x]=\"p\">t</template></my-c>".toList, ?_⟩
    exact {
      isShort := by decide
      isLong := by decide
      sameName := .listener "done.once".toList
      isName := List.all_eq_true.mp (by decide)
      ends := by rintro _ ⟨⟩; decide
      isAttribute := by decide +kernel
      isApart := by rintro _ ⟨⟩; decide }
  have slot : Respells middle long := by
    refine ⟨"<my-c v-on:done.once=\"f\"><template ".toList, "#[k.x]".toList,
      "v-slot:[k.x]".toList, "=\"p\">t</template></my-c>".toList, ?_⟩
    exact {
      isShort := by decide
      isLong := by decide
      sameName := .slot whole
      isName := List.all_eq_true.mp (by decide)
      ends := by rintro _ ⟨⟩; decide
      isAttribute := by decide +kernel
      isApart := by rintro _ ⟨⟩; decide }
  have related : Relation.EqvGen Respells short long :=
    .trans _ _ _ (.rel _ _ listener) (.rel _ _ slot)
  obtain ⟨_, _, slots, templates⟩ := spellings_agree name value ⟨31, 41⟩
  exact ⟨whole, related, slots.mpr whole, templates short long related⟩

/-- Behind `v-slot:` a dotted name is cut at the dot. -/
theorem dotted_slot :
    let value : Option (String × Span) := none
    TagItem.ofSource ⟨'#' :: "a.b".toList, value, ⟨16, 26⟩⟩ ≠
        TagItem.ofSource ⟨"v-slot:".toList ++ "a.b".toList, value, ⟨16, 26⟩⟩ ∧
      outcome "<my-c><template #a.b>x</template></my-c>" ≠
        outcome "<my-c><template v-slot:a.b>x</template></my-c>" := by
  decide +kernel

end VuePrecompiler.Render
