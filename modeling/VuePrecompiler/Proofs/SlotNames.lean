import Mathlib.Data.List.Induction
import Mathlib.Data.List.Nodup
import VuePrecompiler.Proofs.Nesting
import VuePrecompiler.Render.Code

/-!
# The slots of a component

Every template for a slot among the children of a component becomes a slot
with its name, its pattern and its content, and the other children stay.  The
names of the slots are told apart by their texts alone: content is refused if
two templates are for one slot, and also if one slot is named by a text and
another by code with the same text.
-/

namespace VuePrecompiler.Template

open Source Text

/-! ## Templates for slots -/

/-- The slot that the argument of a directive names. -/
inductive NamesSlot : Option Name → Name → Prop where
  | unnamed : NamesSlot none (.fixed "default")
  | fixed (name : String) : NamesSlot (some (.fixed name)) (.fixed name)
  | computed (code : String) :
      NamesSlot (some (.computed code)) (.computed (trimmed code))

/-- The pattern for the properties of a slot; blank code is none. -/
inductive GivesPattern : Option Code → Option Pattern → Prop where
  | absent : GivesPattern none none
  | blank {code : Code} : code.isBlank = true → GivesPattern (some code) none
  | given {code : Code} : code.isBlank = false →
      GivesPattern (some code) (some ⟨code.trimmed, code.span⟩)

/-- A node is a template for a slot: its first `v-slot` says which, and its
children are the content. -/
inductive GivesSlot : Node → Slot → Prop where
  | mk {before after : List Directive} {directive : Directive} {name : Name}
      {pattern : Option Pattern} (children : List Node) (span : Span) :
      (∀ other ∈ before, other.name ≠ "slot") → directive.name = "slot" →
      NamesSlot directive.argument name → GivesPattern directive.value pattern →
      GivesSlot (.slotTemplate (before ++ directive :: after) children span)
        (.mk ⟨name, pattern, span⟩ children)

/-- The children of a component are its templates for slots and the others, both
in the order of the source. -/
inductive Collects : List Node → List Slot → List Node → Prop where
  | nil : Collects [] [] []
  | content {node : Node} {slot : Slot} {rest others : List Node} {slots : List Slot} :
      GivesSlot node slot → Collects rest slots others →
        Collects (node :: rest) (slot :: slots) others
  | other {node : Node} {rest others : List Node} {slots : List Slot} :
      (∀ slot, ¬ GivesSlot node slot) → Collects rest slots others →
        Collects (node :: rest) slots (node :: others)

/-- A slot is the first of a list with a name, as text, that one before it has. -/
def IsFirstRepeat (slots : List Slot) (slot : Slot) : Prop :=
  ∃ before after, slots = before ++ slot :: after ∧
    (before.map fun earlier => earlier.head.name.text).Nodup ∧
    slot.head.name.text ∈ before.map fun earlier => earlier.head.name.text

/-! ## Collecting -/

theorem namesSlot_iff {directive : Directive} {name : Name} (span : Span) :
    NamesSlot directive.argument name ↔
      (SlotHead.ofDirective directive span).name = name := by
  rw [SlotHead.ofDirective]
  constructor
  · intro names
    cases argument : directive.argument with
    | none => rw [argument] at names; cases names; rfl
    | some given => rw [argument] at names; cases names <;> rfl
  · rintro rfl
    rcases directive.argument with _ | ⟨_ | _⟩
    · exact .unnamed
    · exact .fixed _
    · exact .computed _

theorem givesPattern_iff {directive : Directive} {pattern : Option Pattern}
    (span : Span) :
    GivesPattern directive.value pattern ↔
      (SlotHead.ofDirective directive span).props = pattern := by
  rw [SlotHead.ofDirective]
  cases directive.value with
  | none => 
      constructor
      · rintro ⟨⟩
        rfl
      · rintro rfl
        exact .absent
  | some code =>
      constructor
      · intro gives
        cases gives with
        | blank isBlank => simp only [isBlank, ↓reduceIte]
        | given visible => simp only [visible, Bool.false_eq_true, ↓reduceIte]
      · rintro rfl
        dsimp only
        split
        · next isBlank => exact .blank isBlank
        · next visible => exact .given (Bool.eq_false_iff.mpr visible)

theorem givesSlot_iff {node : Node} {slot : Slot} :
    GivesSlot node slot ↔ node.slot? = some slot := by
  constructor
  · intro gives
    cases gives with
    | @mk before after directive name pattern children span others here names shows =>
        have found : (before ++ directive :: after).find? (·.name == "slot") =
            some directive := by
          refine List.find?_eq_some_iff_append.mpr ⟨beq_iff_eq.mpr here, before,
            after, rfl, ?_⟩
          intro other member
          simpa using others other member
        rw [Node.slot?, found, Option.map_some, ← (namesSlot_iff span).mp names,
          ← (givesPattern_iff span).mp shows]
        rfl
  · intro gives
    cases node with
    | slotTemplate directives children span =>
        obtain ⟨directive, found, rfl⟩ := Option.map_eq_some_iff.mp gives
        obtain ⟨here, before, after, rfl, others⟩ :=
          List.find?_eq_some_iff_append.mp found
        refine .mk children span ?_ (beq_iff_eq.mp here) ((namesSlot_iff span).mpr rfl)
          ((givesPattern_iff span).mpr rfl)
        intro other member
        simpa using others other member
    | _ => contradiction

theorem collects_partition (children : List Node) :
    Collects children (children.filterMap Node.slot?)
      (children.filter fun child => child.slot?.isNone) := by
  induction children with
  | nil => exact .nil
  | cons node rest induction =>
      cases gives : node.slot? with
      | some slot =>
          rw [List.filterMap_cons_some gives,
            List.filter_cons_of_neg (by simp [gives])]
          exact .content (givesSlot_iff.mpr gives) induction
      | none =>
          rw [List.filterMap_cons_none gives,
            List.filter_cons_of_pos (by simp [gives])]
          refine .other (fun slot isContent => ?_) induction
          rw [givesSlot_iff, gives] at isContent
          contradiction

/-! ## Repeated names -/

section

variable {slots : List Slot} {taken : List String}

theorem duplicateSlot?_cons_taken {slot : Slot}
    (repeated : slot.head.name.text ∈ taken) :
    duplicateSlot? taken (slot :: slots) =
      some (.invalidSlot (.duplicate slot.head.name.text) slot.head.span) := by
  rw [duplicateSlot?, if_pos (List.contains_iff_mem.mpr repeated)]

theorem duplicateSlot?_cons_new {slot : Slot} (new : slot.head.name.text ∉ taken) :
    duplicateSlot? taken (slot :: slots) =
      duplicateSlot? (slot.head.name.text :: taken) slots := by
  rw [duplicateSlot?, if_neg (mt List.contains_iff_mem.mp new)]

/-- The search goes on with the names of the slots it has passed. -/
theorem duplicateSlot?_append {before : List Slot}
    (distinct : (before.map fun slot => slot.head.name.text).Nodup)
    (new : ∀ slot ∈ before, slot.head.name.text ∉ taken) :
    duplicateSlot? taken (before ++ slots) =
      duplicateSlot? ((before.map fun slot => slot.head.name.text).reverse ++ taken)
        slots := by
  induction before generalizing taken with
  | nil => rfl
  | cons slot before induction =>
      rw [List.map_cons, List.nodup_cons] at distinct
      rw [List.cons_append, duplicateSlot?_cons_new (new slot List.mem_cons_self),
        induction distinct.2]
      · simp
      · intro other member
        rw [List.mem_cons, not_or]
        refine ⟨fun same => distinct.1 ?_,
          new other (List.mem_cons_of_mem slot member)⟩
        exact List.mem_map.mpr ⟨other, member, same⟩

end

theorem duplicateSlot?_of_isFirstRepeat {slots : List Slot} {slot : Slot}
    (repeats : IsFirstRepeat slots slot) :
    duplicateSlot? [] slots =
      some (.invalidSlot (.duplicate slot.head.name.text) slot.head.span) := by
  obtain ⟨before, after, rfl, distinct, repeated⟩ := repeats
  rw [duplicateSlot?_append distinct fun _ _ => List.not_mem_nil, List.append_nil]
  exact duplicateSlot?_cons_taken (List.mem_reverse.mpr repeated)

theorem duplicateSlot?_of_nodup {slots : List Slot}
    (distinct : (slots.map fun slot => slot.head.name.text).Nodup) :
    duplicateSlot? [] slots = none := by
  have passed :=
    @duplicateSlot?_append [] [] slots distinct fun _ _ => List.not_mem_nil
  rw [List.append_nil] at passed
  rw [passed, duplicateSlot?]

theorem exists_isFirstRepeat {slots : List Slot}
    (repeated : ¬ (slots.map fun slot => slot.head.name.text).Nodup) :
    ∃ slot, IsFirstRepeat slots slot := by
  induction slots using List.reverseRecOn with
  | nil => exact absurd List.nodup_nil repeated
  | append_singleton slots slot induction =>
      by_cases distinct : (slots.map fun slot => slot.head.name.text).Nodup
      · refine ⟨slot, slots, [], rfl, distinct, ?_⟩
        by_contra new
        refine repeated ?_
        rw [List.map_append, List.map_singleton]
        exact distinct.append (List.nodup_singleton _)
          (List.disjoint_singleton.mpr new)
      · obtain ⟨first, before, after, rfl, found⟩ := induction distinct
        exact ⟨first, before, after ++ [slot], by simp, found⟩

/-- Names have different texts if they are different, and no text names one slot
by itself and another one as code. -/
theorem nodup_texts_iff (names : List Name) :
    (names.map Name.text).Nodup ↔
      names.Nodup ∧ ¬ ∃ text, Name.fixed text ∈ names ∧
        Name.computed text ∈ names := by
  constructor
  · intro distinct
    refine ⟨List.Nodup.of_map _ distinct, ?_⟩
    rintro ⟨text, fixed, computed⟩
    have same := List.inj_on_of_nodup_map distinct fixed computed rfl
    contradiction
  · rintro ⟨distinct, apart⟩
    refine (List.nodup_map_iff_inj_on distinct).mpr ?_
    intro first inFirst second inSecond same
    cases first with
    | fixed text =>
        cases second with
        | fixed other => exact congrArg Name.fixed same
        | computed other =>
            obtain rfl : text = other := same
            exact absurd ⟨text, inFirst, inSecond⟩ apart
    | computed text =>
        cases second with
        | fixed other =>
            obtain rfl : text = other := same
            exact absurd ⟨text, inSecond, inFirst⟩ apart
        | computed other => exact congrArg Name.computed same

/-! ## The slots of a component -/

/-- The slot content of a component without `v-slot` of its own.  Every template
gives its slot and the other children stay.  Content is refused if and only if two
templates are for the same slot, or one for a named slot and one for a computed
one with the same text; the fault names the first template whose name is taken. -/
theorem collectSlots_faithful {tag : StartTag} (free : tag.hasDirective "slot" = false)
    (children : List Node) (span : Span) :
    let collected := collectSlots tag children span
    let names := collected.slots.map fun slot => slot.head.name
    collected.tag = tag ∧ Collects children collected.slots collected.children ∧
      ((slotFault? tag children).isSome ↔
        ¬ names.Nodup ∨ ∃ text, .fixed text ∈ names ∧ .computed text ∈ names) ∧
      ∀ fault, slotFault? tag children = some fault →
        ∃ slot, IsFirstRepeat collected.slots slot ∧
          fault = .invalidSlot (.duplicate slot.head.name.text) slot.head.span := by
  intro collected names
  have taken : tag.takeDirective? "slot" = (none, tag) := by
    refine Prod.ext ?_ (StartTag.takeDirective?_of_absent free)
    have absent := StartTag.isSome_directive? tag "slot"
    rw [free] at absent
    exact Option.isSome_eq_false_iff.mp absent |> Option.isNone_iff_eq_none.mp
  have parts : collected = ⟨tag, children.filterMap Node.slot?,
      children.filter fun child => child.slot?.isNone⟩ := by
    simp only [collected, collectSlots, taken]
  have checked : slotFault? tag children = duplicateSlot? [] collected.slots := by
    rw [slotFault?, taken, parts, Option.or_none]
  have texts : (names.map Name.text).Nodup ↔
      (collected.slots.map fun slot => slot.head.name.text).Nodup := by
    rw [List.map_map]
    rfl
  refine ⟨congrArg CollectedSlots.tag parts, ?_, ?_, ?_⟩
  · rw [parts]
    exact collects_partition children
  · rw [checked, ← not_iff_not, not_or, not_not, ← nodup_texts_iff, texts,
      Option.not_isSome_iff_eq_none]
    constructor
    · intro passes
      by_contra repeated
      obtain ⟨slot, repeats⟩ := exists_isFirstRepeat repeated
      rw [duplicateSlot?_of_isFirstRepeat repeats] at passes
      contradiction
    · exact duplicateSlot?_of_nodup
  · intro fault found
    rw [checked] at found
    by_cases distinct : (collected.slots.map fun slot => slot.head.name.text).Nodup
    · rw [duplicateSlot?_of_nodup distinct] at found
      contradiction
    · obtain ⟨slot, repeats⟩ := exists_isFirstRepeat distinct
      rw [duplicateSlot?_of_isFirstRepeat repeats] at found
      exact ⟨slot, repeats, (Option.some.inj found).symm⟩

/-- A text stays beside a template for a slot named by code and one for
the default slot. -/
theorem list_collects :
    let tag : StartTag := ⟨"my-list", true, [], [], [], []⟩
    let template (argument : Option Name) (value : Option Code) (span : Span) : Node :=
      .slotTemplate [⟨"slot", argument, [], value, span⟩] [] span
    let text : Node := .text "x" ⟨60, 61⟩
    tag.hasDirective "slot" = false ∧
      Collects [template (some (.computed " a ")) (some ⟨" item ", ⟨30, 36⟩⟩) ⟨9, 60⟩,
          text, template none none ⟨61, 91⟩]
        [.mk ⟨.computed "a", some ⟨"item", ⟨30, 36⟩⟩, ⟨9, 60⟩⟩ [],
          .mk ⟨.fixed "default", none, ⟨61, 91⟩⟩ []] [text] := by
  intro tag template text
  have free : tag.hasDirective "slot" = false := by decide
  exact ⟨free, (collectSlots_faithful free _ ⟨0, 101⟩).2.1⟩

/-- A slot named `x` and one named by the variable `x` are different, and refused. -/
theorem fixed_beside_computed :
    let source := "<my-c><template #x>1</template><template #[x]>2</template></my-c>"
    let names := [Name.fixed "x", Name.computed "x"]
    names.Nodup ∧
      Render.compile source = .error (.invalidSlot (.duplicate "x") ⟨31, 58⟩) := by
  decide +kernel

end VuePrecompiler.Template
