import VuePrecompiler.Proofs.ChildItems

/-!
# Parts of render code

A code occurs in another one if it stands in it as a piece of its text.  What
the generator puts together occurs in what it makes of it: children and slots
in the code of an element, a body in a loop, fallback content in an outlet.
-/

namespace VuePrecompiler.Render

open Template Source

/-- A code stands somewhere in another one. -/
def Occurs (part whole : String) : Prop :=
  part.toList <:+: whole.toList

namespace Occurs

variable {part middle whole : String}

theorem refl (code : String) : Occurs code code :=
  List.infix_refl code.toList

theorem trans (near : Occurs part middle) (far : Occurs middle whole) :
    Occurs part whole :=
  List.IsInfix.trans near far

theorem append_right (occurs : Occurs part whole) (after : String) :
    Occurs part (whole ++ after) := by
  rw [Occurs, String.toList_append]
  exact List.IsInfix.trans occurs (List.prefix_append _ _).isInfix

theorem append_left (occurs : Occurs part whole) (before : String) :
    Occurs part (before ++ whole) := by
  rw [Occurs, String.toList_append]
  exact List.IsInfix.trans occurs (List.suffix_append _ _).isInfix

theorem intercalate {items : List String} (separator : String)
    (member : part ∈ items) : Occurs part (separator.intercalate items) := by
  obtain ⟨before, after, rfl⟩ := List.append_of_mem member
  have fromHere : Occurs part (separator.intercalate (part :: after)) := by
    by_cases none_after : after = []
    · rw [none_after, String.intercalate_singleton]
      exact refl part
    · rw [String.intercalate_cons_of_ne_nil none_after]
      exact ((refl part).append_right _).append_right _
  by_cases none_before : before = []
  · rw [none_before]
    exact fromHere
  · rw [String.intercalate_append_of_ne_nil none_before (List.cons_ne_nil _ _)]
    exact fromHere.append_left _

theorem array {items : List String} (member : part ∈ items) :
    Occurs part (array items) :=
  ((intercalate "," member).append_left _).append_right _

theorem object {fields : List String} (member : part ∈ fields) :
    Occurs part (object fields) :=
  ((intercalate "," member).append_left _).append_right _

end Occurs

/-! ## Nodes -/

theorem occurs_loopCode (head : LoopHead) (body : String) :
    Occurs body (loopCode head body) :=
  ((Occurs.refl body).append_left _).append_right _

theorem occurs_outletCode (outlet : Outlet) (fallback : String) :
    Occurs fallback (outletCode outlet (some fallback)) :=
  ((((Occurs.refl fallback).append_left _).append_left _).append_right _).append_right
    _

theorem occurs_slotCode (head : SlotHead) (content : String) :
    Occurs content (slotCode head (some content)) := by
  unfold slotCode
  dsimp only [Option.getD_some]
  split
  · refine Occurs.trans ?_ (Occurs.object (List.mem_cons_of_mem _ List.mem_cons_self))
    exact ((Occurs.refl content).append_left _).append_right _
  · refine Occurs.trans ?_ (Occurs.object (List.mem_cons_of_mem _ List.mem_cons_self))
    exact ((Occurs.refl content).append_left _).append_right _

theorem occurs_scopedSlotsCode (slots : List Slot) {entry : String}
    {entries : List String} (member : entry ∈ entries) :
    Occurs entry (scopedSlotsCode slots entries) :=
  (((Occurs.array member).append_left _).append_right _).append_right _

theorem occurs_elementCode_children (tag : StartTag) (data : Option String)
    (children : String) : Occurs children (elementCode tag data (some children)) := by
  refine ((Occurs.intercalate _ ?_).append_left _).append_right _
  exact List.mem_cons_of_mem _ (List.mem_append_right _ (List.mem_singleton_self _))

theorem occurs_elementCode_data (tag : StartTag) (data : String)
    (children : Option String) :
    Occurs data (elementCode tag (some data) children) := by
  refine ((Occurs.intercalate _ ?_).append_left _).append_right _
  exact List.mem_cons_of_mem _ (List.mem_append_left _ (List.mem_singleton_self _))

theorem occurs_withBoundObject (tag : StartTag) (directive : Directive)
    (data : String) : Occurs data (withBoundObject tag directive data) := by
  have opened : Occurs data ("_b(" ++ data) := (Occurs.refl data).append_left _
  exact (((((((opened.append_right _).append_right _).append_right _).append_right
    _).append_right _).append_right _).append_right _).append_right _

theorem occurs_withListenerObject (directive : Directive) (data : String) :
    Occurs data (withListenerObject directive data) := by
  have opened : Occurs data ("_g(" ++ data) := (Occurs.refl data).append_left _
  exact ((opened.append_right _).append_right _).append_right _

/-- If the data of an element has fields, the object of them stands
in its data object. -/
theorem exists_dataObject_of_ne_nil {tag : StartTag} {inLoop : Bool}
    {scopedSlots : Option String}
    (more : dataFields tag (DirectiveData.ofTag tag) inLoop scopedSlots ≠ []) :
    ∃ data, dataObject? tag inLoop scopedSlots = some data ∧
      Occurs (object (dataFields tag (DirectiveData.ofTag tag) inLoop scopedSlots))
        data := by
  unfold dataObject?
  dsimp only
  rw [List.isEmpty_eq_false_iff.mpr more, Bool.false_and, Bool.false_and,
    if_neg Bool.false_ne_true]
  refine ⟨_, rfl, ?_⟩
  generalize object (dataFields tag (DirectiveData.ofTag tag) inLoop scopedSlots) =
    fields
  have bound :
      Occurs fields ((DirectiveData.ofTag tag).bindObject.elim fields fun directive =>
        withBoundObject tag directive fields) := by
    cases (DirectiveData.ofTag tag).bindObject with
    | none => exact .refl fields
    | some directive => exact occurs_withBoundObject tag directive fields
  cases (DirectiveData.ofTag tag).listenObject with
  | none => exact bound
  | some directive => exact bound.trans (occurs_withListenerObject directive _)

/-- Every field of the data of an element stands in its data object. -/
theorem exists_dataObject_of_field {tag : StartTag} {inLoop : Bool}
    {scopedSlots : Option String} {field : String}
    (given : field ∈ dataFields tag (DirectiveData.ofTag tag) inLoop scopedSlots) :
    ∃ data, dataObject? tag inLoop scopedSlots = some data ∧ Occurs field data := by
  obtain ⟨data, same, inData⟩ := exists_dataObject_of_ne_nil (List.ne_nil_of_mem given)
  exact ⟨data, same, (Occurs.object given).trans inData⟩

theorem exists_dataObject (tag : StartTag) (inLoop : Bool) (scopedSlots : String) :
    ∃ data, dataObject? tag inLoop (some scopedSlots) = some data ∧
      Occurs scopedSlots data := by
  have given : scopedSlots ∈
      dataFields tag (DirectiveData.ofTag tag) inLoop (some scopedSlots) := by
    simp [dataFields]
  exact exists_dataObject_of_field given

/-! ## Children -/

theorem mem_textPieces {run : List Node} {expression : Code} {span : Span}
    (pending : String) (member : .interpolation expression span ∈ run) :
    "_s(" ++ expression.trimmed ++ ")" ∈ textPieces pending run := by
  fun_induction textPieces pending run with
  | case1 => contradiction
  | case2 => contradiction
  | case3 pending content textSpan rest induction =>
      rcases List.mem_cons.mp member with same | later
      · cases same
      · exact induction later
  | case4 pending first firstSpan rest induction =>
      refine List.mem_append_right _ ?_
      rcases List.mem_cons.mp member with same | later
      · cases same
        exact List.mem_cons_self
      · exact List.mem_cons_of_mem _ (induction later)
  | case5 pending node rest notText notInterpolation induction =>
      rcases List.mem_cons.mp member with same | later
      · exact absurd same.symm (notInterpolation _ _)
      · exact induction later

theorem occurs_textCode {run : List Node} {expression : Code} {span : Span}
    (member : .interpolation expression span ∈ run) :
    Occurs ("_s(" ++ expression.trimmed ++ ")") (textCode run) := by
  have piece := mem_textPieces "" member
  have nonempty : (textPieces "" run).isEmpty = false :=
    List.isEmpty_eq_false_iff.mpr (List.ne_nil_of_mem piece)
  unfold textCode
  dsimp only
  rw [nonempty, if_neg Bool.false_ne_true]
  exact ((Occurs.intercalate _ piece).append_left _).append_right _

theorem exists_childrenCode (ofElement : Bool) {children : List (Node × String)}
    {item : ChildItem} (member : item ∈ childItems children) :
    ∃ given, childrenCode? ofElement children = some given ∧
      Occurs item.code given := by
  have shape := childrenCode?_cases ofElement children
  generalize childrenCode? ofElement children = given at shape ⊢
  cases shape with
  | absent noItems =>
      rw [noItems] at member
      contradiction
  | listed =>
      have inItems : item.code ∈ (childItems children).map ChildItem.code :=
        List.mem_map_of_mem member
      exact ⟨_, rfl, (Occurs.array inItems).append_right _⟩
  | loop onlyLoop _ =>
      rw [onlyLoop] at member
      obtain rfl := List.mem_singleton.mp member
      exact ⟨_, rfl, (Occurs.refl _).append_right _⟩

theorem exists_childrenCode_of_node (ofElement : Bool)
    {children : List (Node × String)} {node : Node} {code : String}
    (member : (node, code) ∈ children)
    (visible : node.isInsignificant = false) (notText : isTextual node = false) :
    ∃ given, childrenCode? ofElement children = some given ∧ Occurs code given := by
  obtain ⟨item, inItems, holds⟩ := exists_holds_childItems member visible
  cases holds with
  | textual textual _ =>
      rw [notText] at textual
      contradiction
  | single _ => exact exists_childrenCode ofElement inItems

/-- An interpolation stands in the text that it shares with its neighbours. -/
theorem exists_childrenCode_of_interpolation (ofElement : Bool)
    {children : List (Node × String)} {expression : Code} {span : Span} {code : String}
    (member : (.interpolation expression span, code) ∈ children) :
    ∃ given, childrenCode? ofElement children = some given ∧
      Occurs ("_s(" ++ expression.trimmed ++ ")") given := by
  obtain ⟨item, inItems, holds⟩ := exists_holds_childItems member rfl
  cases holds with
  | @textual nodes _ _ textual inRun =>
      obtain ⟨given, same, occurs⟩ := exists_childrenCode ofElement inItems
      have visible : nodes.all isBlankNode = false :=
        List.all_eq_false.mpr ⟨_, inRun, Bool.false_ne_true⟩
      rw [ChildItem.code, visible, if_neg Bool.false_ne_true] at occurs
      exact ⟨given, same, (occurs_textCode inRun).trans occurs⟩
  | single notText => contradiction

end VuePrecompiler.Render
