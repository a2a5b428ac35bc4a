import VuePrecompiler.Proofs.ChangedCode
import VuePrecompiler.Proofs.Unplaced

/-!
# Render code without places

No place leaves a trace in the render code: a template without its places has
the same render code, and fails for the same reason.
-/

namespace VuePrecompiler.Template

open Source

/-! ## What is read of the parts of a tag -/

@[simp] theorem Code.content_unplaced (code : Code) :
    code.unplaced.content = code.content := rfl

@[simp] theorem Code.trimmed_unplaced (code : Code) :
    code.unplaced.trimmed = code.trimmed := rfl

@[simp] theorem Code.isBlank_unplaced (code : Code) :
    code.unplaced.isBlank = code.isBlank := rfl

@[simp] theorem Binding.value_unplaced (item : Binding) :
    item.unplaced.value = item.value.unplaced := rfl

@[simp] theorem Attribute.name_unplaced (item : Attribute) :
    item.unplaced.name = item.name := rfl

theorem Attribute.valueText_unplaced (item : Attribute) :
    item.unplaced.value.map AttributeValue.text =
      item.value.map AttributeValue.text := by
  rw [unplaced, Option.map_map]
  rfl

@[simp] theorem Attribute.text_unplaced (item : Attribute) :
    item.unplaced.text = item.text := by
  rcases item with ⟨name, _ | value, span⟩ <;> rfl

end VuePrecompiler.Template

namespace VuePrecompiler.Render

open Template Source

section

variable (tag : StartTag)

theorem computedTag?_unplaced : computedTag? tag.unplaced = computedTag? tag := by
  have name : tag.unplaced.name = tag.name := rfl
  rw [computedTag?, computedTag?, name, tag.prop?_unplaced, tag.attribute?_unplaced]
  cases tag.prop? "is" <;> cases tag.attribute? "is" <;> simp

/-- The code for an attribute does not depend on places if its text does not. -/
theorem attributeCode?_unplaced (name : String) {text : Attribute → String}
    (same : ∀ item : Attribute, text item.unplaced = text item) :
    attributeCode? tag.unplaced name text = attributeCode? tag name text := by
  rw [attributeCode?, attributeCode?, tag.prop?_unplaced, tag.attribute?_unplaced]
  cases tag.prop? name <;> cases tag.attribute? name <;> simp [same]

theorem valueBinding_unplaced : valueBinding tag.unplaced = valueBinding tag := by
  rw [valueBinding, valueBinding,
    attributeCode?_unplaced tag _ Attribute.text_unplaced]

theorem keyField_unplaced : keyField tag.unplaced = keyField tag := by
  rw [keyField, keyField, attributeCode?_unplaced tag _ Attribute.text_unplaced]

theorem refFields_unplaced (inLoop : Bool) :
    refFields tag.unplaced inLoop = refFields tag inLoop := by
  rw [refFields, refFields, attributeCode?_unplaced tag _ Attribute.text_unplaced]

theorem slotField_unplaced : slotField tag.unplaced = slotField tag := by
  refine congrArg (·.toList.map ("slot:" ++ ·))
    (attributeCode?_unplaced tag _ fun plain => ?_)
  rcases plain with ⟨name, _ | value, span⟩ <;> rfl

theorem appearanceFields_unplaced :
    appearanceFields tag.unplaced = appearanceFields tag := by
  simp only [appearanceFields, tag.prop?_unplaced, tag.attribute?_unplaced,
    Option.toList_map, List.map_map, Function.comp_def, Attribute.text_unplaced,
    Binding.value_unplaced, Code.trimmed_unplaced]

theorem inputKind_unplaced :
    (tag.unplaced.attribute? "type").bind (fun attr =>
      attr.value.map AttributeValue.text) =
        (tag.attribute? "type").bind fun attr =>
          attr.value.map AttributeValue.text := by
  rw [tag.attribute?_unplaced]
  cases tag.attribute? "type" with
  | none => rfl
  | some plain => exact plain.valueText_unplaced

theorem nativeModel_unplaced (modifiers : List String) (value : String) :
    nativeModel tag.unplaced modifiers value = nativeModel tag modifiers value := by
  have name : tag.unplaced.name = tag.name := rfl
  simp only [nativeModel, inputKind_unplaced, name, valueBinding_unplaced]

theorem isWrittenElsewhere_unplaced (name : String) :
    isWrittenElsewhere tag.unplaced name = isWrittenElsewhere tag name := by
  rw [isWrittenElsewhere, isWrittenElsewhere, computedTag?_unplaced]

theorem constantAttributes_unplaced :
    constantAttributes tag.unplaced = constantAttributes tag := by
  have attributes :
      tag.unplaced.attributes = tag.attributes.map Attribute.unplaced := rfl
  simp only [constantAttributes, attributes, List.filter_map, List.map_map,
    Function.comp_def, isWrittenElsewhere_unplaced, Attribute.name_unplaced,
    Attribute.text_unplaced]

end

/-! ## Directives -/

def DirectiveData.unplaced (data : DirectiveData) : DirectiveData :=
  { data with
    bindObject := data.bindObject.map Directive.unplaced
    listenObject := data.listenObject.map Directive.unplaced }

theorem directiveValue?_unplaced (directive : Directive) :
    directiveValue? directive.unplaced = directiveValue? directive := by
  rcases directive with ⟨name, argument, modifiers, _ | code, span⟩
  · rfl
  · cases blank : code.isBlank <;>
      simp [directiveValue?, Directive.unplaced, Option.filter_some, blank]

theorem directiveObject_unplaced (directive : Directive) :
    directiveObject directive.unplaced = directiveObject directive := by
  have raw : rawName directive.unplaced = rawName directive := rfl
  rw [directiveObject, directiveObject, directiveValue?_unplaced, raw]
  rfl

theorem shown_unplaced (directive : Directive) (none : String) :
    directive.unplaced.value.elim none Code.trimmed =
      directive.value.elim none Code.trimmed := by
  rcases directive with ⟨name, argument, modifiers, _ | code, span⟩ <;> rfl

theorem DirectiveData.add_unplaced (tag : StartTag) (isComponent : Bool)
    (data : DirectiveData) (directive : Directive) :
    add tag.unplaced isComponent data.unplaced directive.unplaced =
      (add tag isComponent data directive).unplaced := by
  have name : directive.unplaced.name = directive.name := rfl
  have argument : directive.unplaced.argument = directive.argument := rfl
  have modifiers : directive.unplaced.modifiers = directive.modifiers := rfl
  simp only [add, name, argument, modifiers, directiveObject_unplaced, shown_unplaced,
    directiveValue?_unplaced, nativeModel_unplaced]
  split
  · rfl
  · split
    · rfl
    · split
      · cases directiveValue? directive with
        | none => rfl
        | some value =>
            dsimp only
            split <;> rfl
      · split
        · rfl
        · split
          · rfl
          · split <;> rfl

theorem DirectiveData.ofTag_unplaced (tag : StartTag) :
    ofTag tag.unplaced = (ofTag tag).unplaced := by
  have isComponent : tag.unplaced.isComponent = tag.isComponent := rfl
  have directives :
      tag.unplaced.directives = tag.directives.map Directive.unplaced := rfl
  have folded (data : DirectiveData) (isComponent : Bool) (given : List Directive) :
      (given.map Directive.unplaced).foldl (add tag.unplaced isComponent)
        data.unplaced =
        (given.foldl (add tag isComponent) data).unplaced := by
    induction given generalizing data with
    | nil => rfl
    | cons directive given induction =>
        rw [List.map_cons, List.foldl_cons, List.foldl_cons, add_unplaced, induction]
  rw [ofTag, ofTag, isComponent, directives, computedTag?_unplaced]
  exact folded {} _ tag.directives

/-! ## Attributes and listeners -/

section

variable (tag : StartTag)

theorem addBinding_unplaced (data : AttributeData) (binding : Binding) :
    AttributeData.addBinding tag.unplaced data binding.unplaced =
      AttributeData.addBinding tag data binding := by
  have name : tag.unplaced.name = tag.name := rfl
  have isComponent : tag.unplaced.isComponent = tag.isComponent := rfl
  have bound : binding.unplaced.name = binding.name := rfl
  have modifiers : binding.unplaced.modifiers = binding.modifiers := rfl
  simp only [AttributeData.addBinding, name, isComponent, bound, modifiers,
    inputKind_unplaced, isWrittenElsewhere_unplaced, Binding.value_unplaced,
    Code.trimmed_unplaced]

theorem attributeData_unplaced (directives : DirectiveData) :
    AttributeData.ofTag tag.unplaced directives.unplaced =
      AttributeData.ofTag tag directives := by
  have props : tag.unplaced.props = tag.props.map Binding.unplaced := rfl
  rw [AttributeData.ofTag, AttributeData.ofTag, constantAttributes_unplaced, props,
    List.foldl_map]
  congr 1
  funext data binding
  exact addBinding_unplaced tag data binding

theorem dataFields_unplaced (directives : DirectiveData) (inLoop : Bool)
    (scopedSlots : Option String) :
    dataFields tag.unplaced directives.unplaced inLoop scopedSlots =
      dataFields tag directives inLoop scopedSlots := by
  have listeners : tag.unplaced.listeners = tag.listeners.map Listener.unplaced := rfl
  have native (listener : Listener) : isNative tag.unplaced listener.unplaced =
      isNative tag listener := rfl
  have added (data : Listeners) (listener : Listener) :
      data.addListener listener.unplaced =
        data.addListener listener := rfl
  have descriptors : directives.unplaced.descriptors = directives.descriptors := rfl
  have model : directives.unplaced.model = directives.model := rfl
  simp only [dataFields, attributeData_unplaced, keyField_unplaced, refFields_unplaced,
    computedTag?_unplaced, appearanceFields_unplaced, slotField_unplaced, listeners,
    List.filter_map, List.foldl_map, Function.comp_def, native, added,
    descriptors, model]

/-- The data of an element does not depend on places. -/
theorem dataObject?_unplaced (inLoop : Bool) (scopedSlots : Option String) :
    dataObject? tag.unplaced inLoop scopedSlots =
      dataObject? tag inLoop scopedSlots := by
  have bindObject (data : DirectiveData) :
      data.unplaced.bindObject = data.bindObject.map Directive.unplaced := rfl
  have listenObject (data : DirectiveData) :
      data.unplaced.listenObject = data.listenObject.map Directive.unplaced := rfl
  have bound (directive : Directive) (data : String) :
      withBoundObject tag.unplaced directive.unplaced data =
        withBoundObject tag directive data := by
    rw [withBoundObject, withBoundObject, shown_unplaced]
    rfl
  have listened (directive : Directive) (data : String) :
      withListenerObject directive.unplaced data =
        withListenerObject directive data := by
    rw [withListenerObject, withListenerObject, shown_unplaced]
  simp only [dataObject?, DirectiveData.ofTag_unplaced, dataFields_unplaced,
    bindObject, listenObject, Option.isNone_map, Option.elim_map, Function.comp_def,
    bound, listened]

end

/-! ## The code of templates -/

theorem outletCode_unplaced (outlet : Outlet) (fallback : Option String) :
    outletCode outlet.unplaced fallback = outletCode outlet fallback := by
  have bound (item : Binding) : item.unplaced.name = item.name := rfl
  rcases outlet with ⟨_ | _, attributes, props⟩ <;>
    simp only [outletCode, Outlet.unplaced, OutletName.unplaced, List.map_map,
      List.filterMap_map, Function.comp_def, Attribute.name_unplaced,
      Attribute.text_unplaced, bound, Binding.value_unplaced, Code.trimmed_unplaced]

theorem loopCode_unplaced (head : LoopHead) (body : String) :
    loopCode head.unplaced body = loopCode head body := by
  have text (pattern : Pattern) : pattern.unplaced.text = pattern.text := rfl
  simp only [loopCode, LoopHead.unplaced, Code.trimmed_unplaced, Option.toList_map,
    List.map_cons, List.map_append, List.map_map, Function.comp_def, text]

theorem slotCode_unplaced (head : SlotHead) (content : Option String) :
    slotCode head.unplaced content = slotCode head content := by
  rcases head with ⟨name, _ | pattern, span⟩ <;> rfl

theorem elementCode_unplaced (tag : StartTag) (data children : Option String) :
    elementCode tag.unplaced data children = elementCode tag data children := by
  have name : tag.unplaced.name = tag.name := rfl
  rw [elementCode, elementCode, computedTag?_unplaced, name]

theorem unplacing_keepsCode : unplacing.KeepsCode where
  toKeepsArrangement := unplacing_keepsArrangement
  trimmed := Code.trimmed_unplaced
  tagName _ := rfl
  hasDirective := StartTag.hasDirective_unplaced
  dataObject := dataObject?_unplaced
  elementCode := elementCode_unplaced
  outletCode := outletCode_unplaced
  loopCode := loopCode_unplaced
  slotCode := slotCode_unplaced

theorem unplacing_showsFirst (node : Node) : unplacing.ShowsFirst node := by
  cases node with
  | loop => exact fun _ _ => rfl
  | conditional => exact fun _ _ _ _ => rfl
  | _ => trivial

/-- Without its places a template has the same render code, or fails
for the same reason. -/
theorem compiled_unplaced (tree : Tree) :
    (tree.unplaced.arrange >>= generate) =
      unplacedResult id (tree.arrange >>= generate) := by
  rw [← unplacing_tree, ← unplacing_result, compiled_changed unplacing_keepsCode]
  intro _ _ top _
  exact Node.Throughout.of_forall unplacing_showsFirst top

end VuePrecompiler.Render
