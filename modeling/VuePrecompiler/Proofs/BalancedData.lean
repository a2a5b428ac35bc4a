import VuePrecompiler.Proofs.BalancedParts
import VuePrecompiler.Render.Data

/-!
# Balanced data objects

An element is lexical if its names are made of the characters that names have
in templates, the code in it is balanced, and the code that is assigned to is a
path.  The data object of a lexical element is balanced.
-/

namespace VuePrecompiler.Template

open Javascript Text

/-- A name of the characters of attribute names. -/
def IsNameText (text : String) : Prop :=
  ∀ c ∈ text.toList, Token.isAttributeChar c = true

instance (text : String) : Decidable (IsNameText text) :=
  decidable_of_iff (text.toList.all Token.isAttributeChar = true) List.all_eq_true

/-- A name in place of which code may stand. -/
def Name.IsLexical : Name → Prop
  | .fixed text => IsNameText text
  | .computed code => IsBalanced code

/-- A balanced value, and a path where the value is assigned to. -/
structure Binding.IsLexical (binding : Binding) : Prop where
  name : binding.name.IsLexical
  value : IsBalanced binding.value.content
  synced : "sync" ∈ binding.modifiers →
    Render.IsAccessPath (trim binding.value.content.toList)

structure Listener.IsLexical (listener : Listener) : Prop where
  name : listener.name.IsLexical
  handler : IsBalanced listener.handler.content

/-- An argument that is written out may be any text. -/
structure Directive.IsLexical (directive : Directive) : Prop where
  name : IsNameText directive.name
  argument : ∀ code, directive.argument = some (.computed code) → IsBalanced code
  value : ∀ code ∈ directive.value, IsBalanced code.content
  model : directive.name = "model" →
    ∀ code ∈ directive.value, Render.IsAccessPath (trim code.content.toList)

structure StartTag.IsLexical (tag : StartTag) : Prop where
  name : ∀ c ∈ tag.name.toList, Token.isTagChar c = true
  attributes : ∀ attr ∈ tag.attributes, IsNameText attr.name
  directives : ∀ directive ∈ tag.directives, directive.IsLexical
  props : ∀ binding ∈ tag.props, binding.IsLexical
  listeners : ∀ listener ∈ tag.listeners, listener.IsLexical

end VuePrecompiler.Template

namespace VuePrecompiler.Render

open Template Text Javascript

variable {tag : StartTag}

theorem isQuotable_nameText {text : String} (named : IsNameText text) :
    IsQuotable text :=
  fun c member => isQuotable_of_test (named c member) (by decide)

theorem isQuotable_tagName (lexical : tag.IsLexical) : IsQuotable tag.name :=
  fun c member => isQuotable_of_test (lexical.name c member) (by decide)

theorem isBalanced_prop? (lexical : tag.IsLexical) {name : String} {binding : Binding}
    (found : tag.prop? name = some binding) : IsBalanced binding.value.content :=
  (lexical.props binding (List.mem_of_find?_eq_some found)).value

theorem isBalanced_computedTag? (lexical : tag.IsLexical) {code : String}
    (computed : computedTag? tag = some code) : IsBalanced code := by
  unfold computedTag? at computed
  split at computed
  · split at computed
    · next found =>
      cases computed
      exact isBalanced_prop? lexical found
    · cases computed
      exact .literal _
    · contradiction
  · contradiction

theorem isBalanced_attributeCode? (lexical : tag.IsLexical) {name code : String}
    {text : Attribute → String} (given : attributeCode? tag name text = some code) :
    IsBalanced code := by
  unfold attributeCode? at given
  split at given
  · next found =>
    cases given
    exact (isBalanced_prop? lexical found).trimmed
  · cases given
    exact .literal _
  · contradiction

theorem isBalanced_valueBinding (lexical : tag.IsLexical) :
    IsBalanced (valueBinding tag) := by
  unfold valueBinding
  cases given : attributeCode? tag "value" Attribute.text with
  | none => exact .fixed rfl
  | some code => exact isBalanced_attributeCode? lexical given

/-! ## Directives -/

structure DirectiveData.AreBalanced (data : DirectiveData) : Prop where
  descriptors : ∀ code ∈ data.descriptors, IsBalanced code
  properties : ∀ code ∈ data.properties, IsBalanced code
  listeners : data.listeners.AreBalanced
  model : ∀ code ∈ data.model, IsBalanced code
  bindObject : ∀ directive ∈ data.bindObject, directive.IsLexical
  listenObject : ∀ directive ∈ data.listenObject, directive.IsLexical

theorem DirectiveData.AreBalanced.add (tagLexical : tag.IsLexical) (isComponent : Bool)
    {data : DirectiveData} (balanced : data.AreBalanced) {directive : Directive}
    (lexical : directive.IsLexical) :
    (data.add tag isComponent directive).AreBalanced := by
  have descriptor : IsBalanced (directiveObject directive) :=
    isBalanced_directiveObject (isQuotable_nameText lexical.name) lexical.value
      lexical.argument
  have descriptors : ∀ code ∈ data.descriptors ++ [directiveObject directive],
      IsBalanced code :=
    List.forall_mem_append.mpr ⟨balanced.descriptors,
      List.forall_mem_singleton.mpr descriptor⟩
  have shownValue : IsBalanced (directive.value.elim "" Code.trimmed) := by
    cases given : directive.value with
    | none => exact .empty
    | some code => exact (lexical.value code given).trimmed
  unfold DirectiveData.add
  lift_lets
  intro value shown described
  have shownBalanced {property : String} (quotable : IsQuotable property) :
      (shown property).AreBalanced := by
    refine { balanced with properties := ?_ }
    refine List.forall_mem_append.mpr ⟨balanced.properties,
      List.forall_mem_singleton.mpr ?_⟩
    simp only [String.append_assoc]
    exact .fixed_append rfl <| .quotable_append quotable <| .fixed_append rfl <|
      .balanced_append shownValue <| .fixed rfl
  split
  · exact shownBalanced (.fixed rfl)
  split
  · exact shownBalanced (.fixed rfl)
  split
  · next isModel =>
    split
    · exact balanced
    · next value given =>
      have code := isBalanced_directiveValue? lexical.value given
      -- The value is trimmed once more when it is cut into accesses.
      have isPath : IsAccessPath (trim value.toList) := by
        obtain ⟨source, filtered, rfl⟩ := Option.map_eq_some_iff.mp given
        exact (lexical.model (eq_of_beq isModel) source
          (Option.filter_eq_some_iff.mp filtered).1).trimmed
      split
      · refine { balanced with model := fun _ same => ?_ }
        exact Option.some.inj same ▸ isBalanced_componentModel _ code isPath
      · have model := isBalanced_nativeModel directive.modifiers code isPath
          (isBalanced_valueBinding tagLexical)
        exact {
          balanced with
          descriptors := descriptors
          properties :=
            List.forall_mem_append.mpr ⟨balanced.properties, model.properties⟩
          listeners := model.listen balanced.listeners }
  split
  · exact { balanced with bindObject := fun _ same => Option.some.inj same ▸ lexical }
  split
  · exact { balanced with
      listenObject := fun _ same => Option.some.inj same ▸ lexical }
  split
  · exact balanced
  · exact { balanced with descriptors := descriptors }

theorem DirectiveData.areBalanced_ofTag (lexical : tag.IsLexical) :
    (DirectiveData.ofTag tag).AreBalanced := by
  unfold DirectiveData.ofTag
  refine List.foldlRecOn tag.directives _ ?_ fun data balanced directive given =>
    balanced.add lexical _ (lexical.directives directive given)
  constructor
  · exact List.forall_mem_nil _
  · exact List.forall_mem_nil _
  · exact Listeners.areBalanced_empty
  · exact fun _ none => nomatch none
  · exact fun _ none => nomatch none
  · exact fun _ none => nomatch none

/-! ## Attributes and bindings -/

structure AttributeData.AreBalanced (data : AttributeData) : Prop where
  attributes : ∀ field ∈ data.attributes, IsBalanced field
  computed : ∀ entry ∈ data.computed, IsBalanced entry.1 ∧ IsBalanced entry.2
  properties : ∀ field ∈ data.properties, IsBalanced field
  listeners : data.listeners.AreBalanced

theorem AttributeData.AreBalanced.addBinding {data : AttributeData}
    (balanced : data.AreBalanced) {binding : Binding} (lexical : binding.IsLexical) :
    (data.addBinding tag binding).AreBalanced := by
  have valueBalanced : IsBalanced binding.value.trimmed := lexical.value.trimmed
  have named := lexical.name
  unfold AttributeData.addBinding
  lift_lets
  intro value
  split
  · next code isComputed =>
    rw [isComputed] at named
    have entry : IsBalanced (trimmed code) := IsBalanced.trimmed named
    exact { balanced with
      computed := List.forall_mem_append.mpr
        ⟨balanced.computed, List.forall_mem_singleton.mpr ⟨entry, valueBalanced⟩⟩ }
  · next base isFixed =>
    rw [isFixed] at named
    have quotable : IsQuotable base := isQuotable_nameText named
    intro kind
    lift_lets
    intro name listeners field
    have nameQuotable : IsQuotable name :=
      IsQuotable.ite (isQuotable_camelize quotable) quotable
    have listenersBalanced : listeners.AreBalanced := by
      show Listeners.AreBalanced (if binding.modifiers.contains "sync" then _ else _)
      split
      · next synced =>
        have isPath := (lexical.synced (List.contains_iff_mem.mp synced)).trimmed
        have event : IsQuotable ("update:" ++ camelize base) :=
          .append (.fixed rfl) (isQuotable_camelize quotable)
        exact balanced.listeners.addLast event
          (isBalanced_eventFunction (isBalanced_assignment isPath (.fixed rfl)))
      · exact balanced.listeners
    have fieldBalanced : IsBalanced field :=
      isBalanced_field nameQuotable valueBalanced
    split
    · exact balanced
    split
    · exact { balanced with
        properties := List.forall_mem_append.mpr
          ⟨balanced.properties, List.forall_mem_singleton.mpr fieldBalanced⟩
        listeners := listenersBalanced }
    · exact { balanced with
        attributes := List.forall_mem_append.mpr
          ⟨balanced.attributes, List.forall_mem_singleton.mpr fieldBalanced⟩
        listeners := listenersBalanced }

theorem isBalanced_constantAttributes (lexical : tag.IsLexical) :
    ∀ field ∈ constantAttributes tag, IsBalanced field := by
  intro field member
  obtain ⟨attr, given, rfl⟩ := List.mem_map.mp member
  have named := lexical.attributes attr (List.mem_of_mem_filter given)
  exact isBalanced_field (isQuotable_nameText named) (.literal _)

theorem AttributeData.areBalanced_ofTag (lexical : tag.IsLexical)
    {directives : DirectiveData} (balanced : directives.AreBalanced) :
    (AttributeData.ofTag tag directives).AreBalanced := by
  unfold AttributeData.ofTag
  refine List.foldlRecOn tag.props _ ?_ fun data balanced binding given =>
    balanced.addBinding (lexical.props binding given)
  constructor
  · exact isBalanced_constantAttributes lexical
  · exact List.forall_mem_nil _
  · exact balanced.properties
  · exact balanced.listeners

/-! ## Listeners -/

theorem Listeners.AreBalanced.addListener {listeners : Listeners}
    (balanced : listeners.AreBalanced) {listener : Listener}
    (lexical : listener.IsLexical) : (listeners.addListener listener).AreBalanced := by
  have handler :=
    isBalanced_handlerFunction lexical.handler listener.modifiers listener.name.text
  have marks := isQuotable_eventMarks listener.modifiers
  have named := lexical.name
  unfold Listeners.addListener
  dsimp only
  split
  · next name isFixed =>
    rw [isFixed] at named
    exact balanced.addLast (marks.append (isQuotable_nameText named)) handler
  · next code isComputed =>
    rw [isComputed] at named
    have event : IsBalanced (trimmed code) := IsBalanced.trimmed named
    refine balanced.addComputed ?_ handler
    split
    · exact event
    · simp only [String.append_assoc]
      exact .fixed_append rfl <| .balanced_append event <| .fixed_append rfl <|
        .quotable_append marks <| .fixed rfl

theorem areBalanced_addListeners {listeners : Listeners}
    (balanced : listeners.AreBalanced)
    (lexical : tag.IsLexical) (chosen : Listener → Bool) :
    ((tag.listeners.filter chosen).foldl
      Listeners.addListener listeners).AreBalanced :=
  List.foldlRecOn _ _ balanced fun _ balanced listener given =>
    balanced.addListener (lexical.listeners listener (List.mem_of_mem_filter given))

/-! ## Fields -/

/-- The fields that an optional source gives. -/
theorem isBalanced_toList_map {Source : Type} {source : Option Source}
    {code : Source → String} (each : ∀ given, source = some given →
      IsBalanced (code given)) :
    ∀ field ∈ source.toList.map code, IsBalanced field := by
  intro field member
  obtain ⟨given, found, rfl⟩ := List.mem_map.mp member
  exact each given (Option.mem_toList.mp found)

theorem isBalanced_keyField (lexical : tag.IsLexical) :
    ∀ field ∈ keyField tag, IsBalanced field :=
  isBalanced_toList_map fun _ given =>
    .fixed_append rfl (isBalanced_attributeCode? lexical given)

theorem isBalanced_slotField (lexical : tag.IsLexical) :
    ∀ field ∈ slotField tag, IsBalanced field :=
  isBalanced_toList_map fun _ given =>
    .fixed_append rfl (isBalanced_attributeCode? lexical given)

theorem isBalanced_refFields (lexical : tag.IsLexical) (inLoop : Bool) :
    ∀ field ∈ refFields tag inLoop, IsBalanced field := by
  unfold refFields
  split
  · next code given =>
    have reference := isBalanced_attributeCode? lexical given
    refine List.forall_mem_cons.mpr ⟨.fixed_append rfl reference, ?_⟩
    split
    · exact List.forall_mem_singleton.mpr (.fixed rfl)
    · exact List.forall_mem_nil _
  · exact List.forall_mem_nil _

theorem isBalanced_appearanceFields (lexical : tag.IsLexical) :
    ∀ field ∈ appearanceFields tag, IsBalanced field := by
  have bound {name : String} (binding : Binding)
      (found : tag.prop? name = some binding) :
      IsBalanced binding.value.trimmed :=
    (isBalanced_prop? lexical found).trimmed
  refine List.forall_mem_append.mpr ⟨List.forall_mem_append.mpr
    ⟨List.forall_mem_append.mpr
      ⟨?_, ?_⟩, ?_⟩, ?_⟩
  · exact isBalanced_toList_map fun _ _ => .fixed_append rfl (IsBalanced.literal _)
  · exact isBalanced_toList_map fun binding found =>
      .fixed_append rfl (bound binding found)
  · exact isBalanced_toList_map fun _ _ => .fixed_append rfl (isBalanced_styleObject _)
  · refine isBalanced_toList_map fun binding found => ?_
    rw [String.append_assoc]
    exact .fixed_append rfl <| .balanced_append (bound binding found) <| .fixed rfl

theorem isBalanced_fieldUnless (isEmpty : Bool) {code : String}
    (balanced : IsBalanced code) :
    ∀ field ∈ fieldUnless isEmpty code, IsBalanced field := by
  unfold fieldUnless
  split
  · exact List.forall_mem_nil _
  · exact List.forall_mem_singleton.mpr balanced

theorem isBalanced_dataFields (lexical : tag.IsLexical) (inLoop : Bool)
    {scopedSlots : Option String} (slots : ∀ code ∈ scopedSlots, IsBalanced code) :
    ∀ field ∈ dataFields tag (DirectiveData.ofTag tag) inLoop scopedSlots,
      IsBalanced field := by
  have directives := DirectiveData.areBalanced_ofTag lexical
  have data := AttributeData.areBalanced_ofTag lexical directives
  have attributes :=
    isBalanced_withComputedKeys (isBalanced_object data.attributes) data.computed
  have on := areBalanced_addListeners data.listeners lexical fun listener =>
    !isNative tag listener
  have nativeOn :=
    areBalanced_addListeners Listeners.areBalanced_empty lexical (isNative tag)
  unfold dataFields
  dsimp only
  refine List.forall_mem_append.mpr ⟨List.forall_mem_append.mpr
    ⟨List.forall_mem_append.mpr
      ⟨List.forall_mem_append.mpr ⟨List.forall_mem_append.mpr
        ⟨List.forall_mem_append.mpr
      ⟨List.forall_mem_append.mpr ⟨List.forall_mem_append.mpr
        ⟨List.forall_mem_append.mpr
      ⟨List.forall_mem_append.mpr ⟨?_, ?_⟩, ?_⟩, ?_⟩, ?_⟩, ?_⟩, ?_⟩, ?_⟩, ?_⟩, ?_⟩, ?_⟩
  · exact isBalanced_fieldUnless _
      (.fixed_append rfl (isBalanced_array directives.descriptors))
  · exact isBalanced_keyField lexical
  · exact isBalanced_refFields lexical inLoop
  · split
    · exact List.forall_mem_singleton.mpr (.fixed rfl)
    · exact List.forall_mem_nil _
  · exact isBalanced_appearanceFields lexical
  · exact isBalanced_fieldUnless _ (.fixed_append rfl attributes)
  · exact isBalanced_fieldUnless _
      (.fixed_append rfl (isBalanced_object data.properties))
  · exact isBalanced_fieldUnless _ (.fixed_append rfl on.code)
  · exact isBalanced_fieldUnless _ (.fixed_append rfl nativeOn.code)
  · split
    · next code =>
      exact List.forall_mem_singleton.mpr (slots code rfl)
    · exact isBalanced_slotField lexical
  · intro field member
    exact directives.model field (Option.mem_toList.mp member)

theorem isBalanced_objectValue {directive : Directive}
    (lexical : directive.IsLexical) :
    IsBalanced (directive.value.elim "\x7b\x7d" Code.trimmed) := by
  cases given : directive.value with
  | none => exact .fixed rfl
  | some code => exact (lexical.value code given).trimmed

theorem isBalanced_withBoundObject (lexical : tag.IsLexical) {directive : Directive}
    (bound : directive.IsLexical) {data : String} (balanced : IsBalanced data) :
    IsBalanced (withBoundObject tag directive data) := by
  have asProperty :
      IsBalanced (if directive.modifiers.contains "prop" then "true" else "false") :=
    .ite (.fixed rfl) (.fixed rfl)
  have synced :
      IsBalanced (if directive.modifiers.contains "sync" then ",true" else "") :=
    .ite (.fixed rfl) .empty
  unfold withBoundObject
  simp only [String.append_assoc]
  exact .fixed_append rfl <| .balanced_append balanced <| .fixed_append rfl <|
    .quotable_append (isQuotable_tagName lexical) <| .fixed_append rfl <|
    .balanced_append (isBalanced_objectValue bound) <| .fixed_append rfl <|
    .balanced_append asProperty <| .balanced_append synced <| .fixed rfl

theorem isBalanced_withListenerObject {directive : Directive}
    (bound : directive.IsLexical) {data : String} (balanced : IsBalanced data) :
    IsBalanced (withListenerObject directive data) := by
  unfold withListenerObject
  simp only [String.append_assoc]
  exact .fixed_append rfl <| .balanced_append balanced <| .fixed_append rfl <|
    .balanced_append (isBalanced_objectValue bound) <| .fixed rfl

/-- The data object of a lexical element is balanced. -/
theorem isBalanced_dataObject? (lexical : tag.IsLexical) (inLoop : Bool)
    {scopedSlots : Option String} (slots : ∀ code ∈ scopedSlots, IsBalanced code) :
    ∀ code ∈ dataObject? tag inLoop scopedSlots, IsBalanced code := by
  have directives := DirectiveData.areBalanced_ofTag lexical
  have fields := isBalanced_object (isBalanced_dataFields lexical inLoop slots)
  intro code given
  unfold dataObject? at given
  dsimp only at given
  split at given
  · cases given
  cases given
  have bound : IsBalanced ((DirectiveData.ofTag tag).bindObject.elim
      (object (dataFields tag (DirectiveData.ofTag tag) inLoop scopedSlots))
      fun directive => withBoundObject tag directive
        (object (dataFields tag (DirectiveData.ofTag tag) inLoop scopedSlots))) := by
    cases bindObject : (DirectiveData.ofTag tag).bindObject with
    | none => exact fields
    | some directive =>
        exact isBalanced_withBoundObject lexical
          (directives.bindObject directive bindObject) fields
  cases listenObject : (DirectiveData.ofTag tag).listenObject with
  | none => exact bound
  | some directive =>
      exact isBalanced_withListenerObject
        (directives.listenObject directive listenObject) bound

end VuePrecompiler.Render
