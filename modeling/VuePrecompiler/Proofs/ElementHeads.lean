import VuePrecompiler.Proofs.CodeParts
import VuePrecompiler.Proofs.GatheredData

/-!
# Elements up to their children

The code of an element starts with its tag and its data.  Every field of the
data stands there, and so does everything that the directives, the bindings
and the listeners of the element have gathered.
-/

namespace VuePrecompiler.Render

open Template Text Javascript

/-- The code of an element up to its children. -/
def elementHead (tag : StartTag) (data : Option String) : String :=
  "_c(" ++ ",".intercalate ((computedTag? tag).getD
    ("'" ++ tag.name ++ "'") :: data.toList)

theorem occurs_elementHead (tag : StartTag) (data given : Option String) :
    Occurs (elementHead tag data) (elementCode tag data given) := by
  refine Occurs.append_right ?_ _
  cases given with
  | none =>
      rw [Option.toList_none, List.append_nil]
      exact .refl _
  | some children =>
      rw [Option.toList_some, ← List.cons_append,
        String.intercalate_append_of_ne_nil (List.cons_ne_nil _ _)
          (List.cons_ne_nil _ _),
        String.append_assoc, ← String.append_assoc]
      exact (Occurs.refl _).append_right _

theorem occurs_computedTag {tag : StartTag} {code : String}
    (computed : computedTag? tag = some code) (data : Option String) :
    Occurs ("_c(" ++ code) (elementHead tag data) := by
  rw [elementHead, computed, Option.getD_some]
  cases data with
  | none =>
      rw [Option.toList_none, String.intercalate_singleton]
      exact .refl _
  | some data =>
      rw [Option.toList_some, String.intercalate_cons_of_ne_nil (List.cons_ne_nil _ _),
        ← String.append_assoc, ← String.append_assoc]
      exact ((Occurs.refl _).append_right _).append_right _

/-! ## Objects with computed keys -/

theorem occurs_withComputedKeys {entry object : String}
    (inObject : Occurs entry object) (computed : List (String × String)) :
    Occurs entry (withComputedKeys object computed) := by
  unfold withComputedKeys
  split
  · exact inObject
  · exact (((inObject.append_left _).append_right _).append_right _).append_right _

theorem occurs_computedKey (object : String) {key value : String}
    {computed : List (String × String)} (given : (key, value) ∈ computed) :
    Occurs (key ++ "," ++ value) (withComputedKeys object computed) := by
  have more : computed.isEmpty = false :=
    List.isEmpty_eq_false_iff.mpr (List.ne_nil_of_mem given)
  rw [withComputedKeys, if_neg (Bool.eq_false_iff.mp more)]
  refine ((Occurs.array ?_).append_left _).append_right _
  exact List.mem_map.mpr ⟨_, given, rfl⟩

namespace Listeners

variable {listeners : Listeners}

theorem isEmpty_of_handles {event handler : String}
    (handles : listeners.Handles event handler) : listeners.isEmpty = false := by
  obtain ⟨handlers, member, _⟩ := handles
  rw [isEmpty, List.isEmpty_eq_false_iff.mpr (List.ne_nil_of_mem member),
    Bool.false_and]

theorem isEmpty_of_computed {event handler : String}
    (given : (event, handler) ∈ listeners.computed) : listeners.isEmpty = false := by
  rw [isEmpty, List.isEmpty_eq_false_iff.mpr (List.ne_nil_of_mem given),
    Bool.and_false]

/-- The handlers of an event stand behind its name. -/
theorem occurs_event {event : String} {handlers : List String}
    (given : (event, handlers) ∈ listeners.named) :
    Occurs ("\"" ++ event ++ "\":" ++ handlersCode handlers) listeners.code := by
  refine occurs_withComputedKeys (Occurs.object ?_) _
  exact List.mem_map.mpr ⟨_, given, rfl⟩

theorem occurs_handlersCode {handler : String} {handlers : List String}
    (given : handler ∈ handlers) : Occurs handler (handlersCode handlers) := by
  unfold handlersCode
  split
  · next single =>
    obtain rfl := List.mem_singleton.mp given
    exact .refl _
  · exact Occurs.array given

theorem occurs_handler {event handler : String}
    (handles : listeners.Handles event handler) : Occurs handler listeners.code := by
  obtain ⟨handlers, member, handled⟩ := handles
  exact ((occurs_handlersCode handled).append_left _).trans (occurs_event member)

end Listeners

/-! ## Fields -/

/-- What the attributes and the directives of an element give. -/
def attributeData (tag : StartTag) : AttributeData :=
  AttributeData.ofTag tag (DirectiveData.ofTag tag)

/-- The handlers of an element that are not for native events. -/
def onListeners (tag : StartTag) : Listeners :=
  (tag.listeners.filter fun listener => !isNative tag listener).foldl
    Listeners.addListener (attributeData tag).listeners

def nativeListeners (tag : StartTag) : Listeners :=
  (tag.listeners.filter (isNative tag)).foldl Listeners.addListener {}

theorem within_onListeners (tag : StartTag) :
    (attributeData tag).listeners.Within (onListeners tag) :=
  foldl_keeps (fun listeners listener within =>
    within.trans (Listeners.within_addListener listeners listener)) (.refl _) _

theorem mem_fieldUnless {isEmpty : Bool} (more : isEmpty = false) (code : String) :
    code ∈ fieldUnless isEmpty code := by
  rw [fieldUnless, if_neg (Bool.eq_false_iff.mp more)]
  exact List.mem_singleton_self code

/-- The parts of the data of an element that are among its fields. -/
structure HasFields (tag : StartTag) (inLoop : Bool) (scopedSlots : Option String)
    (fields : List String) : Prop where
  directives : fieldUnless (DirectiveData.ofTag tag).descriptors.isEmpty
    ("directives:" ++ array (DirectiveData.ofTag tag).descriptors) ⊆ fields
  key : keyField tag ⊆ fields
  reference : refFields tag inLoop ⊆ fields
  appearance : appearanceFields tag ⊆ fields
  attributes :
    fieldUnless ((attributeData tag).attributes.isEmpty &&
      (attributeData tag).computed.isEmpty) ("attrs:" ++
        withComputedKeys (object (attributeData tag).attributes)
          (attributeData tag).computed) ⊆
    fields
  properties : fieldUnless (attributeData tag).properties.isEmpty
    ("domProps:" ++ object (attributeData tag).properties) ⊆ fields
  on : fieldUnless (onListeners tag).isEmpty ("on:" ++ (onListeners tag).code) ⊆ fields
  nativeOn : fieldUnless (nativeListeners tag).isEmpty
    ("nativeOn:" ++ (nativeListeners tag).code) ⊆ fields
  /-- The slot that an element is for is left out where it has slots of its own. -/
  slot : scopedSlots = none → slotField tag ⊆ fields
  model : (DirectiveData.ofTag tag).model.toList ⊆ fields

theorem hasFields_dataFields (tag : StartTag) (inLoop : Bool)
    (scopedSlots : Option String) : HasFields tag inLoop scopedSlots
      (dataFields tag (DirectiveData.ofTag tag) inLoop scopedSlots) := by
  unfold dataFields
  constructor
  case slot =>
    rintro rfl field given
    simp only [List.mem_append, given, true_or, or_true]
  all_goals
    intro field given
    simp only [onListeners, nativeListeners, attributeData, List.mem_append] at given ⊢
    simp only [given, true_or, or_true]

/-! ### Labels -/

/-- A field begins with one of some labels. -/
def IsLabelled (labels : List String) (field : String) : Prop :=
  ∃ label ∈ labels, ∃ content, field = label ++ content

theorem IsLabelled.of_mem {labels : List String} {label : String}
    (known : label ∈ labels) (content : String) :
    IsLabelled labels (label ++ content) :=
  ⟨label, known, content, rfl⟩

/-- A field whose labels have no beginning in common with a text does
not begin with it. -/
theorem IsLabelled.not_isPrefix {labels : List String} {field text : String}
    (isLabelled : IsLabelled labels field)
    (others : ∀ label ∈ labels, ¬ label.toList <+: text.toList ∧
      ¬ text.toList <+: label.toList) :
    ¬ text.toList <+: field.toList := by
  obtain ⟨label, known, content, rfl⟩ := isLabelled
  obtain ⟨notInside, notAround⟩ := others label known
  rw [String.toList_append]
  intro begins
  rcases List.prefix_or_prefix_of_prefix begins (List.prefix_append _ _) with
    around | inside
  · exact notAround around
  · exact notInside inside

theorem isLabelled_fieldUnless {label field : String} {isEmpty : Bool}
    {content : String} (member : field ∈ fieldUnless isEmpty (label ++ content)) :
    IsLabelled [label] field := by
  cases isEmpty with
  | true => contradiction
  | false =>
      rw [List.mem_singleton.mp member]
      exact .of_mem (List.mem_singleton_self _) content

/-- The field for code that may be missing. -/
theorem isLabelled_toList_map {label field : String} {source : Option String}
    (member : field ∈ source.toList.map (label ++ ·)) : IsLabelled [label] field := by
  obtain ⟨content, _, rfl⟩ := List.mem_map.mp member
  exact .of_mem (List.mem_singleton_self label) content

theorem isLabelled_keyField {tag : StartTag} {field : String}
    (member : field ∈ keyField tag) :
    IsLabelled ["key:"] field :=
  isLabelled_toList_map member

theorem isLabelled_refFields {tag : StartTag} {inLoop : Bool} {field : String}
    (member : field ∈ refFields tag inLoop) :
    IsLabelled ["ref:", "refInFor:"] field := by
  unfold refFields at member
  split at member
  · rcases List.mem_cons.mp member with rfl | isMark
    · exact .of_mem (by simp) _
    · split at isMark
      · exact ⟨"refInFor:", by simp, "true", List.mem_singleton.mp isMark⟩
      · contradiction
  · contradiction

theorem isLabelled_tagField {computed : Bool} {field : String}
    (member : field ∈ if computed then ["tag:\"component\""] else []) :
    IsLabelled ["tag:"] field := by
  split at member
  · exact ⟨"tag:", by simp, "\"component\"", List.mem_singleton.mp member⟩
  · contradiction

theorem isLabelled_appearanceFields {tag : StartTag} {field : String}
    (member : field ∈ appearanceFields tag) :
    IsLabelled ["staticClass:", "class:", "staticStyle:", "style:("] field := by
  simp only [appearanceFields, List.mem_append, List.mem_map,
    String.append_assoc] at member
  obtain ((⟨_, _, rfl⟩ | ⟨_, _, rfl⟩) | ⟨_, _, rfl⟩) | ⟨_, _, rfl⟩ := member
  all_goals exact .of_mem (by simp) _

theorem isLabelled_slotField {tag : StartTag} {field : String}
    (member : field ∈ slotField tag) :
    IsLabelled ["slot:"] field :=
  isLabelled_toList_map member

/-- The model of a component has its label, whichever directive gave it. -/
theorem isLabelled_model {tag : StartTag} {field : String}
    (member : field ∈ (DirectiveData.ofTag tag).model.toList) :
    IsLabelled ["model:"] field := by
  have keeps (isComponent : Bool) (data : DirectiveData) (directive : Directive)
      (labelled : ∀ field ∈ data.model.toList, IsLabelled ["model:"] field) :
      ∀ field ∈ (data.add tag isComponent directive).model.toList,
        IsLabelled ["model:"] field := by
    have added := DirectiveData.adds tag isComponent data directive
    generalize data.add tag isComponent directive = more at added
    cases added with
    | componentModel =>
        intro field member
        exact List.mem_singleton.mp member ▸ .of_mem (by simp) _
    | _ => exact labelled
  have start :
      ∀ field ∈ ({} : DirectiveData).model.toList, IsLabelled ["model:"] field :=
    fun field member => absurd member List.not_mem_nil
  exact foldl_keeps (keeps _) start tag.directives field member

/-- The entry for the slots of an element, if it has any. -/
def IsSlotsCode (scopedSlots : Option String) : Prop :=
  ∀ code ∈ scopedSlots, ∃ slots entries, code = scopedSlotsCode slots entries

theorem isSlotsCode (slots : List Slot) (entries : List String) :
    IsSlotsCode (if slots.isEmpty then none
      else some (scopedSlotsCode slots entries)) := by
  split
  · nofun
  · intro code given
    exact ⟨slots, entries, (Option.mem_some_iff.mp given).symm⟩

theorem isLabelled_slots {scopedSlots : Option String}
    (ofSlots : IsSlotsCode scopedSlots)
    {code : String} (given : code ∈ scopedSlots) :
    IsLabelled ["scopedSlots:_u("] code := by
  obtain ⟨slots, entries, rfl⟩ := ofSlots code given
  unfold scopedSlotsCode
  rw [String.append_assoc, String.append_assoc]
  exact .of_mem (by simp) _

section

variable {tag : StartTag} {inLoop : Bool} {scopedSlots : Option String}
  {entry : String}

theorem occurs_data {data : String}
    (same : dataObject? tag inLoop scopedSlots = some data)
    (inData : Occurs entry data) :
    Occurs entry (elementHead tag (dataObject? tag inLoop scopedSlots)) := by
  rw [same]
  refine inData.trans ((Occurs.intercalate _ ?_).append_left _)
  exact List.mem_cons_of_mem _ (List.mem_singleton_self _)

theorem occurs_field {field : String}
    (given : field ∈ dataFields tag (DirectiveData.ofTag tag) inLoop scopedSlots) :
    Occurs field (elementHead tag (dataObject? tag inLoop scopedSlots)) := by
  obtain ⟨data, same, inData⟩ := exists_dataObject_of_field given
  exact occurs_data same inData

/-- What stands in the content of a field that is not left out. -/
theorem occurs_content {isEmpty : Bool} {label content : String}
    (more : isEmpty = false) (isField : fieldUnless isEmpty (label ++ content) ⊆
      dataFields tag (DirectiveData.ofTag tag) inLoop scopedSlots)
    (inContent : Occurs entry content) :
    Occurs entry (elementHead tag (dataObject? tag inLoop scopedSlots)) := by
  have whole : Occurs entry (label ++ content) := inContent.append_left label
  exact whole.trans (occurs_field (isField (mem_fieldUnless more _)))

theorem occurs_descriptor (given : entry ∈ (DirectiveData.ofTag tag).descriptors) :
    Occurs entry (elementHead tag (dataObject? tag inLoop scopedSlots)) :=
  occurs_content (List.isEmpty_eq_false_iff.mpr (List.ne_nil_of_mem given))
    (hasFields_dataFields tag inLoop scopedSlots).directives (Occurs.array given)

theorem occurs_attribute (given : entry ∈ (attributeData tag).attributes) :
    Occurs entry (elementHead tag (dataObject? tag inLoop scopedSlots)) := by
  have more :
      ((attributeData tag).attributes.isEmpty &&
        (attributeData tag).computed.isEmpty) =
      false := by
    rw [List.isEmpty_eq_false_iff.mpr (List.ne_nil_of_mem given), Bool.false_and]
  exact occurs_content more (hasFields_dataFields tag inLoop scopedSlots).attributes
    (occurs_withComputedKeys (Occurs.object given) _)

theorem occurs_computed {key value : String}
    (given : (key, value) ∈ (attributeData tag).computed) :
    Occurs (key ++ "," ++ value)
      (elementHead tag (dataObject? tag inLoop scopedSlots)) := by
  have more :
      ((attributeData tag).attributes.isEmpty &&
        (attributeData tag).computed.isEmpty) =
      false := by
    rw [List.isEmpty_eq_false_iff.mpr (List.ne_nil_of_mem given), Bool.and_false]
  exact occurs_content more (hasFields_dataFields tag inLoop scopedSlots).attributes
    (occurs_computedKey _ given)

theorem occurs_property (given : entry ∈ (attributeData tag).properties) :
    Occurs entry (elementHead tag (dataObject? tag inLoop scopedSlots)) :=
  occurs_content (List.isEmpty_eq_false_iff.mpr (List.ne_nil_of_mem given))
    (hasFields_dataFields tag inLoop scopedSlots).properties (Occurs.object given)

theorem occurs_on (more : (onListeners tag).isEmpty = false)
    (inCode : Occurs entry (onListeners tag).code) :
    Occurs entry (elementHead tag (dataObject? tag inLoop scopedSlots)) :=
  occurs_content more (hasFields_dataFields tag inLoop scopedSlots).on inCode

/-- The handlers that the directives of an element give stand with those
of its listeners. -/
theorem occurs_directiveHandler {event handler : String}
    (handles : (DirectiveData.ofTag tag).listeners.Handles event handler) :
    Occurs handler (elementHead tag (dataObject? tag inLoop scopedSlots)) := by
  have handles : (onListeners tag).Handles event handler :=
    (within_onListeners tag).named _ _
      (AttributeData.within_ofTag.listeners.named _ _ handles)
  exact occurs_on (Listeners.isEmpty_of_handles handles)
    (Listeners.occurs_handler handles)

theorem occurs_nativeOn (more : (nativeListeners tag).isEmpty = false)
    (inCode : Occurs entry (nativeListeners tag).code) :
    Occurs entry (elementHead tag (dataObject? tag inLoop scopedSlots)) :=
  occurs_content more (hasFields_dataFields tag inLoop scopedSlots).nativeOn inCode

theorem occurs_model {code : String}
    (given : (DirectiveData.ofTag tag).model = some code) :
    Occurs code (elementHead tag (dataObject? tag inLoop scopedSlots)) := by
  refine occurs_field ((hasFields_dataFields tag inLoop scopedSlots).model ?_)
  rw [given]
  exact List.mem_singleton_self code

/-! ## Objects around the data -/

theorem occurs_boundValue (tag : StartTag) (directive : Directive) (data : String) :
    Occurs (",'" ++ tag.name ++ "'," ++ directive.value.elim "\x7b\x7d" Code.trimmed ++
      ",") (withBoundObject tag directive data) := by
  unfold withBoundObject
  simp only [String.append_assoc]
  iterate 2 refine Occurs.append_left ?_ _
  simp only [← String.append_assoc]
  iterate 3 refine Occurs.append_right ?_ _
  exact .refl _

theorem occurs_boundListeners (directive : Directive) (data : String) :
    Occurs ("," ++ directive.value.elim "\x7b\x7d" Code.trimmed ++ ")")
      (withListenerObject directive data) := by
  unfold withListenerObject
  simp only [String.append_assoc]
  iterate 2 refine Occurs.append_left ?_ _
  exact .refl _

theorem occurs_bindObject {directive : Directive}
    (given : (DirectiveData.ofTag tag).bindObject = some directive) :
    Occurs (",'" ++ tag.name ++ "'," ++ directive.value.elim "\x7b\x7d" Code.trimmed ++
      ",") (elementHead tag (dataObject? tag inLoop scopedSlots)) := by
  have bound := occurs_boundValue tag directive
    (object (dataFields tag (DirectiveData.ofTag tag) inLoop scopedSlots))
  cases listens : (DirectiveData.ofTag tag).listenObject with
  | none =>
      refine occurs_data ?_ bound
      simp [dataObject?, given, listens]
  | some listening =>
      refine occurs_data ?_ (bound.trans (occurs_withListenerObject listening _))
      simp [dataObject?, given, listens]

theorem occurs_listenObject {directive : Directive}
    (given : (DirectiveData.ofTag tag).listenObject = some directive) :
    Occurs ("," ++ directive.value.elim "\x7b\x7d" Code.trimmed ++ ")")
      (elementHead tag (dataObject? tag inLoop scopedSlots)) := by
  obtain ⟨data, same⟩ : ∃ data, dataObject? tag inLoop scopedSlots =
      some (withListenerObject directive data) := by
    simp [dataObject?, given]
  exact occurs_data same (occurs_boundListeners directive data)

end

end VuePrecompiler.Render
