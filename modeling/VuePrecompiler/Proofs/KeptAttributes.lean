import VuePrecompiler.Proofs.CursorMoves
import VuePrecompiler.Proofs.ConstantAttributes

/-!
# Attributes kept in render code

Every attribute of an element has an entry in the code of the element up to its
children: a constant attribute and a binding under their name or in a field of
their own, a listener among the handlers of its event, and a directive in the
place of its kind.  Only the slot that a component is for is left out where the
component has slots of its own.
-/

namespace VuePrecompiler.Render

open Source Template Text Javascript

/-- No attribute of an element is given twice, where a constant attribute and a
binding count as one unless they are about classes or styles. -/
structure NamesOnce (tag : StartTag) : Prop where
  attributes : (tag.attributes.map Attribute.name).Nodup
  props : (tag.props.map Binding.name).Nodup
  apart :
    ∀ attr ∈ tag.attributes, ∀ binding ∈ tag.props, binding.name = .fixed attr.name →
    attr.name ∈ ["class", "style"]
  /-- An element has one place only for each of these. -/
  directives : ∀ name ∈ ["model", "bind", "on"],
    (tag.directives.map Directive.name).count name ≤ 1

/-! ## Entries -/

/-- What is written for a constant attribute. -/
def constantEntry (tag : StartTag) (attr : Attribute) : String :=
  match attr.name with
  | "class" => "staticClass:" ++ literal (collapsed (decoded attr.text))
  | "style" => "staticStyle:" ++ styleObject (decoded attr.text)
  | "key" => "key:" ++ literal attr.text
  | "ref" => "ref:" ++ literal attr.text
  | "slot" => "slot:" ++ literal (attr.value.elim "default" AttributeValue.text)
  | name =>
    if (computedTag? tag).isSome && name == "is" then "_c(" ++ literal attr.text
    else "\"" ++ name ++ "\":" ++ literal (decoded attr.text)

/-- What is written for a binding. -/
def bindingEntry (tag : StartTag) (binding : Binding) : String :=
  match binding.name with
  | .computed code => trimmed code ++ "," ++ binding.value.trimmed
  | .fixed "class" => "class:" ++ binding.value.trimmed
  | .fixed "style" => "style:(" ++ binding.value.trimmed ++ ")"
  | .fixed "key" => "key:" ++ binding.value.trimmed
  | .fixed "ref" => "ref:" ++ binding.value.trimmed
  | .fixed "slot" => "slot:" ++ binding.value.trimmed
  | .fixed name =>
    if (computedTag? tag).isSome && name == "is" then "_c(" ++ binding.value.content
    else AttributeData.field binding name

/-- The function that runs for a listener. -/
def listenerHandler (listener : Listener) : String :=
  handlerFunction listener.handler.content listener.modifiers listener.name.text

/-- What is written for a listener: its handler, with those of the other
listeners of its event. -/
inductive ListenerEntry (listener : Listener) : String → Prop where
  | named {name : String} {handlers : List String} : listener.name = .fixed name →
      listenerHandler listener ∈ handlers →
      ListenerEntry listener ("\"" ++ (eventMarks listener.modifiers ++ name) ++
        "\":" ++ Listeners.handlersCode handlers)
  | computed {code key : String} : listener.name = .computed code →
      Occurs (trimmed code) key →
      ListenerEntry listener (key ++ "," ++ listenerHandler listener)

/-- What is written for a directive with a value. -/
def directiveEntry (tag : StartTag) (directive : Directive)
    (value : String) : String :=
  match directive.name, directive.argument with
  | "html", _ => "\"innerHTML\":_s(" ++ value ++ ")"
  | "text", _ => "\"textContent\":_s(" ++ value ++ ")"
  | "model", _ =>
    if DirectiveData.givesModel tag then componentModel directive.modifiers value
    else directiveObject directive
  | "bind", none => ",'" ++ tag.name ++ "'," ++ value ++ ","
  | "on", none => "," ++ value ++ ")"
  | _, _ => directiveObject directive

/-! ### Values in their entries -/

theorem occurs_trimmed (text : String) : Occurs (trimmed text) text := by
  obtain ⟨before, after, parts, _, _⟩ := exists_trim text.toList
  rw [Occurs, trimmed, String.toList_ofList]
  exact ⟨before, after, parts.symm⟩

theorem occurs_bindingValue (tag : StartTag) (binding : Binding) :
    Occurs binding.value.trimmed (bindingEntry tag binding) := by
  have last (before : String) :
      Occurs binding.value.trimmed (before ++ binding.value.trimmed) :=
    (Occurs.refl _).append_left before
  unfold bindingEntry
  split
  · exact last _
  · exact last _
  · exact (last _).append_right _
  · exact last _
  · exact last _
  · exact last _
  · split
    · exact (occurs_trimmed _).append_left _
    · exact last _

theorem occurs_eventFunction {part body : String} (inBody : Occurs part body) :
    Occurs part (eventFunction body) :=
  (inBody.append_left _).append_right _

theorem occurs_listenerHandler (listener : Listener) :
    Occurs listener.handler.trimmed (listenerHandler listener) := by
  have self : Occurs listener.handler.trimmed
      (String.ofList (trim listener.handler.content.toList)) :=
    .refl _
  unfold listenerHandler handlerFunction
  dsimp only
  split
  · next blank =>
    -- The text of a blank handler is empty, so it stands anywhere.
    rw [Occurs, Code.trimmed, trimmed, String.toList_ofList, List.isEmpty_iff.mp blank]
    exact List.nil_infix
  split
  · split
    · exact self
    split
    · exact occurs_eventFunction (self.append_left _)
    · exact occurs_eventFunction self
  split
  · exact occurs_eventFunction ((self.append_left _).append_right _)
  split
  · exact occurs_eventFunction ((self.append_left _).append_right _)
  split
  · exact occurs_eventFunction (self.append_left _)
  · exact occurs_eventFunction (self.append_left _)

theorem ListenerEntry.occurs_handler {listener : Listener} {entry : String}
    (isEntry : ListenerEntry listener entry) :
    Occurs listener.handler.trimmed entry := by
  have inHandler := occurs_listenerHandler listener
  cases isEntry with
  | named _ handled =>
      exact inHandler.trans ((Listeners.occurs_handlersCode handled).append_left _)
  | computed => exact inHandler.append_left _

theorem occurs_directiveObject {directive : Directive} {value : String}
    (given : directiveValue? directive = some value) :
    Occurs value (directiveObject directive) := by
  have inField : Occurs value ("value:(" ++ value ++ ")") :=
    ((Occurs.refl value).append_left _).append_right _
  refine inField.trans (Occurs.object ?_)
  simp [given]

theorem occurs_componentModel (modifiers : List String) (value : String) :
    Occurs value (componentModel modifiers value) := by
  have inField : Occurs value ("value:(" ++ value ++ ")") :=
    ((Occurs.refl value).append_left _).append_right _
  exact (inField.trans (Occurs.object List.mem_cons_self)).append_left _

theorem occurs_directiveValue (tag : StartTag) {directive : Directive} {value : String}
    (given : directiveValue? directive = some value) :
    Occurs value (directiveEntry tag directive value) := by
  have self := Occurs.refl value
  unfold directiveEntry
  split
  · exact (self.append_left _).append_right _
  · exact (self.append_left _).append_right _
  · split
    · exact occurs_componentModel _ value
    · exact occurs_directiveObject given
  · exact (self.append_left _).append_right _
  · exact (self.append_left _).append_right _
  · exact occurs_directiveObject given

/-! ## Constant attributes -/

section

variable {tag : StartTag} {slots : List Slot} {inLoop : Bool}
  {scopedSlots : Option String}

theorem find?_key {Item Key : Type} [DecidableEq Key] {key : Item → Key}
    {items : List Item} {item : Item} (once : (items.map key).Nodup)
    (member : item ∈ items) :
    items.find? (fun other => key other == key item) = some item := by
  induction items with
  | nil => contradiction
  | cons first rest induction =>
      rw [List.map_cons, List.nodup_cons] at once
      rcases List.mem_cons.mp member with rfl | inRest
      · exact List.find?_cons_of_pos (beq_self_eq_true _)
      · have different : key first ≠ key item := by
          intro same
          exact once.1 (same ▸ List.mem_map_of_mem inRest)
        rw [List.find?_cons_of_neg (by simpa using different)]
        exact induction once.2 inRest

namespace NamesOnce

variable (once : NamesOnce tag)
include once

theorem attribute?_eq {attr : Attribute} {name : String}
    (member : attr ∈ tag.attributes) (named : attr.name = name) :
    tag.attribute? name = some attr := by
  rw [← named]
  exact find?_key once.attributes member

theorem prop?_eq {binding : Binding} {name : String} (member : binding ∈ tag.props)
    (named : binding.name = .fixed name) : tag.prop? name = some binding := by
  rw [StartTag.prop?, ← named]
  exact find?_key once.props member

theorem prop?_eq_none {attr : Attribute} {name : String}
    (member : attr ∈ tag.attributes) (named : attr.name = name)
    (other : name ∉ ["class", "style"]) : tag.prop? name = none := by
  rw [← named] at other ⊢
  refine List.find?_eq_none.mpr fun binding given same => ?_
  exact other (once.apart attr member binding given (beq_iff_eq.mp same))

end NamesOnce

theorem name_of_computedTag (computed : (computedTag? tag).isSome = true) :
    tag.name = "component" := by
  unfold computedTag? at computed
  split at computed
  · next named => exact eq_of_beq named
  · contradiction

theorem isWrittenElsewhere_eq_false {name : String} (other : name ∉ reservedNames)
    (plain : ¬ ((computedTag? tag).isSome && name == "is") = true) :
    isWrittenElsewhere tag name = false := by
  rw [isWrittenElsewhere, Bool.eq_false_iff.mpr plain, Bool.or_false]
  simpa using other

theorem occurs_constantEntry (once : NamesOnce tag) {attr : Attribute}
    (member : attr ∈ tag.attributes) (kept : attr.name = "slot" → slots = [])
    (entries : List String) :
    Occurs (constantEntry tag attr) (elementHead tag (dataObject? tag inLoop
      (if slots.isEmpty then none else some (scopedSlotsCode slots entries)))) := by
  have given {name : String} (named : attr.name = name) :=
    once.attribute?_eq member named
  unfold constantEntry
  split
  · next named =>
    have place : WritesConstant tag slots true attr.text _ := .className (given named)
    exact place.occurs inLoop entries
  · next named =>
    have place : WritesConstant tag slots true attr.text _ := .style (given named)
    exact place.occurs inLoop entries
  · next named =>
    have unbound := once.prop?_eq_none member named (by simp)
    have place : WritesConstant tag slots false attr.text _ :=
      .key unbound (given named)
    exact place.occurs inLoop entries
  · next named =>
    have unbound := once.prop?_eq_none member named (by simp)
    have place : WritesConstant tag slots false attr.text _ :=
      .reference unbound (given named)
    exact place.occurs inLoop entries
  · next named =>
    have unbound := once.prop?_eq_none member named (by simp)
    have place : WritesConstant tag slots false _ _ :=
      .slot (kept named) unbound (given named)
    exact place.occurs inLoop entries
  · next noClass noStyle noKey noRef noSlot =>
    split
    · next dynamic =>
      rw [Bool.and_eq_true, beq_iff_eq] at dynamic
      obtain ⟨computed, named⟩ := dynamic
      have unbound := once.prop?_eq_none member named (by simp)
      have place : WritesConstant tag slots false attr.text _ :=
        .tagName (name_of_computedTag computed) unbound (given named)
      exact place.occurs inLoop entries
    · next plain =>
      have other : attr.name ∉ reservedNames := by
        simpa [reservedNames] using ⟨noClass, noStyle, noRef, noSlot, noKey⟩
      have place : WritesConstant tag slots true attr.text _ :=
        .plain member (isWrittenElsewhere_eq_false other plain)
      exact place.occurs inLoop entries

/-! ## Bindings -/

theorem occurs_bindingEntry (once : NamesOnce tag) {binding : Binding}
    (member : binding ∈ tag.props)
    (kept : binding.name = .fixed "slot" → scopedSlots = none) :
    Occurs (bindingEntry tag binding)
      (elementHead tag (dataObject? tag inLoop scopedSlots)) := by
  have has := hasFields_dataFields tag inLoop scopedSlots
  unfold bindingEntry
  split
  · next code named =>
    exact occurs_computed (AttributeData.computed_ofTag member named)
  · next named =>
    refine occurs_field (has.appearance ?_)
    simp [appearanceFields, once.prop?_eq member named]
  · next named =>
    refine occurs_field (has.appearance ?_)
    simp [appearanceFields, once.prop?_eq member named]
  · next named =>
    refine occurs_field (has.key ?_)
    simp [keyField, attributeCode?, once.prop?_eq member named]
  · next named =>
    refine occurs_field (has.reference ?_)
    simp [refFields, attributeCode?, once.prop?_eq member named]
  · next named =>
    refine occurs_field (has.slot (kept named) ?_)
    simp [slotField, attributeCode?, once.prop?_eq member named]
  · next name noClass noStyle noKey noRef noSlot named =>
    split
    · next dynamic =>
      rw [Bool.and_eq_true, beq_iff_eq] at dynamic
      obtain ⟨computed, rfl⟩ := dynamic
      refine occurs_computedTag ?_ _
      simp [computedTag?, name_of_computedTag computed, once.prop?_eq member named]
    · next plain =>
      have other : name ∉ reservedNames := by
        simpa [reservedNames] using ⟨noClass, noStyle, noRef, noSlot, noKey⟩
      have here := isWrittenElsewhere_eq_false other plain
      rcases AttributeData.field_ofTag member named here with asProperty | asAttribute
      · exact occurs_property asProperty
      · exact occurs_attribute asAttribute

/-! ## Listeners -/

/-- The handler of a listener is among those of its event. -/
inductive Listeners.Gives (listener : Listener) (listeners : Listeners) : Prop where
  | named {name : String} : listener.name = .fixed name →
      listeners.Handles (eventMarks listener.modifiers ++ name)
        (listenerHandler listener) →
      Listeners.Gives listener listeners
  | computed {code key : String} : listener.name = .computed code →
      Occurs (trimmed code) key →
      (key, listenerHandler listener) ∈ listeners.computed →
      Listeners.Gives listener listeners

theorem Listeners.Gives.within {listener : Listener} {less more : Listeners}
    (within : less.Within more) (gives : Gives listener less) :
    Gives listener more := by
  cases gives with
  | named fixed handles => exact .named fixed (within.named _ _ handles)
  | computed dynamic inKey given =>
      exact .computed dynamic inKey (within.computed given)

theorem Listeners.gives_addListener (listeners : Listeners) (listener : Listener) :
    Gives listener (listeners.addListener listener) := by
  unfold addListener
  dsimp only
  split
  · next name fixed => exact .named fixed (handles_addLast ..)
  · next code dynamic =>
    refine .computed dynamic ?_ (List.mem_append_right _ (List.mem_singleton_self _))
    split
    · exact .refl _
    · exact (((Occurs.refl _).append_left _).append_right _).append_right _
        |>.append_right _

theorem Listeners.gives_foldl {listener : Listener} {items : List Listener}
    (member : listener ∈ items) (listeners : Listeners) :
    Gives listener (items.foldl addListener listeners) := by
  have keeps : ∀ listeners other, Gives listener listeners →
      Gives listener (addListener listeners other) :=
    fun listeners other gives => gives.within (within_addListener listeners other)
  exact foldl_gives keeps (fun listeners => gives_addListener listeners listener)
    member listeners

theorem Listeners.Gives.occurs {listener : Listener} {listeners : Listeners}
    (gives : Gives listener listeners) :
    listeners.isEmpty = false ∧ ∃ entry, ListenerEntry listener entry ∧
      Occurs entry listeners.code := by
  cases gives with
  | named fixed handles =>
      refine ⟨isEmpty_of_handles handles, ?_⟩
      obtain ⟨handlers, given, handled⟩ := handles
      exact ⟨_, .named fixed handled, occurs_event given⟩
  | computed dynamic inKey given =>
      exact ⟨isEmpty_of_computed given, _, .computed dynamic inKey,
        occurs_computedKey _ given⟩

theorem occurs_listenerEntry {listener : Listener}
    (member : listener ∈ tag.listeners) :
    ∃ entry, ListenerEntry listener entry ∧
      Occurs entry (elementHead tag (dataObject? tag inLoop scopedSlots)) := by
  cases native : isNative tag listener with
  | false =>
      have kept : listener ∈ tag.listeners.filter fun listener =>
          !isNative tag listener :=
        List.mem_filter.mpr ⟨member, by rw [native]; rfl⟩
      obtain ⟨more, entry, isEntry, inCode⟩ :=
        (Listeners.gives_foldl kept (attributeData tag).listeners).occurs
      exact ⟨entry, isEntry, occurs_on more inCode⟩
  | true =>
      have kept : listener ∈ tag.listeners.filter (isNative tag) :=
        List.mem_filter.mpr ⟨member, native⟩
      obtain ⟨more, entry, isEntry, inCode⟩ := (Listeners.gives_foldl kept {}).occurs
      exact ⟨entry, isEntry, occurs_nativeOn more inCode⟩

/-! ## Directives -/

theorem trimmed_of_directiveValue? {directive : Directive} {value : String}
    (given : directiveValue? directive = some value) (absent : String) :
    directive.value.elim absent Code.trimmed = value := by
  obtain ⟨code, filtered, rfl⟩ := Option.map_eq_some_iff.mp given
  rw [(Option.filter_eq_some_iff.mp filtered).1]
  rfl

theorem occurs_shown {directive : Directive} {value : String} (property : String)
    (member : directive ∈ tag.directives)
    (given : directiveValue? directive = some value)
    (shown : (directive.name, property) ∈ DirectiveData.shownProperties) :
    Occurs ("\"" ++ property ++ "\":_s(" ++ value ++ ")")
      (elementHead tag (dataObject? tag inLoop scopedSlots)) := by
  have inProperties := DirectiveData.shown_ofTag member shown
  rw [trimmed_of_directiveValue? given] at inProperties
  exact occurs_property (AttributeData.within_ofTag.properties inProperties)

theorem occurs_directiveEntry (once : NamesOnce tag) {directive : Directive}
    {value : String} (member : directive ∈ tag.directives)
    (loud : directive.name ∉ ["cloak", "once", "pre"])
    (given : directiveValue? directive = some value) :
    Occurs (directiveEntry tag directive value)
      (elementHead tag (dataObject? tag inLoop scopedSlots)) := by
  have once {name : String} := once.directives name
  have trimmed := trimmed_of_directiveValue? given
  unfold directiveEntry
  split
  · next html =>
    exact occurs_shown "innerHTML" member given
      (by simp [html, DirectiveData.shownProperties])
  · next text =>
    exact occurs_shown "textContent" member given
      (by simp [text, DirectiveData.shownProperties])
  · next model =>
    split
    · next component =>
      exact occurs_model (DirectiveData.model_ofTag (once (by simp)) member model
        given component)
    · next native =>
      have native := Bool.eq_false_iff.mpr native
      exact occurs_descriptor
        (DirectiveData.hasModel_ofTag member model given native).descriptor
  · next bind plain =>
    have bound := DirectiveData.bindObject_ofTag (once (by simp)) member bind plain
    rw [← trimmed "\x7b\x7d"]
    exact occurs_bindObject bound
  · next listen plain =>
    have listens :=
      DirectiveData.listenObject_ofTag (once (by simp)) member listen plain
    rw [← trimmed "\x7b\x7d"]
    exact occurs_listenObject listens
  · next noHtml noText noModel noBind noListen =>
    refine occurs_descriptor (DirectiveData.descriptor_ofTag member ?_ noModel ?_ loud)
    · simpa [DirectiveData.shownProperties] using ⟨noHtml, noText⟩
    · rintro ⟨object, plain⟩
      have named : directive.name = "bind" ∨ directive.name = "on" := by
        simpa using object
      rcases named with bind | listen
      · exact noBind bind plain
      · exact noListen listen plain

end

/-! ## Elements -/

/-- The attributes of an element have their entries in a code, and their
values in the entries. -/
structure KeepsAttributes (tag : StartTag) (slots : List Slot)
    (head : String) : Prop where
  attributes : ∀ attr ∈ tag.attributes, (attr.name = "slot" → slots = []) →
    Occurs (constantEntry tag attr) head
  props : ∀ binding ∈ tag.props, (binding.name = .fixed "slot" → slots = []) →
    Occurs binding.value.trimmed (bindingEntry tag binding) ∧
      Occurs (bindingEntry tag binding) head
  listeners : ∀ listener ∈ tag.listeners, ∃ entry, ListenerEntry listener entry ∧
    Occurs listener.handler.trimmed entry ∧ Occurs entry head
  directives :
    ∀ directive ∈ tag.directives, directive.name ∉ ["cloak", "once", "pre"] →
    ∀ value, directiveValue? directive = some value →
      Occurs value (directiveEntry tag directive value) ∧
        Occurs (directiveEntry tag directive value) head

/-- The code of an element keeps its attributes in front of its children, except
for the slot that it is for where it has slots of its own. -/
theorem element_keepsAttributes {inLoop : Bool} {tag : StartTag} {children : List Node}
    {slots : List Slot} {span : Span} {code : String} (named : tag.name ≠ "template")
    (once : NamesOnce tag)
    (generated : nodeCode inLoop (.element tag children slots span) = .ok code) :
    ∃ data given, code = elementCode tag data given ∧
      KeepsAttributes tag slots (elementHead tag data) := by
  obtain ⟨entries, given, _, _, same⟩ := of_nodeCode_element named generated
  refine ⟨_, given, same, ?_⟩
  have kept (noSlots : slots = []) :
      (if slots.isEmpty then none else some (scopedSlotsCode slots entries)) =
        none := by
    rw [noSlots]
    rfl
  constructor
  · intro attr member plain
    exact occurs_constantEntry once member plain entries
  · intro binding member plain
    refine ⟨occurs_bindingValue tag binding, ?_⟩
    exact occurs_bindingEntry once member fun isSlot => kept (plain isSlot)
  · intro listener member
    obtain ⟨entry, isEntry, inHead⟩ := occurs_listenerEntry member
    exact ⟨entry, isEntry, isEntry.occurs_handler, inHead⟩
  · intro directive member loud value given
    exact ⟨occurs_directiveValue tag given,
      occurs_directiveEntry once member loud given⟩

theorem component_keepsAttributes :
    let source : List SourceAttribute := [⟨"class".toList, some (" x  y ", ⟨6, 20⟩),
      ⟨6, 20⟩⟩, ⟨":a.sync".toList, some ("b", ⟨21, 32⟩), ⟨21, 32⟩⟩,
      ⟨"@c.once".toList, some ("d", ⟨33, 44⟩), ⟨33, 44⟩⟩,
      ⟨"v-model".toList, some ("e", ⟨45, 56⟩), ⟨45, 56⟩⟩,
      ⟨"v-bind".toList, some ("f", ⟨57, 67⟩), ⟨57, 67⟩⟩,
      ⟨"slot".toList, some ("g", ⟨68, 76⟩), ⟨68, 76⟩⟩]
    let tag : StartTag := .ofSource "my-c" source
    let code := "_c('my-c',_b(\x7bstaticClass:\"x y\",attrs:\x7b\"a\":b\x7d," ++
      "on:\x7b\"update:a\":function($event)\x7bb=$event\x7d,\"~c\":d\x7d,slot:\"g\"," ++
      "model:\x7bvalue:(e),callback:function ($$v) \x7be=$$v\x7d,expression:\"e\"\x7d\x7d," ++
      "'my-c',f,false),[_v(\"h\")])"
    NamesOnce tag ∧
      nodeCode false (.element tag [.text "h" ⟨77, 78⟩] [] ⟨0, 85⟩) = .ok code ∧
      ∃ data given, code = elementCode tag data given ∧
        KeepsAttributes tag [] (elementHead tag data) := by
  intro source tag code
  have once : NamesOnce tag := by
    constructor <;> decide +kernel
  have generated :
      nodeCode false (.element tag [.text "h" ⟨77, 78⟩] [] ⟨0, 85⟩) = .ok code := by
    decide +kernel
  exact ⟨once, generated, element_keepsAttributes (by decide) once generated⟩

/-- A component with slots of its own loses the slot that it is for. -/
theorem slot_beside_slots :
    let source := "<my-c slot=\"a\"><template #b>x</template></my-c>"
    let attr : Attribute := ⟨"slot", some ⟨"a", ⟨12, 13⟩⟩, ⟨6, 14⟩⟩
    let tag : StartTag := ⟨"my-c", true, [attr], [], [], []⟩
    let slot : Slot := .mk ⟨.fixed "b", none, ⟨15, 40⟩⟩ [.text "x" ⟨28, 29⟩]
    let code := "_c('my-c',\x7bscopedSlots:_u([\x7bkey:\"b\"," ++
      "fn:function()\x7breturn [_v(\"x\")]\x7d,proxy:true\x7d])\x7d)"
    compile source = .ok ("with(this)\x7breturn " ++ code ++ "\x7d") ∧
      nodeCode false (.element tag [] [slot] ⟨0, 47⟩) = .ok code ∧ NamesOnce tag ∧
      ¬ Occurs (literal attr.text) code := by
  intro source attr tag slot code
  have once : NamesOnce tag := by
    constructor <;> decide +kernel
  have dropped : ¬ (literal attr.text).toList <:+: code.toList := by decide +kernel
  exact ⟨by decide +kernel, by decide +kernel, once, dropped⟩

end VuePrecompiler.Render
