import VuePrecompiler.Render.Data

/-!
# What the data of an element gathers

The directives, the bindings and the listeners of an element are gone through
one after the other.  Nothing that one of them adds is lost with the others,
except for the fields of which there is one only: a later directive replaces
the code of an earlier one there.
-/

namespace VuePrecompiler.Render

open Template Text Javascript

/-! ## Gathering -/

section

variable {State Item : Type} {step : State → Item → State} {Holds : State → Prop}

theorem foldl_keeps (keeps : ∀ state item, Holds state → Holds (step state item))
    {state : State} (holds : Holds state) (items : List Item) :
    Holds (items.foldl step state) :=
  List.foldlRecOn items step holds fun _ holds item _ => keeps _ item holds

/-- What an item gives and the later ones keep is there in the end. -/
theorem foldl_gives_last {item : Item} {before after : List Item}
    (gives : ∀ state, Holds (step state item))
    (keeps : ∀ state, ∀ other ∈ after, Holds state → Holds (step state other))
    (state : State) : Holds ((before ++ item :: after).foldl step state) := by
  rw [List.foldl_append, List.foldl_cons]
  exact List.foldlRecOn after step (gives _) fun state holds other later =>
    keeps state other later holds

/-- What one item gives and every other one keeps is there in the end. -/
theorem foldl_gives (keeps : ∀ state item, Holds state → Holds (step state item))
    {item : Item} (gives : ∀ state, Holds (step state item)) {items : List Item}
    (member : item ∈ items) (state : State) : Holds (items.foldl step state) := by
  obtain ⟨before, after, rfl⟩ := List.append_of_mem member
  exact foldl_gives_last gives (fun state other _ => keeps state other) state

end

/-! ## Handlers -/

namespace Listeners

/-- A handler is among those of a named event. -/
def Handles (listeners : Listeners) (event handler : String) : Prop :=
  ∃ handlers, (event, handlers) ∈ listeners.named ∧ handler ∈ handlers

/-- Everything that one group of listeners does, another one does as well. -/
structure Within (less more : Listeners) : Prop where
  named : ∀ event handler, less.Handles event handler → more.Handles event handler
  computed : less.computed ⊆ more.computed

theorem Within.refl (listeners : Listeners) : listeners.Within listeners :=
  ⟨fun _ _ handles => handles, List.Subset.refl _⟩

theorem Within.trans {first second third : Listeners} (near : first.Within second)
    (far : second.Within third) : first.Within third :=
  ⟨fun event handler handles =>
    far.named event handler (near.named event handler handles),
      List.Subset.trans near.computed far.computed⟩

theorem exists_change (name : String) {change? : List String → List String}
    {handler : String} (gives : ∀ handlers, handler ∈ change? handlers)
    (named : List (String × List String)) :
    ∃ handlers, (name, handlers) ∈ change name change? named ∧ handler ∈ handlers := by
  induction named with
  | nil => exact ⟨_, List.mem_singleton_self _, gives []⟩
  | cons entry rest induction =>
      rcases entry with ⟨known, handlers⟩
      rw [change]
      split
      · next same =>
        obtain rfl := eq_of_beq same
        exact ⟨_, List.mem_cons_self, gives handlers⟩
      · obtain ⟨found, member, handled⟩ := induction
        exact ⟨found, List.mem_cons_of_mem _ member, handled⟩

theorem exists_change_of_handles (name : String) {change? : List String → List String}
    (grows : ∀ handlers, handlers ⊆ change? handlers) {event handler : String}
    {named : List (String × List String)} {handlers : List String}
    (member : (event, handlers) ∈ named) (handled : handler ∈ handlers) :
    ∃ found, (event, found) ∈ change name change? named ∧ handler ∈ found := by
  induction named with
  | nil => contradiction
  | cons entry rest induction =>
      rcases entry with ⟨known, others⟩
      rw [change]
      rcases List.mem_cons.mp member with same | inRest
      · obtain ⟨rfl, rfl⟩ := Prod.mk.inj same
        split
        · exact ⟨_, List.mem_cons_self, grows _ handled⟩
        · exact ⟨_, List.mem_cons_self, handled⟩
      · split
        · exact ⟨handlers, List.mem_cons_of_mem _ inRest, handled⟩
        · obtain ⟨found, there, handled⟩ := induction inRest
          exact ⟨found, List.mem_cons_of_mem _ there, handled⟩

variable (listeners : Listeners) (name handler : String)

theorem handles_addLast : (listeners.addLast name handler).Handles name handler :=
  exists_change name
    (fun handlers => List.mem_append_right handlers List.mem_cons_self) listeners.named

theorem handles_addFirst : (listeners.addFirst name handler).Handles name handler :=
  exists_change name (fun _ => List.mem_cons_self) listeners.named

theorem within_addLast : listeners.Within (listeners.addLast name handler) where
  named := by
    rintro event other ⟨handlers, member, handled⟩
    exact exists_change_of_handles name (fun _ => List.subset_append_left _ _)
      member handled
  computed := List.Subset.refl _

theorem within_addFirst : listeners.Within (listeners.addFirst name handler) where
  named := by
    rintro event other ⟨handlers, member, handled⟩
    exact exists_change_of_handles name (fun _ => List.subset_cons_self _ _)
      member handled
  computed := List.Subset.refl _

theorem within_addComputed :
    listeners.Within (listeners.addComputed name handler) where
  named := fun _ _ handles => handles
  computed := List.subset_append_left _ _

theorem within_addListener (listener : Listener) :
    listeners.Within (listeners.addListener listener) := by
  unfold addListener
  dsimp only
  split
  · exact within_addLast ..
  · exact within_addComputed ..

end Listeners

theorem NativeModel.within_listen (model : NativeModel) (listeners : Listeners) :
    listeners.Within (model.listen listeners) := by
  unfold NativeModel.listen
  dsimp only
  split
  · exact (Listeners.within_addFirst ..).trans (Listeners.within_addLast ..)
  · exact Listeners.within_addFirst ..

theorem NativeModel.handles_listen (model : NativeModel) (listeners : Listeners) :
    (model.listen listeners).Handles model.event model.handler := by
  have first := listeners.handles_addFirst model.event model.handler
  unfold NativeModel.listen
  dsimp only
  split
  · exact (Listeners.within_addLast ..).named _ _ first
  · exact first

/-! ## Directives -/

namespace DirectiveData

/-- Everything in the lists of one contribution is in those of another one. -/
structure Within (less more : DirectiveData) : Prop where
  descriptors : less.descriptors ⊆ more.descriptors
  properties : less.properties ⊆ more.properties
  listeners : less.listeners.Within more.listeners

theorem Within.refl (data : DirectiveData) : data.Within data :=
  ⟨List.Subset.refl _, List.Subset.refl _, .refl _⟩

/-- The properties that show the value of a directive as the content of an element. -/
def shownProperties : List (String × String) :=
  [("html", "innerHTML"), ("text", "textContent")]

/-- What one directive adds to the data, by its kind. -/
inductive Adds (tag : StartTag) (isComponent : Bool) (directive : Directive)
    (data : DirectiveData) : DirectiveData → Prop where
  | shown {property : String} : (directive.name, property) ∈ shownProperties →
      Adds tag isComponent directive data { data with
        properties := data.properties ++
          ["\"" ++ property ++ "\":_s(" ++
            directive.value.elim "" Code.trimmed ++ ")"] }
  | emptyModel : directive.name = "model" → directiveValue? directive = none →
      Adds tag isComponent directive data data
  | componentModel {value : String} : directive.name = "model" → isComponent = true →
      directiveValue? directive = some value →
      Adds tag isComponent directive data
        { data with model := some (Render.componentModel directive.modifiers value) }
  | nativeModel {value : String} : directive.name = "model" → isComponent = false →
      directiveValue? directive = some value →
      Adds tag isComponent directive data { data with
        descriptors := data.descriptors ++ [directiveObject directive]
        properties :=
          data.properties ++
            (Render.nativeModel tag directive.modifiers value).properties
        listeners :=
          (Render.nativeModel tag directive.modifiers value).listen data.listeners }
  | bindObject : directive.name = "bind" → directive.argument = none →
      Adds tag isComponent directive data { data with bindObject := some directive }
  | listenObject : directive.name = "on" → directive.argument = none →
      Adds tag isComponent directive data { data with listenObject := some directive }
  | silent : directive.name ∈ ["cloak", "once", "pre"] →
      Adds tag isComponent directive data data
  | described : directive.name ∉ shownProperties.map Prod.fst →
      directive.name ≠ "model" →
      ¬ (directive.name ∈ ["bind", "on"] ∧ directive.argument = none) →
      Adds tag isComponent directive data
        { data with descriptors := data.descriptors ++ [directiveObject directive] }

variable (tag : StartTag) (isComponent : Bool)

theorem adds (data : DirectiveData) (directive : Directive) :
    Adds tag isComponent directive data (data.add tag isComponent directive) := by
  unfold add
  lift_lets
  intro value shown described
  split
  · next html =>
    exact .shown (by simp [shownProperties, eq_of_beq html])
  split
  · next text =>
    exact .shown (by simp [shownProperties, eq_of_beq text])
  split
  · next model =>
    split
    · next blank => exact .emptyModel (eq_of_beq model) blank
    · next given =>
      split
      · next component => exact .componentModel (eq_of_beq model) component given
      · next native =>
        exact .nativeModel (eq_of_beq model) (Bool.eq_false_iff.mpr native) given
  split
  · next bind =>
    rw [Bool.and_eq_true, beq_iff_eq, Option.isNone_iff_eq_none] at bind
    exact .bindObject bind.1 bind.2
  split
  · next listen =>
    rw [Bool.and_eq_true, beq_iff_eq, Option.isNone_iff_eq_none] at listen
    exact .listenObject listen.1 listen.2
  split
  · next silent => exact .silent (List.contains_iff_mem.mp silent)
  · next html text model bind listen _ =>
    refine .described ?_ (fun same => model (beq_iff_eq.mpr same)) ?_
    · intro shown
      have named : directive.name = "html" ∨ directive.name = "text" := by
        simpa [shownProperties] using shown
      rcases named with same | same
      · exact html (beq_iff_eq.mpr same)
      · exact text (beq_iff_eq.mpr same)
    · rintro ⟨object, plain⟩
      have named : directive.name = "bind" ∨ directive.name = "on" := by
        simpa using object
      rcases named with same | same
      · exact bind (by simp [same, plain])
      · exact listen (by simp [same, plain])

theorem within_add (data : DirectiveData) (directive : Directive) :
    data.Within (data.add tag isComponent directive) := by
  have added := adds tag isComponent data directive
  generalize data.add tag isComponent directive = more at added
  have same := Within.refl data
  cases added with
  | shown => exact { same with properties := List.subset_append_left _ _ }
  | emptyModel => exact same
  | componentModel => exact ⟨same.descriptors, same.properties, same.listeners⟩
  | nativeModel =>
      exact ⟨List.subset_append_left _ _, List.subset_append_left _ _,
        NativeModel.within_listen _ _⟩
  | bindObject => exact ⟨same.descriptors, same.properties, same.listeners⟩
  | listenObject => exact ⟨same.descriptors, same.properties, same.listeners⟩
  | silent => exact same
  | described => exact { same with descriptors := List.subset_append_left _ _ }

/-- Whether the model of an element is handed to a component. -/
def givesModel (tag : StartTag) : Bool :=
  tag.isComponent || (computedTag? tag).isSome

section

variable {tag : StartTag} {directive : Directive} {value : String}

theorem ofTag_gives (Holds : DirectiveData → Prop)
    (keeps : ∀ less more : DirectiveData, less.Within more → Holds less → Holds more)
    (gives : ∀ data : DirectiveData, Holds (data.add tag (givesModel tag) directive))
    (member : directive ∈ tag.directives) : Holds (ofTag tag) :=
  foldl_gives (fun data other => keeps data _ (within_add tag _ data other))
    gives member {}

/-- What a model with a value gives an element that is no component. -/
structure HasModel (tag : StartTag) (directive : Directive) (value : String)
    (data : DirectiveData) : Prop where
  descriptor : directiveObject directive ∈ data.descriptors
  properties : (Render.nativeModel tag directive.modifiers value).properties ⊆
    data.properties
  handles :
    data.listeners.Handles (Render.nativeModel tag directive.modifiers value).event
      (Render.nativeModel tag directive.modifiers value).handler

theorem hasModel_ofTag (member : directive ∈ tag.directives)
    (isModel : directive.name = "model")
    (given : directiveValue? directive = some value)
    (native : givesModel tag = false) : HasModel tag directive value (ofTag tag) := by
  refine ofTag_gives (HasModel tag directive value) ?_ ?_ member
  · intro less more within has
    exact ⟨within.descriptors has.descriptor,
      List.Subset.trans has.properties within.properties,
      within.listeners.named _ _ has.handles⟩
  · intro data
    have added := adds tag (givesModel tag) data directive
    generalize data.add tag (givesModel tag) directive = more at added
    cases added with
    | nativeModel _ _ same =>
        obtain rfl := Option.some.inj (given.symm.trans same)
        exact ⟨List.mem_append_right _ List.mem_cons_self,
          List.subset_append_right _ _, NativeModel.handles_listen _ _⟩
    | shown named => simp [isModel, shownProperties] at named
    | emptyModel _ blank => simp [given] at blank
    | componentModel _ component => simp [native] at component
    | bindObject named => simp [isModel] at named
    | listenObject named => simp [isModel] at named
    | silent named => simp [isModel] at named
    | described _ other => exact absurd isModel other

theorem shown_ofTag {property : String} (member : directive ∈ tag.directives)
    (shown : (directive.name, property) ∈ shownProperties) :
    "\"" ++ property ++ "\":_s(" ++ directive.value.elim "" Code.trimmed ++ ")" ∈
      (ofTag tag).properties := by
  refine ofTag_gives (_ ∈ DirectiveData.properties ·)
    (fun less more within given => within.properties given) (fun data => ?_) member
  simp only [shownProperties, List.mem_cons, Prod.mk.injEq,
    List.not_mem_nil, or_false] at shown
  obtain ⟨html, rfl⟩ | ⟨text, rfl⟩ := shown
  · simp [add, html]
  · simp [add, text]

/-- The descriptor of a directive that has no other place is among the descriptors. -/
theorem descriptor_ofTag (member : directive ∈ tag.directives)
    (hidden : directive.name ∉ shownProperties.map Prod.fst)
    (other : directive.name ≠ "model")
    (specific : ¬ (directive.name ∈ ["bind", "on"] ∧ directive.argument = none))
    (loud : directive.name ∉ ["cloak", "once", "pre"]) :
    directiveObject directive ∈ (ofTag tag).descriptors := by
  refine ofTag_gives (_ ∈ DirectiveData.descriptors ·)
    (fun less more within given => within.descriptors given) (fun data => ?_) member
  have added := adds tag (givesModel tag) data directive
  generalize data.add tag (givesModel tag) directive = more at added
  cases added with
  | shown named => exact absurd (List.mem_map_of_mem named) hidden
  | emptyModel model | componentModel model | nativeModel model =>
      exact absurd model other
  | bindObject bind plain => exact absurd ⟨by simp [bind], plain⟩ specific
  | listenObject listen plain => exact absurd ⟨by simp [listen], plain⟩ specific
  | silent silent => exact absurd silent loud
  | described => exact List.mem_append_right _ (List.mem_singleton_self _)

/-! ### Fields of which there is one only -/

/-- A directive replaces such a field only if the field is the one of its name. -/
structure Replaces (directive : Directive) (less more : DirectiveData) : Prop where
  model : directive.name ≠ "model" → more.model = less.model
  bindObject : directive.name ≠ "bind" → more.bindObject = less.bindObject
  listenObject : directive.name ≠ "on" → more.listenObject = less.listenObject

theorem replaces_add (tag : StartTag) (isComponent : Bool) (data : DirectiveData)
    (directive : Directive) :
    Replaces directive data (data.add tag isComponent directive) := by
  have added := adds tag isComponent data directive
  generalize data.add tag isComponent directive = more at added
  cases added with
  | componentModel model => exact ⟨absurd model, fun _ => rfl, fun _ => rfl⟩
  | bindObject bind => exact ⟨fun _ => rfl, absurd bind, fun _ => rfl⟩
  | listenObject listen => exact ⟨fun _ => rfl, fun _ => rfl, absurd listen⟩
  | _ => exact ⟨fun _ => rfl, fun _ => rfl, fun _ => rfl⟩

/-- A directive whose name is given once is the last one of its name. -/
theorem exists_last {name : String}
    (once : (tag.directives.map Directive.name).count name ≤ 1)
    (member : directive ∈ tag.directives) (named : directive.name = name) :
    ∃ before after, tag.directives = before ++ directive :: after ∧
      ∀ other ∈ after, other.name ≠ name := by
  obtain ⟨before, after, parts⟩ := List.append_of_mem member
  refine ⟨before, after, parts, fun other later same => ?_⟩
  have again : 0 < (after.map Directive.name).count name :=
    List.count_pos_iff.mpr (same ▸ List.mem_map_of_mem later)
  rw [parts, List.map_append, List.map_cons, named, List.count_append,
    List.count_cons_self] at once
  omega

/-- What a directive with such a name gives is there in the end. -/
theorem ofTag_gives_last {Holds : DirectiveData → Prop} {name : String}
    (once : (tag.directives.map Directive.name).count name ≤ 1)
    (member : directive ∈ tag.directives) (named : directive.name = name)
    (gives : ∀ data : DirectiveData, Holds (data.add tag (givesModel tag) directive))
    (keeps : ∀ (other : Directive) (less more : DirectiveData), other.name ≠ name →
      Replaces other less more → Holds less → Holds more) :
    Holds (ofTag tag) := by
  obtain ⟨before, after, parts, different⟩ := exists_last once member named
  rw [ofTag, parts]
  refine foldl_gives_last gives (fun data other later => ?_) {}
  exact keeps other _ _ (different other later) (replaces_add tag _ data other)

theorem model_ofTag (once : (tag.directives.map Directive.name).count "model" ≤ 1)
    (member : directive ∈ tag.directives) (isModel : directive.name = "model")
    (given : directiveValue? directive = some value)
    (component : givesModel tag = true) :
    (ofTag tag).model = some (Render.componentModel directive.modifiers value) := by
  refine ofTag_gives_last once member isModel (fun data => ?_)
    fun other less more different replaces holds =>
      (replaces.model different).trans holds
  simp [add, isModel, given, component]

theorem bindObject_ofTag (once : (tag.directives.map Directive.name).count "bind" ≤ 1)
    (member : directive ∈ tag.directives) (isBind : directive.name = "bind")
    (plain : directive.argument = none) : (ofTag tag).bindObject = some directive := by
  refine ofTag_gives_last once member isBind (fun data => ?_)
    fun other less more different replaces holds =>
      (replaces.bindObject different).trans holds
  simp [add, isBind, plain]

theorem listenObject_ofTag (once : (tag.directives.map Directive.name).count "on" ≤ 1)
    (member : directive ∈ tag.directives) (isListen : directive.name = "on")
    (plain : directive.argument = none) :
    (ofTag tag).listenObject = some directive := by
  refine ofTag_gives_last once member isListen (fun data => ?_)
    fun other less more different replaces holds =>
      (replaces.listenObject different).trans holds
  simp [add, isListen, plain]

end

end DirectiveData

/-! ## Bindings -/

namespace AttributeData

/-- Everything in one contribution is in another one. -/
structure Within (less more : AttributeData) : Prop where
  attributes : less.attributes ⊆ more.attributes
  computed : less.computed ⊆ more.computed
  properties : less.properties ⊆ more.properties
  listeners : less.listeners.Within more.listeners

theorem Within.refl (data : AttributeData) : data.Within data :=
  ⟨List.Subset.refl _, List.Subset.refl _, List.Subset.refl _, .refl _⟩

theorem Within.trans {first second third : AttributeData} (near : first.Within second)
    (far : second.Within third) : first.Within third where
  attributes := List.Subset.trans near.attributes far.attributes
  computed := List.Subset.trans near.computed far.computed
  properties := List.Subset.trans near.properties far.properties
  listeners := near.listeners.trans far.listeners

/-- The field of a binding with a name that is written out. -/
def field (binding : Binding) (base : String) : String :=
  "\"" ++ (if binding.modifiers.contains "camel" then camelize base else base) ++
    "\":" ++ binding.value.trimmed

/-- The listeners together with the one that keeps a binding in step. -/
def synced (binding : Binding) (base : String) (listeners : Listeners) : Listeners :=
  if binding.modifiers.contains "sync" then
    listeners.addLast ("update:" ++ camelize base)
      (eventFunction (assignment binding.value.trimmed "$event"))
  else listeners

theorem within_synced (binding : Binding) (base : String) (listeners : Listeners) :
    listeners.Within (synced binding base listeners) := by
  unfold synced
  split
  · exact Listeners.within_addLast ..
  · exact .refl listeners

/-- What one binding adds to the data. -/
inductive Adds (tag : StartTag) (binding : Binding) (data : AttributeData) :
    AttributeData → Prop where
  | computed {code : String} : binding.name = .computed code →
      Adds tag binding data
        { data with computed := data.computed ++
          [(trimmed code, binding.value.trimmed)] }
  | elsewhere {base : String} : binding.name = .fixed base →
      isWrittenElsewhere tag base = true →
      Adds tag binding data data
  | asProperty {base : String} : binding.name = .fixed base →
      isWrittenElsewhere tag base = false →
      Adds tag binding data { data with
        properties := data.properties ++ [field binding base]
        listeners := synced binding base data.listeners }
  | asAttribute {base : String} : binding.name = .fixed base →
      isWrittenElsewhere tag base = false →
      Adds tag binding data { data with
        attributes := data.attributes ++ [field binding base]
        listeners := synced binding base data.listeners }

theorem adds (tag : StartTag) (data : AttributeData) (binding : Binding) :
    Adds tag binding data (data.addBinding tag binding) := by
  unfold addBinding
  lift_lets
  intro value
  split
  · next computed => exact .computed computed
  · next fixed =>
    intro kind
    lift_lets
    intro name listeners given
    split
    · next elsewhere => exact .elsewhere fixed elsewhere
    · next here =>
      have here := Bool.eq_false_iff.mpr here
      split
      · exact .asProperty fixed here
      · exact .asAttribute fixed here

theorem within_addBinding (tag : StartTag) (data : AttributeData) (binding : Binding) :
    data.Within (data.addBinding tag binding) := by
  have added := adds tag data binding
  generalize data.addBinding tag binding = more at added
  have same := Within.refl data
  cases added with
  | computed => exact { same with computed := List.subset_append_left _ _ }
  | elsewhere => exact same
  | asProperty =>
      exact { same with
        properties := List.subset_append_left _ _
        listeners := within_synced _ _ _ }
  | asAttribute =>
      exact { same with
        attributes := List.subset_append_left _ _
        listeners := within_synced _ _ _ }

variable {tag : StartTag} {directives : DirectiveData}

/-- The bindings add to what the constant attributes and the directives gave. -/
theorem within_ofTag :
    ({ attributes := constantAttributes tag
       properties := directives.properties
       listeners :=
         directives.listeners } : AttributeData).Within (ofTag tag directives) := by
  refine foldl_keeps (fun data binding within => ?_) (Within.refl _) tag.props
  exact within.trans (within_addBinding tag data binding)

theorem ofTag_gives (Holds : AttributeData → Prop)
    (keeps : ∀ less more : AttributeData, less.Within more → Holds less → Holds more)
    {binding : Binding} (gives : ∀ data : AttributeData,
      Holds (data.addBinding tag binding))
    (member : binding ∈ tag.props) : Holds (ofTag tag directives) :=
  foldl_gives (fun data binding => keeps data _ (within_addBinding tag data binding))
    gives member _

theorem computed_ofTag {binding : Binding} {code : String}
    (member : binding ∈ tag.props) (named : binding.name = .computed code) :
    (trimmed code, binding.value.trimmed) ∈ (ofTag tag directives).computed := by
  refine ofTag_gives (_ ∈ AttributeData.computed ·)
    (fun less more within given => within.computed given) (fun data => ?_) member
  have added := adds tag data binding
  generalize data.addBinding tag binding = more at added
  cases added with
  | computed same =>
      obtain rfl := Name.computed.inj (named.symm.trans same)
      exact List.mem_append_right _ (List.mem_singleton_self _)
  | elsewhere fixed | asProperty fixed | asAttribute fixed =>
      exact absurd (named.symm.trans fixed) (by simp)

theorem field_ofTag {binding : Binding} {base : String} (member : binding ∈ tag.props)
    (named : binding.name = .fixed base) (here : isWrittenElsewhere tag base = false) :
    field binding base ∈ (ofTag tag directives).properties ∨
      field binding base ∈ (ofTag tag directives).attributes := by
  refine ofTag_gives (fun data => _ ∈ data.properties ∨ _ ∈ data.attributes)
    (fun less more within given =>
      given.imp (within.properties ·) (within.attributes ·))
    (fun data => ?_) member
  have added := adds tag data binding
  generalize data.addBinding tag binding = more at added
  cases added with
  | computed other => exact absurd (named.symm.trans other) (by simp)
  | elsewhere fixed elsewhere =>
      obtain rfl := Name.fixed.inj (named.symm.trans fixed)
      exact absurd (here.symm.trans elsewhere) Bool.false_ne_true
  | asProperty fixed =>
      obtain rfl := Name.fixed.inj (named.symm.trans fixed)
      exact .inl (List.mem_append_right _ (List.mem_singleton_self _))
  | asAttribute fixed =>
      obtain rfl := Name.fixed.inj (named.symm.trans fixed)
      exact .inr (List.mem_append_right _ (List.mem_singleton_self _))

end AttributeData

end VuePrecompiler.Render
