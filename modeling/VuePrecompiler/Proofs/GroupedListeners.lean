import VuePrecompiler.Proofs.KeptAttributes

/-!
# Listeners by their events

The listeners of an element are added one after the other.  Each goes to the
handlers of its event, in front of them or behind them, and an event is placed
behind the others when it is first used.  So the listeners that came from one
kind of attribute stay together and in order, whichever events they share.
-/

namespace VuePrecompiler.Render

open Source Template Text Javascript

/-- A handler that is added to those of an event.  An important one
runs before them. -/
structure Addition where
  name : String
  handler : String
  important : Bool

namespace Addition

/-- The handlers of an event with the one that is added. -/
def place (addition : Addition) (handlers : List String) : List String :=
  if addition.important then addition.handler :: handlers
  else handlers ++ [addition.handler]

/-- The handlers of all events with the one that is added. -/
def enter (named : List (String × List String)) (addition : Addition) :
    List (String × List String) :=
  Listeners.change addition.name addition.place named

/-- The events that handlers are added to, in the order of their first use. -/
def names (additions : List Addition) : List String :=
  (additions.map Addition.name).eraseDups

/-- The handlers that are added to an event as important ones, or as others. -/
def handlersOf (important : Bool) (additions : List Addition) (name : String) :
    List String :=
  (additions.filter fun addition =>
    addition.name == name && addition.important == important).map
      Addition.handler

/-- The handlers of an event as they run: the important ones, the last of them
first, and the others behind them. -/
def handlers (additions : List Addition) (name : String) : List String :=
  (handlersOf true additions name).reverse ++ handlersOf false additions name

/-- Each event with its handlers. -/
def grouped (additions : List Addition) : List (String × List String) :=
  (names additions).map fun name => (name, handlers additions name)

/-! ## One addition -/

section

variable (additions : List Addition) (last : Addition)

theorem names_concat : names (additions ++ [last]) =
    if last.name ∈ names additions then names additions
    else names additions ++ [last.name] := by
  rw [names, names, List.map_append, List.map_singleton, List.eraseDups_append]
  generalize additions.map Addition.name = used
  simp only [List.mem_eraseDups]
  by_cases known : last.name ∈ used
  · rw [if_pos known]
    simp [List.removeAll, known]
  · rw [if_neg known]
    simp [List.removeAll, known, List.eraseDups_cons]

theorem handlersOf_append (important : Bool) (first later : List Addition)
    (name : String) :
    handlersOf important (first ++ later) name =
      handlersOf important first name ++ handlersOf important later name := by
  rw [handlersOf, List.filter_append, List.map_append]
  rfl

theorem handlers_concat (name : String) : handlers (additions ++ [last]) name =
    if name = last.name then last.place (handlers additions name)
    else handlers additions name := by
  rw [handlers, handlersOf_append, handlersOf_append]
  by_cases same : name = last.name
  · rw [if_pos same, place]
    cases important : last.important <;> simp [handlersOf, handlers, same, important]
  · rw [if_neg same]
    simp [handlersOf, handlers, Ne.symm same]

end

/-- An event that was not used has no handlers. -/
theorem handlers_of_notMem {additions : List Addition} {name : String}
    (unused : name ∉ names additions) : handlers additions name = [] := by
  have others : ∀ addition ∈ additions, addition.name ≠ name := by
    rintro addition member rfl
    exact unused (List.mem_eraseDups.mpr (List.mem_map_of_mem member))
  have none_of (important : Bool) : handlersOf important additions name = [] := by
    rw [handlersOf, List.map_eq_nil_iff, List.filter_eq_nil_iff]
    intro addition member
    simp [others addition member]
  rw [handlers, none_of, none_of]
  rfl

/-- No event is listed twice. -/
theorem nodup_names (additions : List Addition) : (names additions).Nodup := by
  induction additions using List.reverseRecOn with
  | nil => exact List.nodup_nil
  | append_singleton additions last induction =>
      rw [names_concat]
      split
      · exact induction
      · next new =>
        rw [List.nodup_append]
        refine ⟨induction, by simp, ?_⟩
        intro name used other isLast
        rw [List.mem_singleton.mp isLast]
        exact fun same => new (same ▸ used)

theorem change_of_mem {names : List String} {name : String} (nodup : names.Nodup)
    (member : name ∈ names) (change? : List String → List String)
    (handlers : String → List String) :
    Listeners.change name change? (names.map fun other => (other, handlers other)) =
      names.map fun other =>
        (other, if other = name then change? (handlers other)
          else handlers other) := by
  induction names with
  | nil => contradiction
  | cons first rest induction =>
      obtain ⟨notInRest, nodup⟩ := List.nodup_cons.mp nodup
      rw [List.map_cons, Listeners.change, List.map_cons]
      by_cases same : first = name
      · subst same
        have others : ∀ other ∈ rest, other ≠ first := fun other inRest isFirst =>
          notInRest (isFirst ▸ inRest)
        rw [if_pos (beq_self_eq_true _), if_pos rfl, List.cons_inj_right]
        exact List.map_congr_left fun other inRest => by
          rw [if_neg (others other inRest)]
      · have inRest := (List.mem_cons.mp member).resolve_left (Ne.symm same)
        rw [if_neg (by simpa using same), if_neg same, induction nodup inRest]

theorem change_of_notMem {named : List (String × List String)} {name : String}
    (new : name ∉ named.map Prod.fst) (change? : List String → List String) :
    Listeners.change name change? named = named ++ [(name, change? [])] := by
  induction named with
  | nil => rfl
  | cons first rest induction =>
      rw [List.map_cons, List.mem_cons, not_or] at new
      rw [Listeners.change, if_neg (by simpa using Ne.symm new.1), induction new.2,
        List.cons_append]

/-- One more handler goes to its place in the group of its event. -/
theorem enter_grouped (additions : List Addition) (last : Addition) :
    enter (grouped additions) last = grouped (additions ++ [last]) := by
  have after : grouped (additions ++ [last]) =
      (if last.name ∈ names additions then names additions
        else names additions ++ [last.name]).map fun name =>
          (name, if name = last.name then last.place (handlers additions name)
            else handlers additions name) := by
    rw [grouped, names_concat]
    simp only [handlers_concat]
  rw [after]
  -- A known event is changed where it stands, and a new one is placed behind the
  -- others.
  by_cases used : last.name ∈ names additions
  · rw [if_pos used, enter, grouped, change_of_mem (nodup_names additions) used]
  · have new : last.name ∉ (grouped additions).map Prod.fst := by
      rw [grouped, List.map_map]
      simpa using used
    have others : ∀ name ∈ names additions, name ≠ last.name := fun name member same =>
      used (same ▸ member)
    rw [if_neg used, enter, change_of_notMem new, List.map_append, List.map_singleton,
      if_pos rfl, handlers_of_notMem used, List.append_cancel_right_eq, grouped]
    exact List.map_congr_left fun name member => by rw [if_neg (others name member)]

/-- However many handlers are added, they are grouped by their events. -/
theorem foldl_enter (additions : List Addition) :
    additions.foldl enter [] = grouped additions := by
  induction additions using List.reverseRecOn with
  | nil => rfl
  | append_singleton additions last induction =>
      rw [List.foldl_append, induction, List.foldl_cons, List.foldl_nil, enter_grouped]

end Addition

/-! ## Additions to the listeners of an element -/

namespace Listeners

/-- Add a handler to those of its event. -/
def add (listeners : Listeners) (addition : Addition) : Listeners :=
  if addition.important then listeners.addFirst addition.name addition.handler
  else listeners.addLast addition.name addition.handler

/-- Add handlers to those of their events, and others whose events
have computed names. -/
def addAll (listeners : Listeners) (additions : List Addition)
    (computed : List (String × String)) : Listeners :=
  ⟨additions.foldl Addition.enter listeners.named, listeners.computed ++ computed⟩

variable (listeners : Listeners)

theorem addAll_nil : listeners.addAll [] [] = listeners := by
  rw [addAll, List.append_nil]
  rfl

theorem addAll_addAll (first later : List Addition)
    (computed more : List (String × String)) :
    (listeners.addAll first computed).addAll later more =
      listeners.addAll (first ++ later) (computed ++ more) := by
  rw [addAll, addAll, addAll, List.foldl_append, List.append_assoc]

theorem add_eq_addAll (addition : Addition) :
    listeners.add addition = listeners.addAll [addition] [] := by
  rw [add, addAll, List.append_nil, List.foldl_cons, List.foldl_nil, Addition.enter]
  unfold Addition.place
  cases addition.important <;> rfl

theorem foldl_add (additions : List Addition) :
    additions.foldl add listeners = listeners.addAll additions [] := by
  induction additions generalizing listeners with
  | nil => exact listeners.addAll_nil.symm
  | cons first rest induction =>
      rw [List.foldl_cons, induction, add_eq_addAll, addAll_addAll]
      rfl

end Listeners

/-- Where each item adds to the listeners that a state holds, all items
add to them in turn. -/
theorem listeners_foldl {State Item : Type} {held : State → Listeners}
    {step : State → Item → State} {additions : Item → List Addition}
    {computed : Item → List (String × String)}
    (adds : ∀ state item, held (step state item) =
      (held state).addAll (additions item) (computed item))
    (items : List Item) (state : State) :
    held (items.foldl step state) =
      (held state).addAll (items.flatMap additions) (items.flatMap computed) := by
  induction items generalizing state with
  | nil => exact (held state).addAll_nil.symm
  | cons first rest induction =>
      rw [List.foldl_cons, induction, adds, Listeners.addAll_addAll, List.flatMap_cons,
        List.flatMap_cons]

/-- The handlers of a two-way binding: the one that stores, and the one that
updates the element when it loses the focus. -/
def NativeModel.additions (model : NativeModel) : List Addition :=
  ⟨model.event, model.handler, true⟩ ::
    if model.refreshes then [⟨"blur", eventFunction "return $forceUpdate()", false⟩]
    else []

theorem NativeModel.listen_eq_addAll (model : NativeModel) (listeners : Listeners) :
    model.listen listeners = listeners.addAll model.additions [] := by
  have stored : listeners.addFirst model.event model.handler =
      listeners.add ⟨model.event, model.handler, true⟩ := rfl
  unfold NativeModel.listen NativeModel.additions
  dsimp only
  rw [stored, ← Listeners.foldl_add, List.foldl_cons]
  cases model.refreshes <;> rfl

/-- What a directive adds: the handlers of a two-way binding on an element
that is no component. -/
def modelAdditions (tag : StartTag) (directive : Directive) : List Addition :=
  if directive.name = "model" ∧ DirectiveData.givesModel tag = false then
    (directiveValue? directive).elim [] fun value =>
      (nativeModel tag directive.modifiers value).additions
  else []

theorem DirectiveData.listeners_add (tag : StartTag) (data : DirectiveData)
    (directive : Directive) :
    (data.add tag (givesModel tag) directive).listeners =
      data.listeners.addAll (modelAdditions tag directive) [] := by
  have added := adds tag (givesModel tag) data directive
  generalize data.add tag (givesModel tag) directive = more at added
  have nothing (none : modelAdditions tag directive = []) :
      data.listeners = data.listeners.addAll (modelAdditions tag directive) [] := by
    rw [none, Listeners.addAll_nil]
  have other (different : directive.name ≠ "model") :
      data.listeners = data.listeners.addAll (modelAdditions tag directive) [] :=
    nothing (by rw [modelAdditions, if_neg (fun both => different both.1)])
  cases added with
  | shown named =>
      refine other fun same => ?_
      simp [same, shownProperties] at named
  | emptyModel model blank => exact nothing (by simp [modelAdditions, blank])
  | componentModel model component =>
      exact nothing (by simp [modelAdditions, component])
  | nativeModel model native given =>
      rw [modelAdditions, if_pos ⟨model, native⟩, given, Option.elim_some]
      exact NativeModel.listen_eq_addAll _ _
  | bindObject named => exact other (by simp [named])
  | listenObject named => exact other (by simp [named])
  | silent named =>
      refine other fun same => ?_
      simp [same] at named
  | described _ different => exact other different

/-- What a binding adds: the handler that keeps it in step. -/
def updateAdditions (tag : StartTag) (binding : Binding) : List Addition :=
  match binding.name with
  | .computed _ => []
  | .fixed base =>
    if isWrittenElsewhere tag base = false ∧ binding.modifiers.contains "sync" then
      [⟨"update:" ++ camelize base,
        eventFunction (assignment binding.value.trimmed "$event"), false⟩]
    else []

theorem AttributeData.listeners_addBinding (tag : StartTag) (data : AttributeData)
    (binding : Binding) :
    (data.addBinding tag binding).listeners =
      data.listeners.addAll (updateAdditions tag binding) [] := by
  have added := adds tag data binding
  generalize data.addBinding tag binding = more at added
  have here {base : String} (fixed : binding.name = .fixed base)
      (here : isWrittenElsewhere tag base = false) :
      synced binding base data.listeners =
        data.listeners.addAll (updateAdditions tag binding) [] := by
    rw [updateAdditions, fixed]
    unfold synced
    by_cases sync : binding.modifiers.contains "sync" = true
    · dsimp only
      rw [if_pos sync, if_pos ⟨here, sync⟩, ← Listeners.add_eq_addAll]
      rfl
    · dsimp only
      rw [if_neg sync, if_neg (fun both => sync both.2), Listeners.addAll_nil]
  cases added with
  | computed dynamic => simp [updateAdditions, dynamic, Listeners.addAll_nil]
  | elsewhere fixed elsewhere =>
      simp [updateAdditions, fixed, elsewhere, Listeners.addAll_nil]
  | asProperty fixed isHere => exact here fixed isHere
  | asAttribute fixed isHere => exact here fixed isHere

/-- What a listener adds, if the name of its event is written out. -/
def listenerAdditions (listener : Listener) : List Addition :=
  match listener.name with
  | .fixed name =>
    [⟨eventMarks listener.modifiers ++ name, listenerHandler listener, false⟩]
  | .computed _ => []

/-- What a listener adds, if the name of its event is computed. -/
def computedListeners (listener : Listener) : List (String × String) :=
  match listener.name with
  | .fixed _ => []
  | .computed code =>
    let marks := eventMarks listener.modifiers
    [(if marks.isEmpty then trimmed code else "_p(" ++ trimmed code ++ ",\"" ++
      marks ++ "\")", listenerHandler listener)]

theorem Listeners.addListener_eq_addAll (listeners : Listeners) (listener : Listener) :
    listeners.addListener listener =
      listeners.addAll (listenerAdditions listener) (computedListeners listener) := by
  cases named : listener.name with
  | fixed name =>
      simp only [addListener, listenerAdditions, computedListeners, named]
      rw [← add_eq_addAll, listenerHandler, named]
      rfl
  | computed code =>
      simp only [addListener, listenerAdditions, computedListeners,
        listenerHandler, named]
      rfl

/-! ## The listeners of an element -/

/-- The additions of the two-way bindings of an element. -/
def modelsOf (tag : StartTag) : List Addition :=
  tag.directives.flatMap (modelAdditions tag)

/-- The additions of the bindings of an element that are kept in step. -/
def updatesOf (tag : StartTag) : List Addition :=
  tag.props.flatMap (updateAdditions tag)

/-- The listeners of an element, or those for the native events of a component. -/
def listenersOf (tag : StartTag) (native : Bool) : List Listener :=
  tag.listeners.filter fun listener => isNative tag listener == native

section

variable (tag : StartTag)

theorem directives_listeners :
    (DirectiveData.ofTag tag).listeners =
      ({} : Listeners).addAll (modelsOf tag) [] := by
  have all := listeners_foldl (DirectiveData.listeners_add tag) tag.directives {}
  rw [List.flatMap_eq_nil_iff.mpr (fun _ _ => rfl)] at all
  exact all

theorem attributes_listeners :
    (attributeData tag).listeners =
      ({} : Listeners).addAll (modelsOf tag ++ updatesOf tag) [] := by
  have all := listeners_foldl (AttributeData.listeners_addBinding tag) tag.props {
    attributes := constantAttributes tag
    properties := (DirectiveData.ofTag tag).properties
    listeners := (DirectiveData.ofTag tag).listeners }
  refine all.trans ?_
  rw [directives_listeners, Listeners.addAll_addAll,
    List.flatMap_eq_nil_iff.mpr (fun _ _ => rfl)]
  rfl

theorem foldl_addListener (items : List Listener) (listeners : Listeners) :
    items.foldl Listeners.addListener listeners =
      listeners.addAll (items.flatMap listenerAdditions)
        (items.flatMap computedListeners) :=
  @listeners_foldl _ _ id _ _ _ Listeners.addListener_eq_addAll items listeners

theorem onListeners_eq_addAll :
    onListeners tag = ({} : Listeners).addAll
      (modelsOf tag ++ updatesOf tag ++
        (listenersOf tag false).flatMap listenerAdditions)
      ((listenersOf tag false).flatMap computedListeners) := by
  have own : (tag.listeners.filter fun listener => !isNative tag listener) =
      listenersOf tag false :=
    List.filter_congr fun listener _ => by cases isNative tag listener <;> rfl
  rw [onListeners, own, foldl_addListener, attributes_listeners,
    Listeners.addAll_addAll]
  rfl

theorem nativeListeners_eq_addAll :
    nativeListeners tag = ({} : Listeners).addAll
      ((listenersOf tag true).flatMap listenerAdditions)
      ((listenersOf tag true).flatMap computedListeners) := by
  have native : tag.listeners.filter (isNative tag) = listenersOf tag true :=
    List.filter_congr fun listener _ => by cases isNative tag listener <;> rfl
  rw [nativeListeners, native, foldl_addListener]

end

/-- The handlers of an object, which were added in rounds: each event has one key,
in the order of first use, with the handlers of the first round in front, and
those of the others behind them as they were added. -/
structure Listeners.IsGrouped (listeners : Listeners)
    (first second third : List Addition)
    (computed : List (String × String)) : Prop where
  named : listeners.named = (Addition.names (first ++ second ++ third)).map fun name =>
    (name, Addition.handlers first name ++ Addition.handlersOf false second name ++
      Addition.handlersOf false third name)
  once : (listeners.named.map Prod.fst).Nodup
  computed : listeners.computed = computed

/-- Nothing of some additions is important. -/
def Addition.Plain (additions : List Addition) : Prop :=
  ∀ addition ∈ additions, addition.important = false

theorem Addition.handlersOf_important {additions : List Addition}
    (plain : Plain additions) (name : String) :
    handlersOf true additions name = [] := by
  rw [handlersOf, List.map_eq_nil_iff, List.filter_eq_nil_iff]
  intro addition member
  simp [plain addition member]

theorem plain_updatesOf (tag : StartTag) : Addition.Plain (updatesOf tag) := by
  intro addition member
  obtain ⟨binding, _, isAdded⟩ := List.mem_flatMap.mp member
  unfold updateAdditions at isAdded
  split at isAdded
  · contradiction
  · split at isAdded
    · rw [List.mem_singleton.mp isAdded]
    · contradiction

theorem plain_listeners (items : List Listener) :
    Addition.Plain (items.flatMap listenerAdditions) := by
  intro addition member
  obtain ⟨listener, _, isAdded⟩ := List.mem_flatMap.mp member
  unfold listenerAdditions at isAdded
  split at isAdded
  · rw [List.mem_singleton.mp isAdded]
  · contradiction

theorem isGrouped_addAll {first second third : List Addition}
    (plain : Addition.Plain second) (plainToo : Addition.Plain third)
    (computed : List (String × String)) :
    (({} : Listeners).addAll (first ++ second ++ third) computed).IsGrouped
      first second third
      computed := by
  have named : (({} : Listeners).addAll (first ++ second ++ third) computed).named =
      Addition.grouped (first ++ second ++ third) := Addition.foldl_enter _
  refine ⟨?_, ?_, List.nil_append computed⟩
  · rw [named, Addition.grouped]
    refine List.map_congr_left fun name _ => ?_
    simp only [Addition.handlers, Addition.handlersOf_append,
      Addition.handlersOf_important plain, Addition.handlersOf_important plainToo,
      List.append_nil, List.append_assoc]
  · rw [named, Addition.grouped, List.map_map]
    exact (List.map_id' _).symm ▸ Addition.nodup_names _

/-! ## The listeners in the code of an element -/

/-- The fields of the data of an element for its handlers and for those of
native events.  They are left out where there are none, no other field begins
as they do, and the object of all fields stands in the code of the element in
front of its children. -/
structure HasListenerFields (tag : StartTag) (inLoop : Bool)
    (scopedSlots : Option String) (on nativeOn : Listeners) : Prop where
  parts : ∃ before after, dataFields tag (DirectiveData.ofTag tag) inLoop scopedSlots =
      before ++ fieldUnless on.isEmpty ("on:" ++ on.code) ++
        fieldUnless nativeOn.isEmpty ("nativeOn:" ++ nativeOn.code) ++ after ∧
    ∀ field ∈ before ++ after,
      ¬ "on:".toList <+: field.toList ∧ ¬ "nativeOn:".toList <+: field.toList
  inHead : dataFields tag (DirectiveData.ofTag tag) inLoop scopedSlots ≠ [] →
    Occurs (object (dataFields tag (DirectiveData.ofTag tag) inLoop scopedSlots))
      (elementHead tag (dataObject? tag inLoop scopedSlots))

theorem IsLabelled.noListeners {labels : List String} {field : String}
    (isLabelled : IsLabelled labels field)
    (others : ∀ text ∈ ["on:", "nativeOn:"], ∀ label ∈ labels,
      ¬ label.toList <+: text.toList ∧ ¬ text.toList <+: label.toList) :
    ¬ "on:".toList <+: field.toList ∧ ¬ "nativeOn:".toList <+: field.toList :=
  ⟨isLabelled.not_isPrefix (others _ (by simp)),
    isLabelled.not_isPrefix (others _ (by simp))⟩

/-- The fields in front of those for handlers. -/
def fieldsBefore (tag : StartTag) (inLoop : Bool) : List String :=
  fieldUnless (DirectiveData.ofTag tag).descriptors.isEmpty
      ("directives:" ++ array (DirectiveData.ofTag tag).descriptors)
    ++ keyField tag
    ++ refFields tag inLoop
    ++ (if (computedTag? tag).isSome then ["tag:\"component\""] else [])
    ++ appearanceFields tag
    ++ fieldUnless ((attributeData tag).attributes.isEmpty &&
      (attributeData tag).computed.isEmpty) ("attrs:" ++
        withComputedKeys (object (attributeData tag).attributes)
          (attributeData tag).computed)
    ++ fieldUnless (attributeData tag).properties.isEmpty
      ("domProps:" ++ object (attributeData tag).properties)

/-- The fields behind those for handlers. -/
def fieldsBehind (tag : StartTag) (scopedSlots : Option String) : List String :=
  scopedSlots.elim (slotField tag) ([·]) ++ (DirectiveData.ofTag tag).model.toList

section

variable (tag : StartTag) (inLoop : Bool)

theorem dataFields_eq_append (scopedSlots : Option String) :
    dataFields tag (DirectiveData.ofTag tag) inLoop scopedSlots =
      fieldsBefore tag inLoop
        ++ fieldUnless (onListeners tag).isEmpty ("on:" ++ (onListeners tag).code)
        ++ fieldUnless (nativeListeners tag).isEmpty ("nativeOn:" ++
          (nativeListeners tag).code)
        ++ fieldsBehind tag scopedSlots := by
  rw [fieldsBehind, ← List.append_assoc]
  cases scopedSlots <;> rfl

variable {tag inLoop}

theorem noListeners_fieldsBefore {field : String}
    (member : field ∈ fieldsBefore tag inLoop) :
    ¬ "on:".toList <+: field.toList ∧ ¬ "nativeOn:".toList <+: field.toList := by
  simp only [fieldsBefore, List.mem_append] at member
  rcases member with
    (((((isField | isField) | isField) | isField) | isField) | isField) | isField
  · exact (isLabelled_fieldUnless isField).noListeners (by decide)
  · exact (isLabelled_keyField isField).noListeners (by decide)
  · exact (isLabelled_refFields isField).noListeners (by decide)
  · exact (isLabelled_tagField isField).noListeners (by decide)
  · exact (isLabelled_appearanceFields isField).noListeners (by decide)
  · exact (isLabelled_fieldUnless isField).noListeners (by decide)
  · exact (isLabelled_fieldUnless isField).noListeners (by decide)

theorem noListeners_fieldsBehind {scopedSlots : Option String}
    (ofSlots : IsSlotsCode scopedSlots)
    {field : String} (member : field ∈ fieldsBehind tag scopedSlots) :
    ¬ "on:".toList <+: field.toList ∧ ¬ "nativeOn:".toList <+: field.toList := by
  rcases List.mem_append.mp member with isField | isModel
  · cases scopedSlots with
    | none => exact (isLabelled_slotField isField).noListeners (by decide)
    | some code =>
        rw [List.mem_singleton.mp isField]
        exact (isLabelled_slots ofSlots rfl).noListeners (by decide)
  · exact (isLabelled_model isModel).noListeners (by decide)

theorem hasListenerFields {scopedSlots : Option String}
    (ofSlots : IsSlotsCode scopedSlots) :
    HasListenerFields tag inLoop scopedSlots (onListeners tag)
      (nativeListeners tag) := by
  refine ⟨⟨_, _, dataFields_eq_append tag inLoop scopedSlots, fun field member => ?_⟩,
    fun more => ?_⟩
  · exact (List.mem_append.mp member).elim noListeners_fieldsBefore
      (noListeners_fieldsBehind ofSlots)
  · obtain ⟨data, same, inData⟩ := exists_dataObject_of_ne_nil more
    exact occurs_data same inData

end

/-- Handlers are grouped by their events: the events stand in the order of first
use, and each has its important handlers, the last one first, and then the others
in order.  So in the objects of an element each event has one key, with the
handlers of two-way bindings in front, those that keep bindings in step behind
them, and then the listeners, each kind in its order. -/
theorem listeners_areGrouped :
    (∀ additions : List Addition,
      (additions.foldl Listeners.add {}).named =
        (Addition.names additions).map (fun name =>
          (name, Addition.handlers additions name)) ∧
      (Addition.names additions).Nodup) ∧
    ∀ {inLoop : Bool} {tag : StartTag} {children : List Node} {slots :
      List Slot} {span : Span}
        {code : String}, tag.name ≠ "template" →
        nodeCode inLoop (.element tag children slots span) = .ok code →
        ∃ on nativeOn scopedSlots given,
          on.IsGrouped (modelsOf tag) (updatesOf tag)
            ((listenersOf tag false).flatMap listenerAdditions)
            ((listenersOf tag false).flatMap computedListeners) ∧
          nativeOn.IsGrouped [] [] ((listenersOf tag true).flatMap listenerAdditions)
            ((listenersOf tag true).flatMap computedListeners) ∧
          code = elementCode tag (dataObject? tag inLoop scopedSlots) given ∧
          HasListenerFields tag inLoop scopedSlots on nativeOn := by
  constructor
  · intro additions
    rw [Listeners.foldl_add]
    exact ⟨Addition.foldl_enter additions, Addition.nodup_names additions⟩
  · intro inLoop tag children slots span code named generated
    obtain ⟨entries, given, _, _, same⟩ := of_nodeCode_element named generated
    refine ⟨onListeners tag, nativeListeners tag, _, given, ?_, ?_, same,
      hasListenerFields (isSlotsCode slots entries)⟩
    · rw [onListeners_eq_addAll]
      exact isGrouped_addAll (plain_updatesOf tag) (plain_listeners _) _
    · rw [nativeListeners_eq_addAll]
      exact @isGrouped_addAll [] [] _ (fun _ none => absurd none List.not_mem_nil)
        (plain_listeners _) _

/-- A two-way binding, a binding in step and listeners that share their events: on
a form element, and on a component with listeners for native events. -/
theorem shared_events_grouped :
    let input : StartTag := .ofSource "input" [⟨"@input".toList, some ("d", ⟨7, 17⟩),
      ⟨7, 17⟩⟩, ⟨":b.sync".toList, some ("c", ⟨18, 29⟩), ⟨18, 29⟩⟩,
      ⟨"v-model.trim".toList, some ("a", ⟨30, 46⟩), ⟨30, 46⟩⟩,
      ⟨"@blur".toList, some ("e", ⟨47, 56⟩), ⟨47, 56⟩⟩,
      ⟨"@input".toList, some ("f", ⟨57, 67⟩), ⟨57, 67⟩⟩]
    let component : StartTag := .ofSource "my-c" [
      ⟨"@click.native".toList, some ("d", ⟨6, 23⟩), ⟨6, 23⟩⟩,
      ⟨":b.sync".toList, some ("c", ⟨24, 35⟩), ⟨24, 35⟩⟩,
      ⟨"@update:b".toList, some ("a", ⟨36, 49⟩), ⟨36, 49⟩⟩,
      ⟨"@click.native".toList, some ("e", ⟨50, 67⟩), ⟨50, 67⟩⟩]
    let inputCode :=
      "_c('input',\x7bdirectives:[\x7bname:\"model\",rawName:\"v-model.trim\"," ++
        "value:(a),expression:\"a\",modifiers:\x7b\"trim\":true\x7d\x7d],attrs:\x7b\"b\":c\x7d," ++
        "domProps:\x7b\"value\":(a)\x7d,on:\x7b\"input\":[function($event)\x7b" ++
        "if($event.target.composing)return;a=$event.target.value.trim()\x7d,d,f]," ++
        "\"blur\":[function($event)\x7breturn $forceUpdate()\x7d,e]," ++
        "\"update:b\":function($event)\x7bc=$event\x7d\x7d\x7d)"
    let componentCode := "_c('my-c',\x7battrs:\x7b\"b\":c\x7d,on:\x7b\"update:b\":[" ++
      "function($event)\x7bc=$event\x7d,a]\x7d,nativeOn:\x7b\"click\":[d,e]\x7d\x7d)"
    input.name ≠ "template" ∧
      nodeCode false (.element input [] [] ⟨0, 68⟩) = .ok inputCode ∧
      component.name ≠ "template" ∧
      nodeCode false (.element component [] [] ⟨0, 68⟩) = .ok componentCode ∧
      (∃ on nativeOn scopedSlots,
        HasListenerFields input false scopedSlots on nativeOn ∧
        on.named.map Prod.fst = ["input", "blur", "update:b"] ∧ nativeOn.named = []) ∧
      ∃ on nativeOn scopedSlots,
        HasListenerFields component false scopedSlots on nativeOn ∧
        on.named = [("update:b", ["function($event)\x7bc=$event\x7d", "a"])] ∧
        nativeOn.named = [("click", ["d", "e"])] := by
  intro input component inputCode componentCode
  have inputGenerated :
      nodeCode false (.element input [] [] ⟨0, 68⟩) = .ok inputCode := by
    decide +kernel
  have componentGenerated :
      nodeCode false (.element component [] [] ⟨0, 68⟩) = .ok componentCode := by
    decide +kernel
  refine ⟨by decide, inputGenerated, by decide, componentGenerated, ?_, ?_⟩
  · obtain ⟨on, nativeOn, scopedSlots, _, grouped, native, _, fields⟩ :=
      listeners_areGrouped.2 (by decide) inputGenerated
    refine ⟨on, nativeOn, scopedSlots, fields, ?_, ?_⟩
    · rw [grouped.named]
      decide +kernel
    · rw [native.named]
      decide +kernel
  · obtain ⟨on, nativeOn, scopedSlots, _, grouped, native, _, fields⟩ :=
      listeners_areGrouped.2 (by decide) componentGenerated
    refine ⟨on, nativeOn, scopedSlots, fields, ?_, ?_⟩
    · rw [grouped.named]
      decide +kernel
    · rw [native.named]
      decide +kernel

end VuePrecompiler.Render
