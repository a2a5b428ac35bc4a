import VuePrecompiler.Proofs.AccessPaths
import VuePrecompiler.Render.Style
import VuePrecompiler.Render.Directive
import VuePrecompiler.Render.Model
import VuePrecompiler.Text.Camel

/-!
# Balanced parts of data objects

The parts that are made for one attribute, listener or directive are balanced
if the code that they are made of is: groups of listeners, handlers with their
guards, descriptors of directives, two-way bindings and style objects.  What
stands in quotes as it is must be quotable.
-/

namespace VuePrecompiler.Render

open Template Text Javascript

/-! ## Objects and arrays -/

theorem isBalanced_array {items : List String}
    (each : ∀ item ∈ items, IsBalanced item) : IsBalanced (array items) := by
  unfold array
  simp only [String.append_assoc]
  exact .fixed_append rfl <| .balanced_append (.intercalate (.fixed rfl) each) <|
    .fixed rfl

theorem isBalanced_object {fields : List String}
    (each : ∀ field ∈ fields, IsBalanced field) : IsBalanced (object fields) := by
  unfold object
  simp only [String.append_assoc]
  exact .fixed_append rfl <| .balanced_append (.intercalate (.fixed rfl) each) <|
    .fixed rfl

/-- A field with a quoted name. -/
theorem isBalanced_field {name value : String} (quotable : IsQuotable name)
    (balanced : IsBalanced value) : IsBalanced ("\"" ++ name ++ "\":" ++ value) := by
  simp only [String.append_assoc]
  exact .fixed_append rfl <| .quotable_append quotable <| .fixed_append rfl balanced

theorem isBalanced_withComputedKeys {fields : String}
    {computed : List (String × String)} (balanced : IsBalanced fields)
    (each : ∀ entry ∈ computed, IsBalanced entry.1 ∧ IsBalanced entry.2) :
    IsBalanced (withComputedKeys fields computed) := by
  unfold withComputedKeys
  split
  · exact balanced
  · have entries : ∀ item ∈ computed.map fun entry => entry.1 ++ "," ++ entry.2,
        IsBalanced item := by
      intro item member
      obtain ⟨entry, given, rfl⟩ := List.mem_map.mp member
      obtain ⟨key, value⟩ := each entry given
      exact (key.append (.fixed rfl)).append value
    have listed := isBalanced_array entries
    rw [String.append_assoc, String.append_assoc, String.append_assoc]
    exact .fixed_append rfl <| .balanced_append balanced <| .fixed_append rfl <|
      .balanced_append listed <| .fixed rfl

theorem isQuotable_toUpper {c : Char} (quotable : isQuotable c = true) :
    isQuotable c.toUpper = true := by
  by_cases small : c.toNat < 128
  · have all : ∀ code < 128, isQuotable (Char.ofNat code) = true →
        isQuotable (Char.ofNat code).toUpper = true := by
      decide +kernel
    rw [← Char.ofNat_toNat c] at quotable ⊢
    exact all c.toNat small quotable
  · have noLetter : ¬('a'.val ≤ c.val ∧ c.val ≤ 'z'.val) := by
      rintro ⟨_, upTo⟩
      have bound : c.toNat ≤ 122 := UInt32.le_iff_toNat_le.mp upTo
      omega
    rwa [show c.toUpper = c from dif_neg noLetter]

theorem isQuotable_camelizeFrom {text : List Char}
    (quotable : ∀ c ∈ text, isQuotable c = true)
    (raised : Bool) : ∀ c ∈ camelizeFrom raised text, isQuotable c = true := by
  induction text generalizing raised with
  | nil => exact List.forall_mem_nil _
  | cons first rest induction =>
      obtain ⟨here, behind⟩ := List.forall_mem_cons.mp quotable
      rw [camelizeFrom]
      split
      · exact induction behind true
      · refine List.forall_mem_cons.mpr ⟨?_, induction behind false⟩
        split
        · exact isQuotable_toUpper here
        · exact here

theorem isQuotable_camelize {name : String} (quotable : IsQuotable name) :
    IsQuotable (camelize name) := by
  rw [IsQuotable, camelize, String.toList_ofList]
  exact isQuotable_camelizeFrom quotable false

/-! ## Listeners -/

/-- Names that can be quoted, and balanced handlers. -/
structure Listeners.AreBalanced (listeners : Listeners) : Prop where
  named : ∀ entry ∈ listeners.named,
    IsQuotable entry.1 ∧ ∀ handler ∈ entry.2, IsBalanced handler
  computed : ∀ entry ∈ listeners.computed, IsBalanced entry.1 ∧ IsBalanced entry.2

namespace Listeners

variable {listeners : Listeners} {name handler : String}

theorem areBalanced_empty : Listeners.AreBalanced {} where
  named _ member := nomatch member
  computed _ member := nomatch member

theorem mem_change {name : String} {f : List String → List String}
    {groups : List (String × List String)} {entry : String × List String}
    (member : entry ∈ change name f groups) : entry ∈ groups ∨
      entry = (name, f []) ∨ ∃ handlers, (entry.1, handlers) ∈ groups ∧
        entry.2 = f handlers := by
  induction groups with
  | nil => exact .inr (.inl (List.mem_singleton.mp member))
  | cons group rest induction =>
      rw [change] at member
      split at member
      · rcases List.mem_cons.mp member with rfl | later
        · exact .inr (.inr ⟨group.2, List.mem_cons_self, rfl⟩)
        · exact .inl (List.mem_cons_of_mem _ later)
      · rcases List.mem_cons.mp member with rfl | later
        · exact .inl List.mem_cons_self
        · rcases induction later with same | added | ⟨handlers, given, changed⟩
          · exact .inl (List.mem_cons_of_mem _ same)
          · exact .inr (.inl added)
          · exact .inr (.inr ⟨handlers, List.mem_cons_of_mem _ given, changed⟩)

namespace AreBalanced

theorem change (balanced : listeners.AreBalanced) (quotable : IsQuotable name)
    {f : List String → List String}
    (keeps : ∀ handlers, (∀ handler ∈ handlers, IsBalanced handler) →
      ∀ handler ∈ f handlers, IsBalanced handler) :
    ({ listeners with named := Listeners.change name f listeners.named } :
      Listeners).AreBalanced where
  named := by
    intro entry member
    rcases mem_change member with same | rfl | ⟨handlers, given, changed⟩
    · exact balanced.named entry same
    · exact ⟨quotable, keeps [] fun _ none => nomatch none⟩
    · obtain ⟨quotableName, each⟩ := balanced.named _ given
      rw [changed]
      exact ⟨quotableName, keeps handlers each⟩
  computed := balanced.computed

theorem addLast (balanced : listeners.AreBalanced) (quotable : IsQuotable name)
    (runs : IsBalanced handler) : (listeners.addLast name handler).AreBalanced := by
  refine balanced.change quotable fun handlers each => ?_
  exact List.forall_mem_append.mpr ⟨each, List.forall_mem_singleton.mpr runs⟩

theorem addFirst (balanced : listeners.AreBalanced) (quotable : IsQuotable name)
    (runs : IsBalanced handler) : (listeners.addFirst name handler).AreBalanced :=
  balanced.change quotable fun _ each => List.forall_mem_cons.mpr ⟨runs, each⟩

theorem addComputed (balanced : listeners.AreBalanced) (code : IsBalanced name)
    (runs : IsBalanced handler) :
    (listeners.addComputed name handler).AreBalanced where
  named := balanced.named
  computed := List.forall_mem_append.mpr
    ⟨balanced.computed, List.forall_mem_singleton.mpr ⟨code, runs⟩⟩

theorem code (balanced : listeners.AreBalanced) : IsBalanced listeners.code := by
  refine isBalanced_withComputedKeys (isBalanced_object fun field member => ?_)
    balanced.computed
  obtain ⟨⟨name, handlers⟩, given, rfl⟩ := List.mem_map.mp member
  obtain ⟨quotable, each⟩ := balanced.named _ given
  refine isBalanced_field quotable ?_
  unfold handlersCode
  split
  · exact each _ List.mem_cons_self
  · exact isBalanced_array each

end AreBalanced

end Listeners

/-! ## Handlers -/

theorem isBalanced_eventFunction {body : String} (balanced : IsBalanced body) :
    IsBalanced (eventFunction body) := by
  unfold eventFunction
  simp only [String.append_assoc]
  exact .fixed_append rfl <| .balanced_append balanced <| .fixed rfl

theorem keyModifiers_fit : ∀ entry ∈ keyModifiers,
    IsQuotable entry.1 ∧ IsBalanced entry.2.1 ∧ IsBalanced entry.2.2 := by
  intro entry member
  unfold keyModifiers at member
  simp only [List.mem_cons, List.not_mem_nil, or_false] at member
  rcases member with rfl | rfl | rfl | rfl | rfl | rfl | rfl | rfl | rfl
  all_goals exact ⟨.fixed rfl, .fixed rfl, .fixed rfl⟩

theorem isBalanced_keyFilter (key : String) : IsBalanced (keyFilter key) := by
  unfold keyFilter
  split
  · exact .fixed_append rfl (IsBalanced.number _)
  · split
    · next code names found =>
      have listed : (key, code, names) ∈ keyModifiers := by
        obtain ⟨before, after, parts, _⟩ := List.lookup_eq_some_iff.mp found
        rw [parts]
        exact List.mem_append_right _ List.mem_cons_self
      obtain ⟨quotable, codeBalanced, namesBalanced⟩ := keyModifiers_fit _ listed
      simp only [String.append_assoc]
      exact .fixed_append rfl <| .quotable_append quotable <| .fixed_append rfl <|
        .balanced_append codeBalanced <| .fixed_append rfl <|
        .balanced_append namesBalanced <| .fixed rfl
    · simp only [String.append_assoc]
      exact .fixed_append rfl <| .balanced_append (IsBalanced.literal key) <|
        .fixed rfl

def Guard.IsBalanced : Guard → Prop
  | .statement code => Javascript.IsBalanced code
  | .key condition => Javascript.IsBalanced condition
  | .nothing => True

theorem isBalanced_buttonGuard (button : Nat) : (buttonGuard button).IsBalanced := by
  unfold buttonGuard Guard.IsBalanced
  simp only [String.append_assoc]
  exact .fixed_append rfl <| .balanced_append (IsBalanced.number button) <| .fixed rfl

theorem isBalanced_ofModifier (onKeys : Bool) (modifier : String) :
    (Guard.ofModifier onKeys modifier).IsBalanced := by
  unfold Guard.ofModifier
  split
  · exact Leads.fixed rfl
  split
  · exact Leads.fixed rfl
  split
  · exact Leads.fixed rfl
  split
  · next system =>
    have known : modifier ∈ ["ctrl", "shift", "alt", "meta"] :=
      List.contains_iff_mem.mp system
    have named : IsBalanced modifier := by
      simp only [List.mem_cons, List.not_mem_nil, or_false] at known
      rcases known with rfl | rfl | rfl | rfl
      all_goals exact .fixed rfl
    show IsBalanced _
    rw [String.append_assoc]
    exact .fixed_append rfl <| .balanced_append named <| .fixed rfl
  split
  · exact isBalanced_buttonGuard 1
  split
  · exact isBalanced_buttonGuard 0
  split
  · exact isBalanced_buttonGuard 2
  split
  · trivial
  · exact isBalanced_keyFilter modifier

theorem isBalanced_guards (modifiers : List String) (event : String) :
    IsBalanced (guards modifiers event) := by
  unfold guards
  lift_lets
  intro all keys statements filter
  have each : ∀ guard ∈ all, guard.IsBalanced := by
    intro guard member
    obtain ⟨modifier, _, rfl⟩ := List.mem_map.mp member
    exact isBalanced_ofModifier _ modifier
  have keysBalanced : ∀ condition ∈ keys, IsBalanced condition := by
    intro condition member
    obtain ⟨guard, given, found⟩ := List.mem_filterMap.mp member
    split at found
    · cases found
      exact each _ given
    · contradiction
  have statementsBalanced : ∀ code ∈ statements, IsBalanced code := by
    intro code member
    obtain ⟨guard, given, found⟩ := List.mem_filterMap.mp member
    split at found
    · cases found
      exact each _ given
    · contradiction
  have filterBalanced : IsBalanced filter := by
    refine IsBalanced.ite .empty ?_
    rw [String.append_assoc]
    exact .fixed_append rfl <| .balanced_append
      (IsBalanced.intercalate (.fixed rfl) keysBalanced) <| .fixed rfl
  exact filterBalanced.append (.join statementsBalanced)

/-- Handlers and their guards make balanced functions, whatever their shape. -/
theorem isBalanced_handlerFunction {handler : String} (balanced : IsBalanced handler)
    (modifiers : List String) (event : String) :
    IsBalanced (handlerFunction handler modifiers event) := by
  have trimmed : IsBalanced (String.ofList (trim handler.toList)) := balanced.trimmed
  have guarded := isBalanced_guards modifiers event
  have returned : IsBalanced ("return " ++ String.ofList (trim handler.toList)) :=
    .fixed_append rfl trimmed
  unfold handlerFunction
  dsimp only
  split
  · exact isBalanced_eventFunction guarded
  split
  · split
    · exact trimmed
    split
    · exact isBalanced_eventFunction returned
    · exact isBalanced_eventFunction trimmed
  split
  · refine isBalanced_eventFunction ?_
    rw [String.append_assoc, String.append_assoc]
    exact .balanced_append guarded <| .fixed_append rfl <|
      .balanced_append trimmed <| .fixed rfl
  split
  · refine isBalanced_eventFunction ?_
    rw [String.append_assoc, String.append_assoc]
    exact .balanced_append guarded <| .fixed_append rfl <|
      .balanced_append trimmed <| .fixed rfl
  split
  · refine isBalanced_eventFunction ?_
    rw [String.append_assoc]
    exact guarded.append returned
  · exact isBalanced_eventFunction (guarded.append trimmed)

theorem isQuotable_eventMarks (modifiers : List String) :
    IsQuotable (eventMarks modifiers) := by
  have mark {chosen : Bool} {text : String} (quotable : IsQuotable text) :
      IsQuotable (if chosen then text else "") :=
    .ite quotable (.fixed rfl)
  exact ((mark (.fixed rfl)).append (mark (.fixed rfl))).append (mark (.fixed rfl))

/-! ## Directives -/

theorem isBalanced_directiveValue? {directive : Directive} {value : String}
    (balanced : ∀ code ∈ directive.value, IsBalanced code.content)
    (given : directiveValue? directive = some value) : IsBalanced value := by
  obtain ⟨code, filtered, rfl⟩ := Option.map_eq_some_iff.mp given
  exact (balanced code (Option.filter_eq_some_iff.mp filtered).1).trimmed

/-- The descriptor of a directive holds its names and values as
literals and its code. -/
theorem isBalanced_directiveObject {directive : Directive}
    (quotable : IsQuotable directive.name)
    (balanced : ∀ code ∈ directive.value, IsBalanced code.content)
    (computed : ∀ code, directive.argument = some (.computed code) → IsBalanced code) :
    IsBalanced (directiveObject directive) := by
  refine isBalanced_object ?_
  refine List.forall_mem_append.mpr ⟨List.forall_mem_append.mpr
    ⟨List.forall_mem_append.mpr
      ⟨List.forall_mem_cons.mpr ⟨?_, List.forall_mem_singleton.mpr ?_⟩, ?_⟩, ?_⟩, ?_⟩
  · rw [String.append_assoc]
    exact .fixed_append rfl <| .quotable_append quotable <| .fixed rfl
  · exact .fixed_append rfl (IsBalanced.literal _)
  · split
    · next value given =>
      have code := isBalanced_directiveValue? balanced given
      refine List.forall_mem_cons.mpr ⟨?_, List.forall_mem_singleton.mpr ?_⟩
      · rw [String.append_assoc]
        exact .fixed_append rfl <| .balanced_append code <| .fixed rfl
      · exact .fixed_append rfl (IsBalanced.literal _)
    · exact List.forall_mem_nil _
  · split
    · next argument given =>
      refine List.forall_mem_singleton.mpr (.fixed_append rfl ?_)
      cases argument with
      | fixed name => exact IsBalanced.literal name
      | computed code => exact (computed code given).trimmed
    · exact List.forall_mem_nil _
  · split
    · exact List.forall_mem_nil _
    · refine List.forall_mem_singleton.mpr (.fixed_append rfl ?_)
      refine isBalanced_object fun entry member => ?_
      obtain ⟨modifier, _, rfl⟩ := List.mem_map.mp member
      exact (IsBalanced.literal modifier).append (.fixed rfl)

/-! ## Two-way bindings -/

section Models

variable {value binding : String}

theorem isBalanced_asNumber {code : String} (number : Bool)
    (balanced : IsBalanced code) : IsBalanced (asNumber number code) := by
  unfold asNumber
  split
  · rw [String.append_assoc]
    exact .fixed_append rfl <| .balanced_append balanced <| .fixed rfl
  · exact balanced

theorem isBalanced_componentModel (modifiers : List String)
    (balanced : IsBalanced value) (isPath : IsAccessPath (trim value.toList)) :
    IsBalanced (componentModel modifiers value) := by
  unfold componentModel
  lift_lets
  intro trimmed assigned
  have trimmedBalanced : IsBalanced trimmed := IsBalanced.ite (.fixed rfl) (.fixed rfl)
  have assignedBalanced : IsBalanced assigned := isBalanced_asNumber _ trimmedBalanced
  have stored := isBalanced_assignment isPath assignedBalanced
  refine .fixed_append rfl <| isBalanced_object ?_
  refine List.forall_mem_cons.mpr ⟨?_, List.forall_mem_cons.mpr ⟨?_,
    List.forall_mem_singleton.mpr ?_⟩⟩
  · rw [String.append_assoc]
    exact .fixed_append rfl <| .balanced_append balanced <| .fixed rfl
  · rw [String.append_assoc]
    exact .fixed_append rfl <| .balanced_append stored <| .fixed rfl
  · exact .fixed_append rfl (IsBalanced.literal _)

structure NativeModel.IsBalanced (model : NativeModel) : Prop where
  properties : ∀ field ∈ model.properties, Javascript.IsBalanced field
  event : IsQuotable model.event
  handler : Javascript.IsBalanced model.handler

theorem isBalanced_selectModel (number : Bool)
    (isPath : IsAccessPath (trim value.toList)) :
    (selectModel number value).IsBalanced where
  properties _ none := nomatch none
  event := .fixed rfl
  handler := by
    unfold selectModel
    lift_lets
    intro item selected
    have itemBalanced : IsBalanced item := isBalanced_asNumber number (.fixed rfl)
    have selectedBalanced : IsBalanced selected := by
      show IsBalanced (_ ++ _)
      rw [String.append_assoc, String.append_assoc]
      exact .fixed_append rfl <| .fixed_append rfl <|
        .balanced_append itemBalanced <| .fixed rfl
    refine isBalanced_eventFunction ?_
    rw [String.append_assoc, String.append_assoc]
    exact .fixed_append rfl <| .balanced_append selectedBalanced <|
      .fixed_append rfl <| isBalanced_assignment isPath (.fixed rfl)

theorem isBalanced_checkboxModel (number : Bool) (balanced : IsBalanced value)
    (bound : IsBalanced binding) (isPath : IsAccessPath (trim value.toList)) :
    (checkboxModel number value binding).IsBalanced where
  properties := by
    refine List.forall_mem_singleton.mpr ?_
    simp only [String.append_assoc]
    exact .fixed_append rfl <| .balanced_append balanced <| .fixed_append rfl <|
      .balanced_append balanced <| .fixed_append rfl <| .balanced_append bound <|
      .fixed_append rfl <| .balanced_append balanced <| .fixed rfl
  event := .fixed rfl
  handler := by
    have item := isBalanced_asNumber number bound
    have stored {code : String} (fits : IsBalanced code) :
        IsBalanced (assignment value code) :=
      isBalanced_assignment isPath fits
    refine isBalanced_eventFunction ?_
    simp only [String.append_assoc]
    exact .fixed_append rfl <| .balanced_append balanced <| .fixed_append rfl <|
      .fixed_append rfl <| .balanced_append item <| .fixed_append rfl <|
      .balanced_append (stored (.fixed rfl)) <| .fixed_append rfl <|
      .balanced_append (stored (.fixed rfl)) <| .fixed_append rfl <|
      .balanced_append (stored (.fixed rfl)) <| .fixed rfl

theorem isBalanced_radioModel (number : Bool) (balanced : IsBalanced value)
    (bound : IsBalanced binding) (isPath : IsAccessPath (trim value.toList)) :
    (radioModel number value binding).IsBalanced where
  properties := by
    refine List.forall_mem_singleton.mpr ?_
    simp only [String.append_assoc]
    exact .fixed_append rfl <| .balanced_append balanced <| .fixed_append rfl <|
      .balanced_append bound <| .fixed rfl
  event := .fixed rfl
  handler :=
    isBalanced_eventFunction (isBalanced_assignment isPath
      (isBalanced_asNumber _ bound))

theorem isBalanced_textModel (modifiers : List String) (isRange : Bool)
    (balanced : IsBalanced value) (isPath : IsAccessPath (trim value.toList)) :
    (textModel modifiers isRange value).IsBalanced := by
  unfold textModel
  lift_lets
  intro lazy trim number entered store
  have enteredBalanced : IsBalanced entered := IsBalanced.ite (.fixed rfl) (.fixed rfl)
  have storeBalanced : IsBalanced store :=
    isBalanced_assignment isPath (isBalanced_asNumber number enteredBalanced)
  constructor
  · refine List.forall_mem_singleton.mpr ?_
    rw [String.append_assoc]
    exact .fixed_append rfl <| .balanced_append balanced <| .fixed rfl
  · exact IsQuotable.ite (.fixed rfl) (.ite (.fixed rfl) (.fixed rfl))
  · exact isBalanced_eventFunction
      (.ite storeBalanced (.fixed_append rfl storeBalanced))

theorem isBalanced_nativeModel {tag : StartTag} (modifiers : List String)
    (balanced : IsBalanced value) (isPath : IsAccessPath (trim value.toList))
    (bound : IsBalanced (valueBinding tag)) :
    (nativeModel tag modifiers value).IsBalanced := by
  unfold nativeModel
  dsimp only
  split
  · exact isBalanced_selectModel _ isPath
  split
  · exact isBalanced_checkboxModel _ balanced bound isPath
  split
  · exact isBalanced_radioModel _ balanced bound isPath
  · exact isBalanced_textModel modifiers _ balanced isPath

theorem NativeModel.IsBalanced.listen {model : NativeModel}
    (balanced : model.IsBalanced) {listeners : Listeners}
    (given : listeners.AreBalanced) : (model.listen listeners).AreBalanced := by
  have stored := given.addFirst balanced.event balanced.handler
  unfold NativeModel.listen
  dsimp only
  split
  · exact stored.addLast (.fixed rfl) (isBalanced_eventFunction (.fixed rfl))
  · exact stored

end Models

/-! ## Styles -/

theorem isBalanced_styleObject (text : String) : IsBalanced (styleObject text) := by
  refine isBalanced_object fun entry member => ?_
  obtain ⟨⟨property, value⟩, _, rfl⟩ := List.mem_map.mp member
  exact ((IsBalanced.literal property).append (.fixed rfl)).append (.literal value)

end VuePrecompiler.Render
