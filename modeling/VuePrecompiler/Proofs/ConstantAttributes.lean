import VuePrecompiler.Proofs.Quotation
import VuePrecompiler.Proofs.ElementHeads

/-!
# Constant attributes as strings

The value of a constant attribute is written as a string in one of many places:
among the attributes of the element, as its class or its style, in a field of
its own, as its tag, in the two-way binding of a checkbox or a radio button, or
in a slot outlet.  Character references are decoded in some of these places and
stay as they are in the others.  Two places with one value agree unless the
value contains a reference.
-/

namespace VuePrecompiler.Render

open Source Template Text Javascript

/-- A text with one space between its words and none around them. -/
def collapsed (text : String) : String :=
  " ".intercalate ((words text.toList).map String.ofList)

/-- What the constant `type` of an element says. -/
def constantKind? (tag : StartTag) : Option String :=
  (tag.attribute? "type").bind fun attr => attr.value.map AttributeValue.text

/-- An `<input>` whose two-way binding compares with its constant value. -/
structure ComparesConstant (tag : StartTag) (kind : String) (attr : Attribute)
    (directive : Directive) (value : String) : Prop where
  input : tag.name = "input"
  native : tag.isComponent = false
  kind : constantKind? tag = some kind
  unbound : tag.prop? "value" = none
  constant : tag.attribute? "value" = some attr
  member : directive ∈ tag.directives
  model : directive.name = "model"
  value : directiveValue? directive = some value

/-- Where an element writes the text of a constant attribute as a string: whether
the place decodes the text, the text, and what the place makes of a text. -/
inductive WritesConstant (tag : StartTag) (slots : List Slot) :
    Bool → String → (String → String) → Prop where
  | plain {attr : Attribute} :
      attr ∈ tag.attributes → isWrittenElsewhere tag attr.name = false →
      WritesConstant tag slots true attr.text fun text =>
        "\"" ++ attr.name ++ "\":" ++ literal text
  | className {attr : Attribute} : tag.attribute? "class" = some attr →
      WritesConstant tag slots true attr.text fun text =>
        "staticClass:" ++ literal (collapsed text)
  | style {attr : Attribute} : tag.attribute? "style" = some attr →
      WritesConstant tag slots true attr.text fun text =>
        "staticStyle:" ++ styleObject text
  | key {attr : Attribute} :
      tag.prop? "key" = none → tag.attribute? "key" = some attr →
      WritesConstant tag slots false attr.text fun text => "key:" ++ literal text
  | reference {attr : Attribute} :
      tag.prop? "ref" = none → tag.attribute? "ref" = some attr →
      WritesConstant tag slots false attr.text fun text => "ref:" ++ literal text
  /-- An element that names no slot is for the default one. -/
  | slot {attr : Attribute} : slots = [] → tag.prop? "slot" = none →
      tag.attribute? "slot" = some attr →
      WritesConstant tag slots false
        (attr.value.elim "default" AttributeValue.text) fun text =>
          "slot:" ++ literal text
  | tagName {attr : Attribute} : tag.name = "component" → tag.prop? "is" = none →
      tag.attribute? "is" = some attr →
      WritesConstant tag slots false attr.text fun text => "_c(" ++ literal text
  | checkboxCompared {attr : Attribute} {directive : Directive} {value : String} :
      ComparesConstant tag "checkbox" attr directive value →
      WritesConstant tag slots false attr.text fun text =>
        "\"checked\":Array.isArray(" ++ value ++ ")?_i(" ++ value ++ "," ++
          literal text ++ ")>-1:(" ++ value ++ ")"
  | checkboxStored {attr : Attribute} {directive : Directive} {value : String} :
      ComparesConstant tag "checkbox" attr directive value →
      WritesConstant tag slots false attr.text fun text =>
        "if(Array.isArray($$a))\x7bvar $$v=" ++
          asNumber (directive.modifiers.contains "number") (literal text) ++
          ",$$i=_i($$a,$$v);if($$el.checked)\x7b$$i<0&&("
  | radioCompared {attr : Attribute} {directive : Directive} {value : String} :
      ComparesConstant tag "radio" attr directive value →
      WritesConstant tag slots false attr.text fun text =>
        "\"checked\":_q(" ++ value ++ "," ++ literal text ++ ")"
  | radioStored {attr : Attribute} {directive : Directive} {value : String} :
      ComparesConstant tag "radio" attr directive value →
      WritesConstant tag slots false attr.text fun text =>
        eventFunction (assignment value
          (asNumber (directive.modifiers.contains "number") (literal text)))

/-- Where a node writes the text of a constant attribute as a string. -/
inductive NodeWritesConstant : Node → Bool → String → (String → String) → Prop where
  | element {tag : StartTag} {children : List Node} {slots : List Slot} {span : Span}
      {decodes : Bool} {text : String} {write : String → String} :
      tag.name ≠ "template" →
      WritesConstant tag slots decodes text write →
      NodeWritesConstant (.element tag children slots span) decodes text write
  | outletName {outlet : Outlet} {fallback : List Node} {span place : Span}
      {text : String} :
      outlet.name = .literal text place →
      NodeWritesConstant (.outlet outlet fallback span) false text fun text =>
        "_t(" ++ literal text
  | outletAttribute {outlet : Outlet} {fallback : List Node} {span : Span}
      {attr : Attribute} :
      attr ∈ outlet.attributes →
      NodeWritesConstant (.outlet outlet fallback span) true attr.text fun text =>
        "\"" ++ camelize attr.name ++ "\":" ++ literal text

/-- The text that a place writes. -/
def writtenText (decodes : Bool) (text : String) : String :=
  if decodes then decoded text else text

/-! ## Two-way bindings -/

namespace ComparesConstant

variable {tag : StartTag} {kind value : String} {attr : Attribute}
  {directive : Directive}

theorem valueBinding_eq (compares : ComparesConstant tag kind attr directive value) :
    valueBinding tag = literal attr.text := by
  rw [valueBinding, attributeCode?, compares.unbound, compares.constant]
  rfl

theorem computedTag?_eq (compares : ComparesConstant tag kind attr directive value) :
    computedTag? tag = none := by
  rw [computedTag?, compares.input]
  rfl

theorem hasModel (compares : ComparesConstant tag kind attr directive value) :
    DirectiveData.HasModel tag directive value (DirectiveData.ofTag tag) := by
  refine DirectiveData.hasModel_ofTag compares.member compares.model compares.value ?_
  rw [DirectiveData.givesModel, compares.native, compares.computedTag?_eq]
  rfl

theorem inputKind (compares : ComparesConstant tag kind attr directive value) :
    ((tag.attribute? "type").bind fun attr => attr.value.map AttributeValue.text) =
      some kind :=
  compares.kind

theorem nativeModel_checkbox
    (compares : ComparesConstant tag "checkbox" attr directive value) :
    nativeModel tag directive.modifiers value =
      checkboxModel (directive.modifiers.contains "number") value
        (literal attr.text) := by
  rw [← compares.valueBinding_eq, nativeModel, compares.input, compares.inputKind]
  rfl

theorem nativeModel_radio
    (compares : ComparesConstant tag "radio" attr directive value) :
    nativeModel tag directive.modifiers value =
      radioModel (directive.modifiers.contains "number") value
        (literal attr.text) := by
  rw [← compares.valueBinding_eq, nativeModel, compares.input, compares.inputKind]
  rfl

end ComparesConstant

/-- The handler of a checkbox stores the value that is given for it. -/
theorem occurs_stored (number : Bool) (value binding : String) :
    Occurs ("if(Array.isArray($$a))\x7bvar $$v=" ++ asNumber number binding ++
        ",$$i=_i($$a,$$v);if($$el.checked)\x7b$$i<0&&(")
      (checkboxModel number value binding).handler := by
  -- Four parts of the handler stand in front of the stored value, and seven behind it.
  dsimp only [checkboxModel, eventFunction]
  simp only [String.append_assoc]
  iterate 4 refine Occurs.append_left ?_ _
  simp only [← String.append_assoc]
  iterate 7 refine Occurs.append_right ?_ _
  exact .refl _

/-! ## What stands in the code -/

namespace WritesConstant

variable {tag : StartTag} {slots : List Slot} {text : String} {write : String → String}

theorem occurs {decodes : Bool} (place : WritesConstant tag slots decodes text write)
    (inLoop : Bool) (entries : List String) :
    Occurs (write (writtenText decodes text)) (elementHead tag (dataObject? tag inLoop
      (if slots.isEmpty then none else some (scopedSlotsCode slots entries)))) := by
  generalize sameSlots :
    (if slots.isEmpty then none else some (scopedSlotsCode slots entries)) =
      scopedSlots
  have has := hasFields_dataFields tag inLoop scopedSlots
  cases place with
  | @plain attr member here =>
      have kept : attr ∈ tag.attributes.filter fun attr =>
          !isWrittenElsewhere tag attr.name :=
        List.mem_filter.mpr ⟨member, by rw [here]; rfl⟩
      exact occurs_attribute (AttributeData.within_ofTag.attributes
        (List.mem_map_of_mem kept))
  | className given =>
      refine occurs_field (has.appearance ?_)
      simp [appearanceFields, given, collapsed, writtenText, decoded]
  | style given =>
      refine occurs_field (has.appearance ?_)
      simp [appearanceFields, given, writtenText]
  | key unbound given =>
      refine occurs_field (has.key ?_)
      simp [keyField, attributeCode?, unbound, given, writtenText]
  | reference unbound given =>
      refine occurs_field (has.reference ?_)
      simp [refFields, attributeCode?, unbound, given, writtenText]
  | slot noSlots unbound given =>
      subst noSlots
      refine occurs_field (has.slot sameSlots.symm ?_)
      simp [slotField, attributeCode?, unbound, given, writtenText]
  | tagName dynamic unbound given =>
      refine occurs_computedTag ?_ _
      simp [computedTag?, dynamic, unbound, given, writtenText]
  | checkboxCompared compares =>
      have properties := compares.hasModel.properties
      rw [compares.nativeModel_checkbox] at properties
      refine occurs_property (AttributeData.within_ofTag.properties (properties ?_))
      exact List.mem_singleton_self _
  | checkboxStored compares =>
      have handles := compares.hasModel.handles
      rw [compares.nativeModel_checkbox] at handles
      exact (occurs_stored _ _ _).trans (occurs_directiveHandler handles)
  | radioCompared compares =>
      have properties := compares.hasModel.properties
      rw [compares.nativeModel_radio] at properties
      refine occurs_property (AttributeData.within_ofTag.properties (properties ?_))
      exact List.mem_singleton_self _
  | radioStored compares =>
      have handles := compares.hasModel.handles
      rw [compares.nativeModel_radio] at handles
      exact occurs_directiveHandler handles

end WritesConstant

/-! ## Agreement -/

theorem asNumber_injective (number : Bool) : Function.Injective (asNumber number) := by
  intro first second same
  cases number with
  | true =>
      simpa [asNumber, String.append_left_inj, String.append_right_inj] using same
  | false => exact same

theorem assignment_injective (path : String) :
    Function.Injective (assignment path) := by
  intro first second same
  rcases access : splitAccess path with ⟨object, _ | key⟩
  · simpa [assignment, access, String.append_right_inj] using same
  · simpa [assignment, access, String.append_left_inj, String.append_right_inj]
      using same

theorem eventFunction_injective : Function.Injective eventFunction := by
  intro first second same
  unfold eventFunction at same
  exact (String.append_right_inj _).mp ((String.append_left_inj _).mp same)

theorem WritesConstant.write_injective {tag : StartTag} {slots : List Slot}
    {text : String} {write : String → String}
    (place : WritesConstant tag slots false text write) :
    Function.Injective write := by
  intro first second same
  refine literal_injective ?_
  cases place with
  | key | reference | slot | tagName => simpa only [String.append_right_inj] using same
  | checkboxCompared | radioCompared =>
      simpa only [String.append_left_inj, String.append_right_inj] using same
  | @checkboxStored _ directive _ _ =>
      refine asNumber_injective (directive.modifiers.contains "number") ?_
      simpa only [String.append_left_inj, String.append_right_inj] using same
  | radioStored =>
      exact asNumber_injective _
        (assignment_injective _ (eventFunction_injective same))

theorem NodeWritesConstant.write_injective {node : Node} {text : String}
    {write : String → String} (place : NodeWritesConstant node false text write) :
    Function.Injective write := by
  cases place with
  | element _ place => exact place.write_injective
  | outletName =>
      intro first second same
      exact literal_injective (by simpa only [String.append_right_inj] using same)

theorem occurs_outletName {outlet : Outlet} {text : String} {span : Span}
    (named : outlet.name = .literal text span) (fallback : Option String) :
    Occurs ("_t(" ++ literal text) (outletCode outlet fallback) := by
  unfold outletCode
  dsimp only
  rw [named]
  exact (((Occurs.refl _).append_right _).append_right _).append_right _

theorem occurs_outletAttribute {outlet : Outlet} {attr : Attribute}
    (member : attr ∈ outlet.attributes) (fallback : Option String) :
    Occurs ("\"" ++ camelize attr.name ++ "\":" ++ literal (decoded attr.text))
      (outletCode outlet fallback) := by
  unfold outletCode
  lift_lets
  intro name constants bound props content
  have given :
      "\"" ++ camelize attr.name ++ "\":" ++ literal (decoded attr.text) ∈ props :=
    List.mem_append_left bound (List.mem_map_of_mem member)
  have more : ¬ props.isEmpty = true :=
    Bool.eq_false_iff.mp (List.isEmpty_eq_false_iff.mpr (List.ne_nil_of_mem given))
  rw [if_neg more]
  exact (((Occurs.object given).append_left _).append_left _).append_right _

theorem NodeWritesConstant.occurs {inLoop : Bool} {node : Node} {code : String}
    (generated : nodeCode inLoop node = .ok code) {decodes : Bool} {text : String}
    {write : String → String} (place : NodeWritesConstant node decodes text write) :
    Occurs (write (writtenText decodes text)) code := by
  cases place with
  | element named place =>
      obtain ⟨entries, given, _, _, rfl⟩ := of_nodeCode_element named generated
      exact (place.occurs inLoop entries).trans (occurs_elementHead _ _ _)
  | outletName named =>
      obtain ⟨paired, _, same⟩ := of_bind_eq_ok generated
      cases same
      exact occurs_outletName named _
  | outletAttribute member =>
      obtain ⟨paired, _, same⟩ := of_bind_eq_ok generated
      cases same
      exact occurs_outletAttribute member _

/-- A node writes a constant text as a string in several places.  The places that
decode it write the decoded text, the others write the text as it is; so one of
those agrees with the decoded text if and only if there is nothing to decode. -/
theorem nodeCode_writesConstants {inLoop : Bool} {node : Node} {code : String}
    (generated : nodeCode inLoop node = .ok code) {decodes : Bool} {text : String}
    {write : String → String} (place : NodeWritesConstant node decodes text write) :
    Occurs (write (writtenText decodes text)) code ∧
      (write (writtenText decodes text) = write (decoded text) ↔
        decodes = true ∨ decoded text = text) := by
  refine ⟨place.occurs generated, ?_⟩
  -- Only the places that do not decode must be told apart by what they write.
  cases decodes with
  | true => simp [writtenText]
  | false =>
      rw [writtenText, if_neg Bool.false_ne_true, place.write_injective.eq_iff]
      simp [eq_comm]

theorem radio_with_reference :
    let source : List SourceAttribute := [⟨"type".toList, some ("radio", ⟨7, 17⟩),
      ⟨7, 17⟩⟩, ⟨"value".toList, some ("&lt;", ⟨18, 30⟩), ⟨18, 30⟩⟩,
      ⟨"v-model.number".toList, some ("a.b", ⟨31, 51⟩), ⟨31, 51⟩⟩]
    let node : Node := .element (.ofSource "input" source) [] [] ⟨0, 52⟩
    let code :=
      "_c('input',\x7bdirectives:[\x7bname:\"model\",rawName:\"v-model.number\"," ++
        "value:(a.b),expression:\"a.b\",modifiers:\x7b\"number\":true\x7d\x7d]," ++
        "attrs:\x7b\"type\":\"radio\",\"value\":\"<\"\x7d," ++
        "domProps:\x7b\"checked\":_q(a.b,\"&lt;\")\x7d," ++
        "on:\x7b\"change\":function($event)\x7b$set(a, \"b\", _n(\"&lt;\"))\x7d\x7d\x7d)"
    let stored (text : String) :=
      eventFunction (assignment "a.b" (asNumber true (literal text)))
    nodeCode false node = .ok code ∧ Occurs (stored "&lt;") code ∧
      (stored "&lt;" = stored (decoded "&lt;") ↔
        false = true ∨ decoded "&lt;" = "&lt;") := by
  intro source node code stored
  have generated : nodeCode false node = .ok code := by decide +kernel
  have compares : ComparesConstant (.ofSource "input" source) "radio"
      ⟨"value", some ⟨"&lt;", ⟨18, 30⟩⟩, ⟨18, 30⟩⟩
      ⟨"model", none, ["number"], some ⟨"a.b", ⟨31, 51⟩⟩, ⟨31, 51⟩⟩ "a.b" := by
    constructor <;> decide +kernel
  have place : NodeWritesConstant node false "&lt;" stored :=
    .element (by decide) (.radioStored compares)
  have written : writtenText false "&lt;" = "&lt;" := rfl
  have writes := nodeCode_writesConstants generated place
  rw [written] at writes
  exact ⟨generated, writes⟩

/-- A checkbox is compared with another string than the one that its attribute has. -/
theorem checkbox_with_reference :
    let source := "<input type=\"checkbox\" value=\"a&amp;b\" v-model=\"c\">"
    let code (given compared : String) :=
      "with(this)\x7breturn _c('input',\x7bdirectives:[\x7bname:\"model\"," ++
      "rawName:\"v-model\",value:(c),expression:\"c\"\x7d]," ++
      "attrs:\x7b\"type\":\"checkbox\",\"value\":" ++ literal given ++ "\x7d," ++
      "domProps:\x7b\"checked\":Array.isArray(c)?_i(c," ++ literal compared ++
        ")>-1:(c)\x7d," ++
      "on:\x7b\"change\":function($event)\x7bvar $$a=c,$$el=$event.target," ++
      "$$c=$$el.checked?(true):(false);if(Array.isArray($$a))\x7bvar $$v=" ++
        literal compared ++
      ",$$i=_i($$a,$$v);if($$el.checked)\x7b$$i<0&&(c=$$a.concat([$$v]))\x7d" ++
      "else\x7b$$i>-1&&(c=$$a.slice(0,$$i).concat($$a.slice($$i+1)))\x7d\x7d" ++
      "else\x7bc=$$c\x7d\x7d\x7d\x7d)\x7d"
    compile source = .ok (code (decoded "a&amp;b") "a&amp;b") ∧
      code (decoded "a&amp;b") "a&amp;b" ≠
        code (decoded "a&amp;b") (decoded "a&amp;b") := by
  decide +kernel

end VuePrecompiler.Render
