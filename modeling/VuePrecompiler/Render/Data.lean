import VuePrecompiler.Template.StartTag
import VuePrecompiler.Text.Camel
import VuePrecompiler.Render.Entities
import VuePrecompiler.Render.Style
import VuePrecompiler.Render.Directive
import VuePrecompiler.Render.Model

/-!
# Data objects

The object that describes an element to the runtime: its directives, key,
reference, classes, styles, attributes, properties, handlers and slots.
-/

namespace VuePrecompiler.Render

open Template Text Javascript

/-- Whether the platform wants an attribute set as a property. -/
def mustBeProperty (tag : String) (kind : Option String) (name : String) : Bool :=
  (name == "value" && ["input", "textarea", "option", "select", "progress"].contains
      tag && kind != some "button")
    || (name == "selected" && tag == "option")
    || (name == "checked" && tag == "input")
    || (name == "muted" && tag == "video")

/-- The names that have fields of their own. -/
def reservedNames : List String := ["class", "style", "ref", "slot", "key"]

/-- The code of the tag of `<component>`, where `is` gives it. -/
def computedTag? (tag : StartTag) : Option String :=
  if tag.name == "component" then
    match tag.prop? "is", tag.attribute? "is" with
    | some bound, _ => some bound.value.content
    | none, some plain => some (literal plain.text)
    | none, none => none
  else none

/-- What the directives of an element contribute. -/
structure DirectiveData where
  descriptors : List String := []
  properties : List String := []
  listeners : Listeners := {}
  model : Option String := none
  bindObject : Option Directive := none
  listenObject : Option Directive := none

def DirectiveData.add (tag : StartTag) (isComponent : Bool) (data : DirectiveData)
    (directive : Directive) : DirectiveData :=
  let shown (property : String) : DirectiveData :=
    let value := directive.value.elim "" Code.trimmed
    { data with properties := data.properties ++
      ["\"" ++ property ++ "\":_s(" ++ value ++ ")"] }
  let described : DirectiveData :=
    { data with descriptors := data.descriptors ++ [directiveObject directive] }
  if directive.name == "html" then shown "innerHTML"
  else if directive.name == "text" then shown "textContent"
  else if directive.name == "model" then
    match directiveValue? directive with
    | none => data
    | some value =>
      if isComponent then { data with
        model := some (componentModel directive.modifiers value) }
      else
        let model := nativeModel tag directive.modifiers value
        { described with
          properties := data.properties ++ model.properties
          listeners := model.listen data.listeners }
  else if directive.name == "bind" && directive.argument.isNone then
    { data with bindObject := some directive }
  else if directive.name == "on" && directive.argument.isNone then
    { data with listenObject := some directive }
  else if ["cloak", "once", "pre"].contains directive.name then data
  else described

/-- What all directives of an element contribute. -/
def DirectiveData.ofTag (tag : StartTag) : DirectiveData :=
  tag.directives.foldl
    (DirectiveData.add tag (tag.isComponent || (computedTag? tag).isSome)) {}

/-- What the attributes and bindings of an element contribute. -/
structure AttributeData where
  attributes : List String := []
  computed : List (String × String) := []
  properties : List String := []
  listeners : Listeners := {}

/-- Whether a name has its value written elsewhere. -/
def isWrittenElsewhere (tag : StartTag) (name : String) : Bool :=
  reservedNames.contains name || ((computedTag? tag).isSome && name == "is")

def AttributeData.addBinding (tag : StartTag) (data : AttributeData)
    (binding : Binding) : AttributeData :=
  let value := binding.value.trimmed
  match binding.name with
  | .computed code =>
    { data with computed := data.computed ++ [(trimmed code, value)] }
  | .fixed base =>
    if isWrittenElsewhere tag base then data
    else
      let name := if binding.modifiers.contains "camel" then camelize base else base
      let listeners :=
        if binding.modifiers.contains "sync" then
          data.listeners.addLast ("update:" ++ camelize base)
            (eventFunction (assignment value "$event"))
        else data.listeners
      let kind :=
        (tag.attribute? "type").bind fun attr => attr.value.map AttributeValue.text
      let field := "\"" ++ name ++ "\":" ++ value
      if binding.modifiers.contains "prop"
          || (!tag.isComponent && mustBeProperty tag.name kind name) then
        { data with properties := data.properties ++ [field], listeners }
      else { data with attributes := data.attributes ++ [field], listeners }

/-- The fields of the constant attributes of an element. -/
def constantAttributes (tag : StartTag) : List String :=
  (tag.attributes.filter fun attr => !isWrittenElsewhere tag attr.name).map fun attr =>
    "\"" ++ attr.name ++ "\":" ++ literal (decoded attr.text)

/-- What all attributes and bindings contribute, given what the directives did. -/
def AttributeData.ofTag (tag : StartTag) (directives : DirectiveData) :
    AttributeData :=
  tag.props.foldl (AttributeData.addBinding tag) {
    attributes := constantAttributes tag
    properties := directives.properties
    listeners := directives.listeners }

/-- Add one listener to the handlers of an element. -/
def Listeners.addListener (listeners : Listeners) (listener : Listener) : Listeners :=
  let handler :=
    handlerFunction listener.handler.content listener.modifiers listener.name.text
  let marks := eventMarks listener.modifiers
  match listener.name with
  | .fixed name => listeners.addLast (marks ++ name) handler
  | .computed code =>
    let name := trimmed code
    listeners.addComputed
      (if marks.isEmpty then name else "_p(" ++ name ++ ",\"" ++ marks ++ "\")")
      handler

/-- Whether a listener is for the native event of a component's element. -/
def isNative (tag : StartTag) (listener : Listener) : Bool :=
  listener.modifiers.contains "native" && tag.isComponent

def keyField (tag : StartTag) : List String :=
  (attributeCode? tag "key" Attribute.text).toList.map ("key:" ++ ·)

/-- The reference fields; a reference in a loop is marked. -/
def refFields (tag : StartTag) (inLoop : Bool) : List String :=
  match attributeCode? tag "ref" Attribute.text with
  | some code => ("ref:" ++ code) :: if inLoop then ["refInFor:true"] else []
  | none => []

/-- The class and style fields. -/
def appearanceFields (tag : StartTag) : List String :=
  ((tag.attribute? "class").toList.map fun plain =>
      "staticClass:" ++ literal (" ".intercalate
        ((words (decodeReferences plain.text.toList)).map String.ofList)))
    ++ ((tag.prop? "class").toList.map fun bound => "class:" ++ bound.value.trimmed)
    ++ ((tag.attribute? "style").toList.map fun plain =>
      "staticStyle:" ++ styleObject (decoded plain.text))
    ++ ((tag.prop? "style").toList.map fun bound =>
      "style:(" ++ bound.value.trimmed ++ ")")

/-- The field that names the slot an element is for. -/
def slotField (tag : StartTag) : List String :=
  let named (plain : Attribute) := plain.value.elim "default" AttributeValue.text
  (attributeCode? tag "slot" named).toList.map ("slot:" ++ ·)

/-- A field, unless it has no content. -/
def fieldUnless (isEmpty : Bool) (code : String) : List String :=
  if isEmpty then [] else [code]

/-- The fields of the data object of an element. -/
def dataFields (tag : StartTag) (directives : DirectiveData) (inLoop : Bool)
    (scopedSlots : Option String) : List String :=
  let data := AttributeData.ofTag tag directives
  let on := (tag.listeners.filter fun listener => !isNative tag listener).foldl
    Listeners.addListener data.listeners
  let nativeOn := (tag.listeners.filter (isNative tag)).foldl Listeners.addListener {}
  fieldUnless directives.descriptors.isEmpty ("directives:" ++
    array directives.descriptors) ++ keyField tag
    ++ refFields tag inLoop
    ++ (if (computedTag? tag).isSome then ["tag:\"component\""] else [])
    ++ appearanceFields tag
    ++ fieldUnless (data.attributes.isEmpty && data.computed.isEmpty)
      ("attrs:" ++ withComputedKeys (object data.attributes) data.computed)
    ++ fieldUnless data.properties.isEmpty ("domProps:" ++ object data.properties)
    ++ fieldUnless on.isEmpty ("on:" ++ on.code)
    ++ fieldUnless nativeOn.isEmpty ("nativeOn:" ++ nativeOn.code)
    ++ (match scopedSlots with
      | some code => [code]
      | none => slotField tag)
    ++ directives.model.toList

def withBoundObject (tag : StartTag) (directive : Directive)
    (data : String) : String :=
  "_b(" ++ data ++ ",'" ++ tag.name ++ "',"
    ++ directive.value.elim "\x7b\x7d" Code.trimmed ++ ","
    ++ (if directive.modifiers.contains "prop" then "true" else "false")
    ++ (if directive.modifiers.contains "sync" then ",true" else "") ++ ")"

def withListenerObject (directive : Directive) (data : String) : String :=
  "_g(" ++ data ++ "," ++ directive.value.elim "\x7b\x7d" Code.trimmed ++ ")"

/-- The data of an element, if there is any. -/
def dataObject? (tag : StartTag) (inLoop : Bool) (scopedSlots : Option String) :
    Option String :=
  let directives := DirectiveData.ofTag tag
  let fields := dataFields tag directives inLoop scopedSlots
  if fields.isEmpty && directives.bindObject.isNone &&
    directives.listenObject.isNone then none
  else
    let data := object fields
    let data := directives.bindObject.elim data fun directive =>
      withBoundObject tag directive data
    some (directives.listenObject.elim data fun directive =>
      withListenerObject directive data)

end VuePrecompiler.Render
