import VuePrecompiler.Template.StartTag
import VuePrecompiler.Render.Assignment
import VuePrecompiler.Render.Handler
import VuePrecompiler.Render.Listeners

/-!
# Two-way bindings

What `v-model` becomes: an object for components, and properties and handlers
for the form elements of the platform.
-/

namespace VuePrecompiler.Render

open Template Javascript

/-- The `model` field of a component. -/
def componentModel (modifiers : List String) (value : String) : String :=
  let trimmed :=
    if modifiers.contains "trim" then "(typeof $$v === 'string'? $$v.trim(): $$v)"
    else "$$v"
  let assigned :=
    if modifiers.contains "number" then "_n(" ++ trimmed ++ ")" else trimmed
  "model:" ++ object [
    "value:(" ++ value ++ ")",
    "callback:function ($$v) \x7b" ++ assignment value assigned ++ "\x7d",
    "expression:" ++ literal value]

/-- The code for the attribute of a name: what is bound to it, or else its text. -/
def attributeCode? (tag : StartTag) (name : String) (text : Attribute → String) :
    Option String :=
  match tag.prop? name, tag.attribute? name with
  | some bound, _ => some bound.value.trimmed
  | none, some plain => some (literal (text plain))
  | none, none => none

/-- The code for the value attribute of a form element. -/
def valueBinding (tag : StartTag) : String :=
  (attributeCode? tag "value" Attribute.text).getD "null"

/-- The properties and the handlers that `v-model` gives a form element. -/
structure NativeModel where
  properties : List String := []
  /-- The event on which the value is stored, and the handler. -/
  event : String
  handler : String
  /-- Whether the element is updated when it loses the focus. -/
  refreshes : Bool := false

/-- The code of a number where one is asked for. -/
def asNumber (number : Bool) (code : String) : String :=
  if number then "_n(" ++ code ++ ")" else code

/-- `v-model` on `<select>`. -/
def selectModel (number : Bool) (value : String) : NativeModel where
  event := "change"
  handler :=
    let item := asNumber number "val"
    let selected :=
      "Array.prototype.filter.call($event.target.options,function(o)\x7breturn o.selected\x7d)"
        ++ ".map(function(o)\x7bvar val = \"_value\" in o ? o._value : o.value;return "
        ++ item ++ "\x7d)"
    eventFunction ("var $$selectedVal = " ++ selected ++ "; "
      ++ assignment value "$event.target.multiple ? $$selectedVal : $$selectedVal[0]")

/-- `v-model` on a checkbox: a truth value, or membership in an array. -/
def checkboxModel (number : Bool) (value binding : String) : NativeModel where
  properties := [
    "\"checked\":Array.isArray(" ++ value ++ ")?_i(" ++ value ++ ","
      ++ binding ++ ")>-1:("
      ++ value ++ ")"]
  event := "change"
  handler :=
    eventFunction ("var $$a=" ++ value ++
      ",$$el=$event.target,$$c=$$el.checked?(true):(false);"
      ++ "if(Array.isArray($$a))\x7bvar $$v=" ++ asNumber number binding
      ++ ",$$i=_i($$a,$$v);if($$el.checked)\x7b$$i<0&&("
      ++ assignment value "$$a.concat([$$v])"
      ++ ")\x7delse\x7b$$i>-1&&("
      ++ assignment value "$$a.slice(0,$$i).concat($$a.slice($$i+1))"
      ++ ")\x7d\x7delse\x7b" ++ assignment value "$$c" ++ "\x7d")

/-- `v-model` on a radio button. -/
def radioModel (number : Bool) (value binding : String) : NativeModel where
  properties := ["\"checked\":_q(" ++ value ++ "," ++ binding ++ ")"]
  event := "change"
  handler := eventFunction (assignment value (asNumber number binding))

/-- `v-model` on an element with text. -/
def textModel (modifiers : List String) (isRange : Bool) (value : String) :
    NativeModel :=
  let lazy := modifiers.contains "lazy"
  let trim := modifiers.contains "trim"
  let number := modifiers.contains "number"
  let entered := if trim then "$event.target.value.trim()" else "$event.target.value"
  let store := assignment value (asNumber number entered)
  { properties := ["\"value\":(" ++ value ++ ")"]
    event := if lazy then "change" else if isRange then "__r" else "input"
    handler :=
      eventFunction
        (if lazy || isRange then store else "if($event.target.composing)return;" ++
          store)
    refreshes := trim || number }

/-- `v-model` on an element that is no component. -/
def nativeModel (tag : StartTag) (modifiers : List String) (value : String) :
    NativeModel :=
  let number := modifiers.contains "number"
  let kind :=
    (tag.attribute? "type").bind fun attr => attr.value.map AttributeValue.text
  if tag.name == "select" then selectModel number value
  else if tag.name == "input" && kind == some "checkbox" then
    checkboxModel number value (valueBinding tag)
  else if tag.name == "input" && kind == some "radio" then
    radioModel number value (valueBinding tag)
  else textModel modifiers (kind == some "range") value

/-- Add the handlers of a two-way binding; the one that stores runs first. -/
def NativeModel.listen (model : NativeModel) (listeners : Listeners) : Listeners :=
  let listeners := listeners.addFirst model.event model.handler
  if model.refreshes then
    listeners.addLast "blur" (eventFunction "return $forceUpdate()")
  else listeners

end VuePrecompiler.Render
