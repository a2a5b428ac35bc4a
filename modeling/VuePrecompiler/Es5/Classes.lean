import VuePrecompiler.Es5.Constructors
import VuePrecompiler.Javascript.Validity

/-!
# Classes

A class becomes its constructor function.  With methods or a superclass, the
constructor stands in a function that defines the methods on it.
-/

namespace VuePrecompiler.Es5

open Javascript Source

/-- The built-in classes whose instances only `new` can make. -/
def builtInClasses : List String :=
  ["AggregateError", "Array", "ArrayBuffer", "Atomics", "BigInt", "BigInt64Array",
    "BigUint64Array", "Boolean", "DataView", "Date", "Error", "EvalError",
    "FinalizationRegistry", "Float32Array",
    "Float64Array", "Function", "Int16Array", "Int32Array", "Int8Array", "Map",
    "Number", "Object", "Promise", "Proxy", "RangeError", "ReferenceError", "RegExp",
    "Set", "SharedArrayBuffer", "String", "Symbol", "SyntaxError", "TypeError",
    "URIError", "Uint16Array", "Uint32Array",
    "Uint8Array", "Uint8ClampedArray", "WeakMap", "WeakRef", "WeakSet",
    "AbortController", "AbortSignal", "Audio", "Blob", "CSSStyleSheet", "Comment",
    "CustomEvent", "DOMException", "DOMParser", "Document", "DocumentFragment",
    "Element", "Event", "EventSource",
    "EventTarget", "File", "FileReader", "FormData", "HTMLAnchorElement",
    "HTMLAudioElement", "HTMLBodyElement", "HTMLButtonElement", "HTMLCanvasElement",
    "HTMLDivElement", "HTMLElement", "HTMLFormElement", "HTMLImageElement",
    "HTMLInputElement", "HTMLLIElement", "HTMLLabelElement",
    "HTMLLinkElement", "HTMLMediaElement", "HTMLOptionElement", "HTMLParagraphElement",
    "HTMLPreElement", "HTMLScriptElement", "HTMLSelectElement", "HTMLSlotElement",
    "HTMLSpanElement", "HTMLStyleElement", "HTMLTableElement", "HTMLTemplateElement",
    "HTMLTextAreaElement", "HTMLUListElement", "HTMLVideoElement", "Headers", "Image",
    "IntersectionObserver", "KeyboardEvent", "MessageChannel", "MessageEvent",
    "MouseEvent", "MutationObserver", "Node", "NodeList", "Option", "PointerEvent",
    "Range", "Request", "ResizeObserver", "Response", "SVGElement", "ShadowRoot",
    "Storage", "Text", "TextDecoder", "TextEncoder", "TouchEvent", "UIEvent", "URL",
    "URLSearchParams", "WebSocket", "WheelEvent", "Window", "Worker", "XMLHttpRequest"]

/-- What defines a property of a class: its key and, as far as they are there, the
functions that read, set and are its value. -/
structure Descriptor where
  key : Tree
  getter : Option Tree
  setter : Option Tree
  value : Option Tree

namespace Descriptor

/-- `{ key: …, get: …, set: …, value: … }`. -/
def expression (descriptor : Descriptor) : Tree :=
  let part (name : String) (value : Tree) : Tree :=
    node .property [node (.propertyName name) [], value]
  node .object
    (part "key" descriptor.key :: (descriptor.getter.toList.map (part "get")
      ++ descriptor.setter.toList.map (part "set")
      ++ descriptor.value.toList.map (part "value")))

/-- Let a function define one side of a property. -/
def defining (descriptor : Descriptor) (kind : MethodKind)
    (function : Tree) : Descriptor :=
  match kind with
  | .method => { descriptor with value := some function }
  | .getter => { descriptor with getter := some function }
  | .setter => { descriptor with setter := some function }

end Descriptor

/-- The text of a key that tells properties apart; computed keys have none. -/
def plainKey? (key : Tree) : Option String :=
  match key.kind with
  | .propertyName name => some name
  | .number raw => some raw
  | .bigint raw => some raw
  | _ => stringValue? key

def methodKey (key : Tree) : Tree :=
  match key with
  | .node (.propertyName name) _ _ => stringNode name
  | .node .computedKey _ [inner] => inner
  | .node (.bigint raw) _ _ => stringNode (raw.dropEnd 1).toString
  | _ => key

/-- Properties with one method more, which may belong to a property that
is already there. -/
def withMethod (key : Tree) (kind : MethodKind) (function : Tree) :
    List (Option String × Descriptor) → List (Option String × Descriptor)
  | [] =>
    [(plainKey? key, Descriptor.defining ⟨methodKey key, none, none, none⟩
      kind function)]
  | first :: rest =>
    if first.1.isSome && first.1 == plainKey? key then
      (first.1, first.2.defining kind function) :: rest
    else first :: withMethod key kind function rest

/-- Whether a text is the name of a variable or would be but for being reserved. -/
def isNameText (text : String) : Bool :=
  match text.toList with
  | [] => false
  | first :: rest => isNameStart first && rest.all isNamePart

/-- The name of a method's function. -/
def methodName (key : Tree) : Pass Tree :=
  let named (text : String) : Pass Tree :=
    let isTaken := reservedWords.contains text || strictReservedWords.contains text
      || ["await", "arguments", "eval"].contains text
    newVariable (if isTaken then "_" ++ text else text)
  match key.kind, stringValue? key with
  | .propertyName text, _ => named text
  | _, some text => if isNameText text then named text else return nothing
  | _, none => return nothing

/-- A function with a name. -/
def withName (name : Tree) : Tree → Tree
  | .node kind span (_ :: parts) => .node kind span (name :: parts)
  | tree => tree

/-- The properties that the methods of a class define, on its
instances or on itself. -/
def methodProperties (names : ClassNames) (onClass : Bool) (members : List Tree) :
    Pass (List (Option String × Descriptor)) :=
  members.foldlM (fun properties member => do
    match member with
    | .node (.classMethod kind isStatic) _ [key, function] =>
      if isStatic != onClass || isConstructor member then return properties
      else
        let function ← (names.home isStatic).method function
        let name ← if kind == .method then methodName key else pure nothing
        return withMethod key kind (withName name function) properties
    | _ => return properties) []

/-- `_create_class(name, [ … ], [ … ]);`, if there are methods. -/
def methodsStatement (names : ClassNames) (members : List Tree) :
    Pass (List Tree) := do
  let own ← methodProperties names false members
  let onClass ← methodProperties names true members
  let list (properties : List (Option String × Descriptor)) : Tree :=
    if properties.isEmpty then node .null []
    else node (.array false) (properties.map fun property => property.2.expression)
  if own.isEmpty && onClass.isEmpty then return []
  else
    let items :=
      names.name :: list own :: (if onClass.isEmpty then [] else [list onClass])
    return [statementNode (← helperCall "create_class" items)]

/-- What the superclass is called inside of a class. -/
def parentName (parent : Tree) : Pass (Option Tree) := do
  match parent.kind with
  | .absent => return none
  | .identifier name _ => return some (← newVariable name)
  | _ => return some (← aliasVariable parent "_superClass")

/-- The superclass as it is given to a class. -/
def givenParent (parent : Tree) : Pass Tree :=
  match parent.kind with
  | .identifier name _ =>
    if builtInClasses.contains name then helperCall "wrap_native_super" [parent]
    else return parent
  | _ => return parent

def strictDirective : Tree := statementNode (stringNode "use strict")

/-- The expression for a class. -/
def classValue (isStrict : Bool) (name : Tree) (members : List Tree) (parent : Tree) :
    Pass Tree := do
  let names : ClassNames := ⟨name, ← parentName parent⟩
  let directive := if isStrict then [] else [strictDirective]
  let constructor ← constructorFunction names
      ((members.find? isConstructor).bind (·.children.getLast?))
  let methods ← methodsStatement names members
  match names.parent, constructor with
  | none, .node _ _ [constructorName, parameters, .node .body _ statements] =>
    if methods.isEmpty then
      return node (.functionExpression ⟨false, false⟩)
        [constructorName, parameters, node .body (directive ++ statements)]
    else
      let body := directive ++ constructor :: methods ++ [node .return [name]]
      return node .pureCall [functionNode [] body]
  | parentVariable, _ =>
    let parentVariable := parentVariable.getD nothing
    let inherits := statementNode (← helperCall "inherits" [name, parentVariable])
    let body :=
      directive ++ inherits :: constructor :: methods ++ [node .return [name]]
    return node .pureCall [functionNode [parentVariable] body, ← givenParent parent]

def makesStrict : List Tree → Bool
  | .node .expressionStatement _ [.node (.string raw) _ _] :: _ =>
    raw == "'use strict'" || raw == "\"use strict\""
  | _ => false

mutual

/-- A tree without classes.  An expression that is the value of a variable is known
by its name. -/
def lowerClasses (isStrict : Bool) (known : Option String) : Tree → Pass Tree
  | .node .classDeclaration _ [name, .node .members _ members, parent] => do
    let parent ← lowerClasses isStrict none parent
    let members ← lowerClassesEach true members
    return node (.variables .let)
      [declaratorNode name (← classValue isStrict name members parent)]
  | .node .classExpression _ [name, .node .members _ members, parent] => do
    let parent ← lowerClasses isStrict none parent
    let members ← lowerClassesEach true members
    let name ← if name.isAbsent then newVariable (known.getD "_class") else pure name
    classValue isStrict name members parent
  | .node .declarator span [.node (.identifier name binding) place [], value] => do
    let value ← lowerClasses isStrict (some name) value
    return .node .declarator span [.node (.identifier name binding) place [], value]
  | .node (.assign operator) span
      [.node (.identifier name binding) place [], value] => do
    let value ← lowerClasses isStrict (some name) value
    return .node (.assign operator) span [.node (.identifier name binding) place [],
      value]
  | .node kind span children => do
    return .node kind span
      (← lowerClassesEach (isStrict || (isStatementList kind && makesStrict children))
        children)
termination_by structural tree => tree

def lowerClassesEach (isStrict : Bool) : List Tree → Pass (List Tree)
  | [] => return []
  | first :: rest => do
    let first ← lowerClasses isStrict none first
    return first :: (← lowerClassesEach isStrict rest)
termination_by structural trees => trees

end

end VuePrecompiler.Es5
