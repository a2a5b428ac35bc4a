import VuePrecompiler.Javascript.Reader

/-!
# Patterns, parameters and property keys

The parts that declarations, functions, objects and classes share.
-/

namespace VuePrecompiler.Javascript

namespace Grammar

open Read

/-- A pattern, perhaps with a default. -/
def bindingWithDefault (grammar : Grammar) (context : Context) : Read Tree := do
  let start ← position
  let target ← grammar.binding context
  if ← eat "=" then
    build start .withDefault [target, ← grammar.assignment context.inside]
  else return target

/-- A pattern behind dots, which has to be the last. -/
def restBinding (grammar : Grammar) (context : Context) (closing : String) :
    Read Tree := do
  let start ← position
  expect "..."
  let rest ← build start .rest [← grammar.binding context]
  unless ← sees closing do fail
  return rest

def arrayBindingItem (grammar : Grammar) (context : Context) : Read Tree := do
  if ← sees "," then missing
  else if ← sees "..." then restBinding grammar context "]"
  else bindingWithDefault grammar context

def propertyKey (grammar : Grammar) (context : Context) : Read Tree := do
  let start ← position
  match ← current with
  | .word name _ =>
    advance
    build start (.propertyName name) []
  | .string raw =>
    advance
    build start (.string raw) []
  | .number raw =>
    advance
    build start (.number raw) []
  | .bigint raw =>
    advance
    build start (.bigint raw) []
  | .punctuator "[" =>
    advance
    let key ← grammar.assignment context.inside
    expect "]"
    build start .computedKey [key]
  | _ => fail

/-- The variable that a shorthand property names, read again from its token. -/
def shorthandVariable (context : Context) (lexeme : Lexeme) : Read Tree := do
  match lexeme.token with
  | .word name _ =>
    if isReserved name || (name == "yield" && context.isGenerator)
        || (name == "await" && context.isAsync) then throw lexeme.span
    return .leaf (.identifier name 0) lexeme.span
  | _ => fail

def objectBindingPart (grammar : Grammar) (context : Context) : Read Tree := do
  let start ← position
  if ← sees "..." then
    advance
    let rest ← build start .rest [← identifier context]
    unless ← sees "\x7d" do fail
    return rest
  let lexeme := (← get).current
  let key ← propertyKey grammar context
  if ← eat ":" then
    build start .patternProperty [key, ← bindingWithDefault grammar context]
  else
    let name ← shorthandVariable context lexeme
    if ← eat "=" then
      build start .patternShorthand [name, ← grammar.assignment context.inside]
    else build start .patternShorthand [name, ← missing]

/-- A variable or a destructuring pattern, given the productions inside of it. -/
def bindingOf (grammar : Grammar) (context : Context) : Read Tree := do
  let start ← position
  if ← eat "[" then
    build start .arrayPattern
      (← separated "]" (arrayBindingItem grammar context) grammar.limit)
  else if ← eat "\x7b" then
    build start .objectPattern
      (← separated "\x7d" (objectBindingPart grammar context) grammar.limit)
  else identifier context

/-- The statements of a function with the braces around them. -/
def functionBody (grammar : Grammar) (context : Context) : Read Tree := do
  let start ← position
  expect "\x7b"
  build start .body (← repeated "\x7d" (grammar.statement context true) grammar.limit)

def parameter (grammar : Grammar) (context : Context) : Read Tree := do
  if ← sees "..." then restBinding grammar context ")"
  else bindingWithDefault grammar context

/-- The parameters and the body of a function. -/
def functionTail (grammar : Grammar) (context : Context) (mode : FunctionMode) :
    Read (Tree × Tree) := do
  let inner := context.inFunctionOf mode
  let start ← position
  expect "("
  let parameters ← separated ")" (parameter grammar inner) grammar.limit
  let parameters ← build start .parameters parameters
  return (parameters, ← functionBody grammar inner)

/-- A function without a name, as methods have it. -/
def methodFunction (grammar : Grammar) (context : Context) (mode : FunctionMode) :
    Read Tree := do
  let start ← position
  let name ← missing
  let (parameters, body) ← functionTail grammar context mode
  build start (.functionExpression mode) [name, parameters, body]

/-- A function from the word `function` on; `async` began at `start`. -/
def functionFrom (grammar : Grammar) (context : Context) (start : Nat)
    (isAsync declares : Bool) : Read Tree := do
  expectWord "function"
  let isGenerator ← eat "*"
  let mode : FunctionMode := ⟨isAsync, isGenerator⟩
  let nameless ← sees "("
  let name ←
    if nameless && !declares then missing
    else identifier (if declares then context else context.inFunctionOf mode)
  let (parameters, body) ← functionTail grammar context mode
  build start (if declares then .functionDeclaration mode
    else .functionExpression mode)
    [name, parameters, body]

/-- The words before the key of a method. -/
structure MethodHead where
  kind : MethodKind
  mode : FunctionMode
  /-- Whether something before the key says that a method follows. -/
  isMarked : Bool

/-- Pass the words before the key of a method.  Such a word is itself a key
before one of the punctuators in `ends`. -/
def methodHead (ends : List String) : Read MethodHead := do
  let isKey (lexeme : Lexeme) : Bool :=
    match lexeme.token with
    | .punctuator text => ends.contains text
    | .finish => true
    | _ => false
  match ← current with
  | .punctuator "*" =>
    advance
    return ⟨.method, ⟨false, true⟩, true⟩
  | .word "async" false =>
    let following ← next
    if isKey following || following.newlineBefore then
      return ⟨.method, ⟨false, false⟩, false⟩
    advance
    let isGenerator ← eat "*"
    return ⟨.method, ⟨true, isGenerator⟩, true⟩
  | .word "get" false =>
    let following ← next
    if isKey following || following.token == .punctuator "*" then
      return ⟨.method, ⟨false, false⟩, false⟩
    advance
    return ⟨.getter, ⟨false, false⟩, true⟩
  | .word "set" false =>
    let following ← next
    if isKey following || following.token == .punctuator "*" then
      return ⟨.method, ⟨false, false⟩, false⟩
    advance
    return ⟨.setter, ⟨false, false⟩, true⟩
  | _ => return ⟨.method, ⟨false, false⟩, false⟩

end Grammar

end VuePrecompiler.Javascript
