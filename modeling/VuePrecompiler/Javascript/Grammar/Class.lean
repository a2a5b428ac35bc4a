import VuePrecompiler.Javascript.Grammar.Function

/-!
# Classes
-/

namespace VuePrecompiler.Javascript

namespace Grammar

open Read

/-- The punctuators behind the name of a member. -/
def memberEnds : List String := ["(", "=", ";", "\x7d"]

def memberKey (grammar : Grammar) (context : Context) : Read Tree := do
  let start ← position
  match ← current with
  | .privateName name =>
    advance
    build start (.privateName name) []
  | _ => propertyKey grammar context

/-- Pass `static` unless it is the name of a member. -/
def staticWord : Read Bool := do
  if ← seesWord "static" then
    match (← next).token with
    | .punctuator text =>
      if memberEnds.contains text then return false
      else
        advance
        return true
    | _ =>
      advance
      return true
  else return false

/-- A member of a class; a lone semicolon is an absent one. -/
def classMember (grammar : Grammar) (context : Context) : Read Tree := do
  let start ← position
  if ← eat ";" then return .absent start
  let isStatic ← staticWord
  if isStatic && (← sees "\x7b") then
    let body ← functionBody grammar (context.inFunctionOf ⟨false, false⟩)
    build start .staticBlock [body]
  else
    let head ← methodHead memberEnds
    let key ← memberKey grammar context
    if head.isMarked || (← sees "(") then
      let function ← methodFunction grammar context head.mode
      build start (.classMethod head.kind isStatic) [key, function]
    else
      let value ←
        if ← eat "=" then grammar.assignment (context.inFunctionOf ⟨false, false⟩)
        else missing
      let field ← build start (.classField isStatic) [key, value]
      endStatement
      return field

/-- A class from the word `class` on, given how to read its superclass. -/
def classFrom (grammar : Grammar) (context : Context)
    (superclass : Context → Read Tree) (declares : Bool) : Read Tree := do
  let start ← position
  expectWord "class"
  let nameless ← if ← seesWord "extends" then pure true else sees "\x7b"
  let name ← if nameless && !declares then missing else identifier context
  let parent ← if ← eatWord "extends" then superclass context.inside else missing
  let bodyStart ← position
  expect "\x7b"
  let members ← repeated "\x7d" (classMember grammar context) grammar.limit
  let members ← build bodyStart .members (members.filter fun item => !item.isAbsent)
  build start (if declares then .classDeclaration else .classExpression) [name,
    members, parent]

end Grammar

end VuePrecompiler.Javascript
