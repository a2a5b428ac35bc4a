import VuePrecompiler.Es5.Build
import VuePrecompiler.Javascript.Validity

/-!
# Functions in blocks

A function that a block declares becomes a variable of the block, set before
the block's other statements.  The bodies of arrow functions, accessors and
constructors are blocks, too.
-/

namespace VuePrecompiler.Es5

open Javascript

def blockVariable? : Tree → Option Tree
  | .node (.functionDeclaration ⟨false, false⟩) span [name, parameters, body] =>
    let value : Tree :=
      .node (.functionExpression ⟨false, false⟩) span [name, parameters, body]
    some (node (.variables .let) [declaratorNode name value])
  | _ => none

/-- The statements of a block, its functions first. -/
def functionsFirst (statements : List Tree) : List Tree :=
  prepend (statements.filterMap blockVariable?) (statements.filter fun found =>
    (blockVariable? found).isNone)

/-- A function whose body is a block. -/
def withBlockBody : Tree → Tree
  | .node kind span [name, parameters, .node .body bodySpan statements] =>
    .node kind span [name, parameters,
      .node .body bodySpan (functionsFirst statements)]
  | tree => tree

mutual

/-- A tree in which only functions and programs declare functions. -/
def withoutBlockFunctions : Tree → Tree
  | .node kind span children =>
    let parts := withoutBlockFunctionsEach children
    match kind, parts with
    | .block, statements => .node kind span (functionsFirst statements)
    | .arrow _, [parameters, .node .body bodySpan statements] =>
      .node kind span [parameters, .node .body bodySpan (functionsFirst statements)]
    | .method .getter, [key, function] => .node kind span [key, withBlockBody function]
    | .method .setter, [key, function] => .node kind span [key, withBlockBody function]
    | .classMethod _ _, [key, function] =>
      if isConstructor (.node kind span parts) then
        .node kind span [key, withBlockBody function]
      else .node kind span parts
    | _, _ => .node kind span parts

def withoutBlockFunctionsEach : List Tree → List Tree
  | [] => []
  | first :: rest => withoutBlockFunctions first :: withoutBlockFunctionsEach rest

end

end VuePrecompiler.Es5
