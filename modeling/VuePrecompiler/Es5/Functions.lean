import VuePrecompiler.Es5.Parameters

/-!
# Functions

Arrow functions become ordinary ones.  What `this` and `arguments` mean inside
of them is kept in variables of the function around.
-/

namespace VuePrecompiler.Es5

open Javascript

def bodyDeclaring (declarators : List Tree) : Tree → Tree
  | .node .body span statements => .node .body span (declaring declarators statements)
  | tree => tree

mutual

/-- A tree whose functions are ordinary ones. -/
def withoutArrows : Tree → Hoisting Tree
  | .node (.arrow isAsync) span [parameters, body] => do
    let parameters ← detached true (← withoutArrows parameters)
    let body ← detached true (← withoutArrows body)
    return .node (.functionExpression ⟨isAsync, false⟩) span [nothing, parameters,
      functionBody body]
  | .node (.functionExpression mode) span [name, parameters, body] => do
    let (parameters, first) ← (withoutArrows parameters).run []
    let (body, declarators) ← (withoutArrows body).run first
    return .node (.functionExpression mode) span [name, parameters,
      bodyDeclaring declarators body]
  | .node (.functionDeclaration mode) span [name, parameters, body] => do
    let (parameters, first) ← (withoutArrows parameters).run []
    let (body, declarators) ← (withoutArrows body).run first
    return .node (.functionDeclaration mode) span [name, parameters,
      bodyDeclaring declarators body]
  | .node kind span children => do
    return .node kind span (← withoutArrowsEach children)
termination_by structural tree => tree

def withoutArrowsEach : List Tree → Hoisting (List Tree)
  | [] => return []
  | first :: rest => do
    let first ← withoutArrows first
    return first :: (← withoutArrowsEach rest)
termination_by structural trees => trees

end

/-- A program whose functions are ordinary ones. -/
def lowerFunctions (program : Tree) : Pass Tree := do
  let (program, declarators) ← (withoutArrows program).run []
  match program with
  | .node kind span statements =>
    return .node kind span (declaring declarators statements)

end VuePrecompiler.Es5
