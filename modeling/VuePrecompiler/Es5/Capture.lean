import VuePrecompiler.Es5.Hoisting

/-!
# What functions around mean

A piece of code that moves into a function of its own still means `this` and
`arguments` of the function that it comes from.  Variables around keep them.
-/

namespace VuePrecompiler.Es5

open Javascript

def isArguments : Tree → Bool
  | .node (.identifier name _) _ _ => name == "arguments"
  | _ => false

/-- The variable among declarators that keeps a value. -/
def keeping? (isKept : Tree → Bool) : List Tree → Option Tree
  | [] => none
  | .node .declarator _ [target, value] :: rest =>
    if isKept value then some target else keeping? isKept rest
  | _ :: rest => keeping? isKept rest

/-- The variable for `this`, which is declared before others. -/
def keptThis : Hoisting Tree := do
  match keeping? (fun value => value.kind == .this) (← get) with
  | some kept => return kept
  | none =>
    let kept ← newVariable "_this"
    modify (declaratorNode kept (node .this []) :: ·)
    return kept

/-- The variable for `arguments`. -/
def keptArguments : Hoisting Tree := do
  match keeping? isArguments (← get) with
  | some kept => return kept
  | none =>
    let kept ← newVariable "_arguments"
    modify (· ++ [declaratorNode kept argumentsNode])
    return kept

mutual

/-- Code that has variables for `arguments` and, if `withThis`, for `this`.  Functions
inside of it have their own. -/
def detached (withThis : Bool) : Tree → Hoisting Tree
  | .node .this span children =>
    if withThis then keptThis else return .node .this span children
  | .node (.identifier name binding) span children =>
    if name == "arguments" then keptArguments
    else return .node (.identifier name binding) span children
  | .node (.functionExpression mode) span parts =>
    return .node (.functionExpression mode) span parts
  | .node (.functionDeclaration mode) span parts =>
    return .node (.functionDeclaration mode) span parts
  | .node kind span children => do
    return .node kind span (← detachedEach withThis children)
termination_by structural tree => tree

def detachedEach (withThis : Bool) : List Tree → Hoisting (List Tree)
  | [] => return []
  | first :: rest => do
    let first ← detached withThis first
    return first :: (← detachedEach withThis rest)
termination_by structural trees => trees

end

end VuePrecompiler.Es5
