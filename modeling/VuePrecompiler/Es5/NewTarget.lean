import VuePrecompiler.Es5.Build

/-!
# The constructor of a call

`new.target` is the constructor of the new object in a function that `new` calls.
A function is taken to be called so if `this` is one of its instances.
-/

namespace VuePrecompiler.Es5

open Javascript

/-- The function around. -/
inductive Around where
  /-- A method or an accessor, which `new` cannot call. -/
  | method
  /-- A function, by its name. -/
  | function (name : Tree)

/-- What `new.target` is in a function. -/
def targetNode : Around → Tree
  | .method => undefinedNode
  | .function name =>
    let this := node .this []
    node .conditional [binaryNode "instanceof" this name,
      memberNode this "constructor", undefinedNode]

mutual

/-- Whether a tree uses `new.target` of the function around. -/
def usesTarget : Tree → Bool
  | .node .newTarget _ _ => true
  | .node (.functionExpression _) _ _ => false
  | .node (.functionDeclaration _) _ _ => false
  | .node _ _ children => usesTargetEach children

def usesTargetEach : List Tree → Bool
  | [] => false
  | first :: rest => usesTarget first || usesTargetEach rest

end

mutual

/-- A tree without `new.target`. -/
def withoutTarget (around : Around) : Tree → Pass Tree
  | .node .newTarget _ _ => return targetNode around
  | .node (.method kind) span
      [key, .node (.functionExpression mode) functionSpan parts] => do
    let key ← withoutTarget around key
    let parts ← withoutTargetEach .method parts
    return .node (.method kind) span [key,
      .node (.functionExpression mode) functionSpan parts]
  | .node (.functionExpression mode) span (name :: parts) => do
    let name ← if name.isAbsent && usesTargetEach parts then newVariable "_target"
        else pure name
    return .node (.functionExpression mode) span
      (name :: (← withoutTargetEach (.function name) parts))
  | .node (.functionDeclaration mode) span (name :: parts) => do
    return .node (.functionDeclaration mode) span
      (name :: (← withoutTargetEach (.function name) parts))
  | .node kind span children => do
    return .node kind span (← withoutTargetEach around children)
termination_by structural tree => tree

def withoutTargetEach (around : Around) : List Tree → Pass (List Tree)
  | [] => return []
  | first :: rest => do
    let first ← withoutTarget around first
    return first :: (← withoutTargetEach around rest)
termination_by structural trees => trees

end

end VuePrecompiler.Es5
