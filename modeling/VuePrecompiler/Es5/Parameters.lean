import VuePrecompiler.Es5.Capture

/-!
# Parameters

A function of ECMAScript 5 has variables for parameters.  Patterns, defaults and
rest parameters become variables at the start of its body.  Defaults and rest
parameters read `arguments`, which arrow functions have not: these become
ordinary functions.
-/

namespace VuePrecompiler.Es5

open Javascript

/-- Plain parameters and what the body sets before all else. -/
structure Unpacked where
  parameters : List Tree
  declarators : List Tree
  /-- The loop that fills a rest parameter, and what comes after it. -/
  statements : List Tree

def countNode : Tree := memberNode argumentsNode "length"

/-- The argument at an index, or another value if it is missing or undefined. -/
def argumentOr (index : Nat) (other : Tree) : Tree :=
  let found := indexNode argumentsNode (numberNode index)
  let isGiven :=
    binaryNode "&&" (binaryNode ">" countNode (numberNode index))
      (binaryNode "!==" found undefinedNode)
  node .conditional [isGiven, found, other]

def argumentAt (index : Nat) : Tree :=
  node .conditional
    [binaryNode ">" countNode (numberNode index),
      indexNode argumentsNode (numberNode index), undefinedNode]

/-- `for (var _len = arguments.length, r = new Array(_len), _key = 0; …)` around
`{ r[_key] = arguments[_key]; }`, for the arguments from an index on. -/
def restLoop (target : Tree) (index : Nat) : Pass Tree := do
  let count ← newVariable "_len"
  let key ← newVariable "_key"
  let start := numberNode index
  let size :=
    if index == 0 then count
    else
      node .conditional [binaryNode ">" count start, binaryNode "-" count start,
        numberNode 0]
  let place := if index == 0 then key else binaryNode "-" key start
  let array := node (.new true) [variableNode "Array" 0, size]
  return node .for
    [node (.variables .let)
        [declaratorNode count countNode, declaratorNode target array,
          declaratorNode key start],
      binaryNode "<" key count,
      node (.update "++" true) [key],
      node .block [statementNode
        (assignNode (indexNode target place) (indexNode argumentsNode key))]]

/-- Unpack the parameters from an index on; behind a default, parameters are
read from the arguments. -/
def unpacked (index : Nat) (isBehindDefault : Bool) : List Tree → Pass Unpacked
  | [] => return ⟨[], [], []⟩
  | first :: rest =>
    match first with
    | .node .withDefault _ [target, value] => do
      let others ← unpacked (index + 1) true rest
      let declarator := declaratorNode target (argumentOr index value)
      return { others with declarators := declarator :: others.declarators }
    | .node .rest _ [target] =>
      match target.kind with
      | .identifier _ _ => return ⟨[], [], [← restLoop target index]⟩
      | _ => do
        let kept ← newVariable "_tmp"
        let loop ← restLoop kept index
        return ⟨[], [], [loop, node (.variables .let) [declaratorNode target kept]]⟩
    | _ => do
      if isBehindDefault then
        let others ← unpacked (index + 1) true rest
        let declarator := declaratorNode first (argumentAt index)
        return { others with declarators := declarator :: others.declarators }
      else
        match first.kind with
        | .identifier _ _ =>
          let others ← unpacked (index + 1) false rest
          return { others with parameters := first :: others.parameters }
        | _ =>
          let parameter ← newVariable "param"
          let others ← unpacked (index + 1) false rest
          return { others with
            parameters := parameter :: others.parameters
            declarators := declaratorNode first parameter :: others.declarators }

/-- Parameters and a body, the parameters plain. -/
def withPlainParameters (parameters body : Tree) : Pass (List Tree) := do
  match parameters, body with
  | .node .parameters span items, .node .body bodySpan statements =>
    let ready ← unpacked 0 false items
    let first :=
      if ready.declarators.isEmpty then []
      else [node (.variables .let) ready.declarators]
    return [.node .parameters span ready.parameters,
      .node .body bodySpan (prepend (first ++ ready.statements) statements)]
  | _, _ => return [parameters, body]

/-- The body of an ordinary function, where that of an arrow may be an expression. -/
def functionBody (body : Tree) : Tree :=
  match body.kind with
  | .body => body
  | _ => node .body [node .return [body]]

/-- Whether a parameter is read from `arguments`. -/
def readsArguments (parameter : Tree) : Bool :=
  parameter.kind == .withDefault || parameter.kind == .rest

def isVariable : Tree → Bool
  | .node (.identifier _ _) _ _ => true
  | _ => false

/-- A program whose functions have plain parameters. -/
def lowerParameters (program : Tree) : Pass Tree :=
  HoistingRewriting.run ⟨.atStart, fun kind span parts => do
    match kind, parts with
    | .arrow isAsync, [parameters, body] =>
      if parameters.children.any readsArguments then
        let parameters ← detached true parameters
        let body ← detached true (functionBody body)
        return .node (.functionExpression ⟨isAsync, false⟩) span
          (nothing :: (← withPlainParameters parameters body))
      else if parameters.children.all isVariable then return .node kind span parts
      else
        return .node kind span
          (← withPlainParameters parameters (functionBody body))
    | .functionExpression mode, [name, parameters, body] =>
      return .node (.functionExpression mode) span
        (name :: (← withPlainParameters parameters body))
    | .functionDeclaration mode, [name, parameters, body] =>
      return .node (.functionDeclaration mode) span
        (name :: (← withPlainParameters parameters body))
    | _, _ => return .node kind span parts⟩ program

end VuePrecompiler.Es5
