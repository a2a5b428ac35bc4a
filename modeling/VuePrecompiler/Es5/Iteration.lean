import VuePrecompiler.Es5.Build

/-!
# Loops over iterables

A `for … of` loop over an array literal counts through a variable that holds
the array; another one calls the iterator and, if it ends early, closes it.
-/

namespace VuePrecompiler.Es5

open Javascript

/-- What the head of a loop does with each value: declare variables or assign. -/
def assigning (target value : Tree) : Tree :=
  match target with
  | .node (.variables keyword) span [.node .declarator _ (pattern :: _)] =>
    .node (.variables keyword) span [declaratorNode pattern value]
  | _ => statementNode (assignNode target value)

/-- `for (var _i = 0, _iter = array; _i < _iter.length; _i++) { … }`. -/
def countingLoop (target array body : Tree) : Pass Tree := do
  let index ← newVariable "_i"
  let kept ← newVariable "_iter"
  let step := node (.update "++" true) [index]
  let test := binaryNode "<" index (memberNode kept "length")
  let first :=
    node (.variables .let) [declaratorNode index (numberNode 0),
      declaratorNode kept array]
  let body := assigning target (indexNode kept index) :: blockStatements body
  return node .for [first, test, step, node .block body]

/-- The labels before a loop are kept on the loop itself. -/
def labeled (labels : List String) (loop : Tree) : Tree :=
  labels.foldr (fun label inner => node (.labeled label) [inner]) loop

/-- The loop over an iterator: the declarations before it and the statement
that runs and closes it. -/
def closingLoop (labels : List String) (target iterable body : Tree) :
    Pass (List Tree) := do
  let isNormal ← newVariable "_iteratorNormalCompletion"
  let hasError ← newVariable "_didIteratorError"
  let error ← newVariable "_iteratorError"
  let iterator ← newVariable "_iterator"
  let step ← newVariable "_step"
  let caught ← newVariable "err"
  let truth (value : Bool) := node (.boolean value) []
  let set (target value : Tree) := statementNode (assignNode target value)
  let start :=
    callNode (indexNode iterable (memberNode (variableNode "Symbol" 0) "iterator")) []
  let advanced :=
    memberNode (assignNode step (callNode (memberNode iterator "next") [])) "done"
  let loop := node .for
    [variablesNode [declaratorNode iterator start, declaratorNode step nothing],
      node (.unary "!") [assignNode isNormal advanced],
      assignNode isNormal (truth true),
      node .block (assigning target (memberNode step "value") :: blockStatements body)]
  let close := node .if
    [binaryNode "&&" (node (.unary "!") [isNormal])
        (binaryNode "!=" (memberNode iterator "return") (node .null [])),
      node .block [statementNode (callNode (memberNode iterator "return") [])],
        nothing]
  let rethrow := node .if [hasError, node .block [node .throw [error]], nothing]
  let handler :=
    node .catch [caught, node .block [set hasError (truth true), set error caught]]
  let final :=
    node .block [node .try [node .block [close], nothing, node .block [rethrow]]]
  return [
    variablesNode
      [declaratorNode isNormal (truth true), declaratorNode hasError (truth false),
        declaratorNode error (variableNode "undefined" 0)],
    node .try [node .block [labeled labels loop], handler, final]]

/-- The statements that a loop under labels becomes. -/
def iterated (labels : List String) (target iterable body : Tree) : Pass (List Tree) :=
  match iterable.kind with
  | .array _ => return [labeled labels (← countingLoop target iterable body)]
  | _ => closingLoop labels target iterable body

/-- A statement that consists of a loop and labels. -/
def underLabels (labels : List String) : Tree → Pass (List Tree)
  | .node (.labeled label) _ [body] => underLabels (labels ++ [label]) body
  | .node (.forOf false) _ [target, iterable, body] =>
    iterated labels target iterable body
  | tree => return [labeled labels tree]

def underLabelsEach : List Tree → Pass (List Tree)
  | [] => return []
  | first :: rest => do
    let first ← underLabels [] first
    return first ++ (← underLabelsEach rest)

/-- One statement for several. -/
def together : List Tree → Tree
  | [single] => single
  | statements => node .block statements

/-- A tree without `for … of` loops. -/
def lowerIteration (tree : Tree) : Pass Tree :=
  Rewriting.tree ⟨fun kind span parts => do
    match kind, parts with
    | .program _, statements => return .node kind span (← underLabelsEach statements)
    | .body, statements => return .node kind span (← underLabelsEach statements)
    | .block, statements => return .node kind span (← underLabelsEach statements)
    | .case, test :: statements =>
      return .node kind span (test :: (← underLabelsEach statements))
    | .if, [test, yes, no] =>
      return .node kind span [test, together (← underLabels [] yes),
        together (← underLabels [] no)]
    | .for, [first, test, step, body] =>
      return .node kind span [first, test, step, together (← underLabels [] body)]
    | .forIn, [target, object, body] =>
      return .node kind span [target, object, together (← underLabels [] body)]
    | .forOf isAwait, [target, object, body] =>
      return .node (.forOf isAwait) span [target, object,
        together (← underLabels [] body)]
    | .while, [test, body] =>
      return .node kind span [test, together (← underLabels [] body)]
    | .doWhile, [test, body] =>
      return .node kind span [test, together (← underLabels [] body)]
    | .with, [object, body] =>
      return .node kind span [object, together (← underLabels [] body)]
    | _, _ => return .node kind span parts⟩ tree

end VuePrecompiler.Es5
