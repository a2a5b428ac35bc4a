import VuePrecompiler.Es5.SuperMembers

/-!
# Constructors

The constructor of a class becomes a function that only `new` may call.  In a
class with a superclass the object comes from the call of the superclass and is
kept in a variable, which stands for `this`.
-/

namespace VuePrecompiler.Es5

open Javascript

/-- A class as its constructor knows it. -/
structure ClassNames where
  name : Tree
  /-- What the superclass is called inside of the class, if there is one. -/
  parent : Option Tree

/-- The objects that methods of a class belong to. -/
def ClassNames.home (names : ClassNames) (isStatic : Bool) : Home where
  object := if isStatic then names.name else memberNode names.name "prototype"
  receiver := node .this []
  isPending := false
  isLiteral := false

/-- `super(…)`, which calls the superclass to make the object. -/
def superCall (name : Tree) (items : List Tree) : Pass Tree :=
  let object := node .this []
  match items with
  | [] => helperCall "call_super" [object, name]
  | [.node .spread _ [.node (.identifier "arguments" _) _ _]] =>
    helperCall "call_super" [object, name, argumentsNode]
  | _ => helperCall "call_super" [object, name, node (.array false) items]

/-- A constructor that follows how far the object is made: the state tells
whether the superclass has been called. -/
abbrev Constructing := StateT Bool Pass

/-- What may be skipped tells nothing about what is run behind it. -/
def tentatively (inner : Constructing Tree) : Constructing Tree := do
  let isMade ← get
  let result ← inner
  set isMade
  return result

/-- The object, wherever it may be used. -/
def madeObject (kept : Tree) : Constructing Tree := do
  if ← get then return kept else helperCall "assert_this_initialized" [kept]

mutual

/-- A part of a constructor with a variable for the object. -/
def onKept (name kept : Tree) (inArrow : Bool) : Tree → Constructing Tree
  | .node .this _ _ => madeObject kept
  | .node (.call false) _ (.node .super _ _ :: items) => do
    let items ← onKeptEach name kept inArrow items
    set true
    return assignNode kept (← superCall name items)
  | .node .return span [value] => do
    let value ← onKept name kept inArrow value
    if inArrow then return .node .return span [value]
    else if value.isAbsent then return .node .return span [← madeObject kept]
    else
      return .node .return span
        [← helperCall "possible_constructor_return" [kept, value]]
  | .node (.functionExpression mode) span parts =>
    return .node (.functionExpression mode) span parts
  | .node (.functionDeclaration mode) span parts =>
    return .node (.functionDeclaration mode) span parts
  | .node (.arrow isAsync) span [parameters, body] =>
    tentatively do
      let parameters ← onKept name kept true parameters
      return .node (.arrow isAsync) span [parameters, ← onKept name kept true body]
  | .node .if span [test, yes, no] => do
    let test ← onKept name kept inArrow test
    let yes ← tentatively (onKept name kept inArrow yes)
    return .node .if span [test, yes, ← tentatively (onKept name kept inArrow no)]
  | .node .conditional span [test, yes, no] => do
    let test ← onKept name kept inArrow test
    let yes ← tentatively (onKept name kept inArrow yes)
    return .node .conditional span [test, yes,
      ← tentatively (onKept name kept inArrow no)]
  | .node (.binary operator) span [left, right] => do
    let left ← onKept name kept inArrow left
    let right :=
      if ["&&", "||", "??"].contains operator then
        tentatively (onKept name kept inArrow right)
      else onKept name kept inArrow right
    return .node (.binary operator) span [left, ← right]
  | .node kind span children =>
    let inner : Constructing Tree := do
      return .node kind span (← onKeptEach name kept inArrow children)
    match kind with
    | .for => tentatively inner
    | .forIn => tentatively inner
    | .forOf _ => tentatively inner
    | .while => tentatively inner
    | .doWhile => tentatively inner
    | .switch => tentatively inner
    | .try => tentatively inner
    | _ => inner
termination_by structural tree => tree

def onKeptEach (name kept : Tree) (inArrow : Bool) :
    List Tree → Constructing (List Tree)
  | [] => return []
  | first :: rest => do
    let first ← onKept name kept inArrow first
    return first :: (← onKeptEach name kept inArrow rest)
termination_by structural trees => trees

end

mutual

/-- Whether a variable is used in a tree. -/
def mentions (binding : Nat) : Tree → Bool
  | .node (.identifier _ found) _ _ => found == binding
  | .node _ _ children => mentionsEach binding children

def mentionsEach (binding : Nat) : List Tree → Bool
  | [] => false
  | first :: rest => mentions binding first || mentionsEach binding rest

end

def isReturn (tree : Tree) : Bool := tree.kind == .return

def derivedStatements (names : ClassNames) (statements : List Tree) :
    Pass (List Tree) := do
  let binding ← newBinding
  let kept := variableNode "_this" binding
  let home := { names.home false with receiver := kept, isPending := true }
  let (statements, declarators) ← (home.withoutSuperEach statements).run []
  let first := undefinedVariables [kept]
  match statements.getLast? with
  | some (.node .expressionStatement _
      [.node (.call false) _ (.node .super _ _ :: items)]) =>
    let (others, isMade) ←
      (onKeptEach names.name kept false statements.dropLast).run false
    let (items, _) ← (onKeptEach names.name kept false items).run isMade
    let call ← superCall names.name items
    if mentionsEach binding others || mentionsEach binding items then
      return declaring declarators (first :: others ++
        [node .return [assignNode kept call]])
    else return declaring declarators (others ++ [node .return [call]])
  | last => do
    let (statements, isMade) ← (onKeptEach names.name kept false statements).run false
    let (object, _) ← (madeObject kept).run isMade
    let final := if last.any isReturn then [] else [node .return [object]]
    return declaring declarators (first :: statements ++ final)

def constructorFunction (names : ClassNames) (given : Option Tree) : Pass Tree := do
  let check :=
    statementNode (← helperCall "class_call_check" [node .this [], names.name])
  let function (parameters : Tree) (statements : List Tree) : Tree :=
    node (.functionDeclaration ⟨false, false⟩) [names.name, parameters,
      node .body (check :: statements)]
  match given with
  | some (.node _ _ [_, parameters, .node .body _ statements]) =>
    if names.parent.isSome then
      return function parameters (← derivedStatements names statements)
    else
      let (statements, _) ← ((names.home false).withoutSuperEach statements).run []
      return function parameters statements
  | _ =>
    if names.parent.isSome then
      let call ← helperCall "call_super" [node .this [], names.name, argumentsNode]
      return function (node .parameters []) [node .return [call]]
    else return function (node .parameters []) []

end VuePrecompiler.Es5
