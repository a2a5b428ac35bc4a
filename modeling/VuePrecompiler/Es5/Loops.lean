import VuePrecompiler.Es5.Capture
import VuePrecompiler.Es5.Exits

/-!
# Variables of functions

`let` and `const` become `var`.  A variable that a loop declares anew in each round
and that a function may read later needs a function of its own around the round:
the body becomes a function `_loop`, which the loop calls.
-/

namespace VuePrecompiler.Es5

open Javascript

/-- A declarator that sets its variable. -/
def withValue : Tree → Tree
  | .node .declarator span [target, .node .absent _ _] =>
    .node .declarator span [target, undefinedNode]
  | tree => tree

/-! ## Rounds that assign the variables of the head -/

/-- The variables of a head that a body assigns, each with a new one. -/
def renewed (body : Tree) : List Tree → Pass (List (Tree × Tree))
  | [] => return []
  | first :: rest => do
    let others ← renewed body rest
    let changed := assignedVariables body
    if (patternVariables first).any changed.contains then
      return (first, ← newVariable (aliasText first)) :: others
    else return others

mutual

/-- A body that evaluates some expressions before each value that it returns. -/
def returningBehind (expressions : List Tree) : Tree → Tree
  | .node kind span children =>
    match kind, children with
    | .return, [value] => .node kind span [node .sequence (expressions ++ [value])]
    | _, _ =>
      if isClosed kind then .node kind span children
      else .node kind span (returningBehindEach expressions children)

def returningBehindEach (expressions : List Tree) : List Tree → List Tree
  | [] => []
  | first :: rest =>
    returningBehind expressions first :: returningBehindEach expressions rest

end

/-- The statements of a round whose parameters are new variables; the variables of
the head have their values behind it. -/
def withRenewed (pairs : List (Tree × Tree)) (statements : List Tree) : List Tree :=
  let others := pairs.flatMap fun (old, new) =>
    (patternVariables old).map fun found => (found.2, new)
  let back := pairs.map fun (old, new) => assignNode old new
  let statements := returningBehindEach back (withReplacedEach others statements)
  let endsAlone := (statements.getLast?.map Tree.kind) == some .return
  if pairs.isEmpty || endsAlone then statements
  else statements ++ [statementNode (node .sequence (back ++ [undefinedNode]))]

/-! ## Bodies as functions -/

/-- The call of a body as a function, which may suspend the function around. -/
def roundCall (mode : FunctionMode) (loop : Tree) (given : List Tree) : Tree :=
  let call := callNode loop given
  let call := if mode.isGenerator then node (.yield true) [call] else call
  if mode.isAsync then node .await [call] else call

/-- The body of a loop that calls a function for each round. -/
def calledBody (head body : Tree) : Hoisting Tree := do
  let given := roundVariables head
  let (body, kept) ← (detached true body).run []
  let (body, exits) := told body
  let pairs ← renewed body given
  let parameters := given.map fun found =>
    ((pairs.find? fun pair => pair.1.kind == found.kind).map Prod.snd).getD found
  let mode : FunctionMode := ⟨awaits body, yields body⟩
  let statements := withRenewed pairs (blockStatements body)
  let loop ← newVariable "_loop"
  let function :=
    node (.functionExpression mode)
      [nothing, node .parameters parameters, node .body statements]
  let keptVariables := kept.flatMap fun found => found.children.take 1
  modify (· ++ keptVariables.map (declaratorNode · nothing) ++
    [declaratorNode loop function])
  let settings := kept.map fun found => node (.assign "=") found.children
  let call := joinedExpressions (settings ++ [roundCall mode loop given])
  if exits.areTold then
    let result ← newVariable "_ret"
    return node .block (variablesNode [declaratorNode result call] ::
      (← asking exits result))
  else return statementNode call

/-- The body of a loop: `before` is the body whose variables are still its own. -/
def roundBody (head before body : Tree) : Hoisting Tree :=
  if readsLater head before then calledBody head body else return body

/-- A statement behind a declaration in one block, if there is something to declare. -/
def blockDeclaring (declarators : List Tree) (statement : Tree) : Tree :=
  if declarators.isEmpty then statement
  else node .block [variablesNode declarators, statement]

mutual

/-- A tree whose variables are those of functions. -/
def functionScoped (inLoop : Bool) : Tree → Hoisting Tree
  | .node .forIn span [head, object, body] => do
    let newHead ← functionScoped false head
    let object ← functionScoped inLoop object
    let (newBody, declarators) ← (functionScoped true body).run []
    let newBody ← roundBody head body (blockDeclaring declarators newBody)
    return .node .forIn span [newHead, object, newBody]
  | .node (.forOf isAwait) span [head, object, body] => do
    let newHead ← functionScoped false head
    let object ← functionScoped inLoop object
    let (newBody, declarators) ← (functionScoped true body).run []
    let newBody ← roundBody head body (blockDeclaring declarators newBody)
    return .node (.forOf isAwait) span [newHead, object, newBody]
  | .node .for span [head, test, step, body] => do
    let newHead ← functionScoped inLoop head
    let test ← functionScoped inLoop test
    let step ← functionScoped inLoop step
    let (newBody, declarators) ← (functionScoped true body).run []
    let newBody ← roundBody head body (blockDeclaring declarators newBody)
    return .node .for span [newHead, test, step, newBody]
  | .node .while span [test, body] => do
    let test ← functionScoped inLoop test
    let (newBody, declarators) ← (functionScoped true body).run []
    let newBody ← roundBody nothing body (blockDeclaring declarators newBody)
    return .node .while span [test, newBody]
  | .node .doWhile span [test, body] => do
    let test ← functionScoped inLoop test
    let (newBody, declarators) ← (functionScoped true body).run []
    let newBody ← roundBody nothing body (blockDeclaring declarators newBody)
    return .node .doWhile span [test, newBody]
  | .node .case span (test :: statements) => do
    let test ← functionScoped inLoop test
    return .node .case span (test :: (← functionScopedStatements inLoop statements))
  | .node kind span children => do
    let isInside := inLoop && !isClosed kind
    if isStatementList kind then
      return .node kind span (← functionScopedStatements isInside children)
    else
      let parts ← functionScopedEach isInside children
      match kind with
      | .variables keyword =>
        let parts := if inLoop && keyword != .var then parts.map withValue else parts
        return .node (.variables .var) span parts
      | _ => return .node kind span parts
termination_by structural tree => tree

def functionScopedEach (inLoop : Bool) : List Tree → Hoisting (List Tree)
  | [] => return []
  | first :: rest => do
    let first ← functionScoped inLoop first
    return first :: (← functionScopedEach inLoop rest)
termination_by structural trees => trees

/-- Statements, each behind a declaration of the functions that it calls. -/
def functionScopedStatements (inLoop : Bool) : List Tree → Pass (List Tree)
  | [] => return []
  | first :: rest => do
    let (first, declarators) ← (functionScoped inLoop first).run []
    return declaring declarators [first] ++ (← functionScopedStatements inLoop rest)
termination_by structural statements => statements

end

/-- A program whose variables are those of functions. -/
def withFunctionVariables (program : Tree) : Pass Tree := do
  let (program, _) ← (functionScoped false program).run []
  return program

end VuePrecompiler.Es5
