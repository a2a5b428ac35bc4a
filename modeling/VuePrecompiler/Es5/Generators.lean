import VuePrecompiler.Es5.Capture
import VuePrecompiler.Es5.Cases
import VuePrecompiler.Es5.Yields

/-!
# Generators

A generator becomes a function that runs numbered cases.  Statements that yield are
written out in steps with jumps between them; others stay as they are, but for what
leaves them.
-/

namespace VuePrecompiler.Es5

open Javascript

/-- The assignments that a declaration makes; its variables belong to the function
around. -/
def hoistedAssignments : List Tree → Emission (List Tree)
  | [] => return []
  | .node .declarator _ [target, value] :: rest => do
    hoist target
    let others ← hoistedAssignments rest
    return if value.isAbsent then others else assignNode target value :: others
  | _ :: rest => hoistedAssignments rest

/-- The start of a loop without a declaration. -/
def hoistedStart (start : Tree) : Emission Tree := do
  match start with
  | .node (.variables _) _ declarators =>
    let assignments ← hoistedAssignments declarators
    return if assignments.isEmpty then nothing else joinedExpressions assignments
  | _ => return start

/-- The target of a loop without a declaration. -/
def hoistedTarget (target : Tree) : Emission Tree := do
  match target with
  | .node (.variables _) _ [.node .declarator _ (found :: _)] =>
    hoist found
    return found
  | _ => return target

/-! ## Statements that stay -/

/-- Do something inside of a statement around, if it is part of one that yields. -/
def within (isSplit : Bool) (around : Enclosing) (action : Emission α) :
    Emission α := do
  if isSplit then
    enclose around
    let result ← action
    leaveEnclosing
    return result
  else action

/-- The parts of a node, without empty statements in lists of statements. -/
def withoutEmpty (kind : Kind) (parts : List Tree) : List Tree :=
  if isStatementList kind || kind == .case then parts.filter fun found =>
    found.kind != .empty
  else parts

/-- A statement that leads out of another one, as a part of it. -/
def settledJump (isSplit : Bool) (statement : Tree) : Emission Tree := do
  match ← if isSplit then jumpTarget statement.kind else pure none with
  | some label => inlineJump label
  | none => return statement

mutual

/-- A statement that stays a statement; `isSplit` tells whether it is part of one that
yields. -/
def settled (isSplit : Bool) : Tree → Emission Tree
  | .node (.variables _) _ declarators => do
    let assignments ← hoistedAssignments declarators
    return if assignments.isEmpty then node .empty []
      else statementNode (joinedExpressions assignments)
  | .node (.functionDeclaration mode) span parts => do
    let function : Tree := .node (.functionDeclaration mode) span parts
    modify fun routine => { routine with functions := routine.functions ++ [function] }
    return node .empty []
  | .node .return _ [value] => return returnedNode (← resumable value)
  | .node (.break label) span _ => settledJump isSplit (.node (.break label) span [])
  | .node (.continue label) span _ =>
    settledJump isSplit (.node (.continue label) span [])
  | .node .if span [test, yes, no] => do
    let test ← resumable test
    let yes ← settled isSplit yes
    return .node .if span [test, yes, ← settled isSplit no]
  | .node .for span [start, test, step, body] =>
    within isSplit (.loop none none) do
      let start ← hoistedStart start
      return .node .for span [start, test, step, ← settled isSplit body]
  | .node .forIn span [target, object, body] =>
    within isSplit (.loop none none) do
      let target ← hoistedTarget target
      return .node .forIn span [target, object, ← settled isSplit body]
  | .node .while span [test, body] =>
    within isSplit (.loop none none) do
      return .node .while span [test, ← settled isSplit body]
  | .node .doWhile span [test, body] =>
    within isSplit (.loop none none) do
      return .node .doWhile span [test, ← settled isSplit body]
  | .node .switch span (value :: cases) =>
    within isSplit (.switch none) do
      let value ← resumable value
      return .node .switch span (value :: (← settledEach isSplit cases))
  | .node (.labeled text) span [body] =>
    within isSplit (.labeled text none) do
      return .node (.labeled text) span [← settled isSplit body]
  | .node kind span children => do
    if isClosed kind then return .node kind span children
    else
      let parts ← settledEach isSplit children
      return .node kind span (withoutEmpty kind parts)
termination_by structural tree => tree

def settledEach (isSplit : Bool) : List Tree → Emission (List Tree)
  | [] => return []
  | first :: rest => do
    let first ← settled isSplit first
    return first :: (← settledEach isSplit rest)
termination_by structural trees => trees

end

/-! ## Statements in steps -/

/-- Set the variables of a declaration; those in `before` are still to be set. -/
def emitDeclarators (before : List Tree) : List Tree → Emission Unit
  | [] => if before.isEmpty then return else emitExpression (joinedExpressions before)
  | .node .declarator _ [target, value] :: rest => do
    if value.isAbsent then emitDeclarators before rest
    else if yields value && !before.isEmpty then
      emitExpression (joinedExpressions before)
      emitDeclarators [assignNode target (← resumable value)] rest
    else emitDeclarators (before ++ [assignNode target (← resumable value)]) rest
  | _ :: rest => emitDeclarators before rest

def emitVariables (declarators : List Tree) : Emission Unit := do
  let _ ← hoistedAssignments declarators
  emitDeclarators [] declarators

/-- Jump to the first case with a value; those in `before` are still to be tried. -/
def emitChoice (value : Tree) (before : List Tree) : List (Tree × Nat) → Emission Unit
  | [] =>
    if before.isEmpty then return else emitStatement (node .switch (value :: before))
  | (test, label) :: rest => do
    if test.isAbsent then emitChoice value before rest
    else
      let isSplit := yields test && !before.isEmpty
      if isSplit then emitStatement (node .switch (value :: before))
      let test ← resumable test
      let found := node .case [test, ← inlineJump label]
      emitChoice value (if isSplit then [found] else before ++ [found]) rest

/-- A label for each of some cases. -/
def newLabels : List Tree → Emission (List Nat)
  | [] => return []
  | _ :: rest => do
    let label ← newLabel
    return label :: (← newLabels rest)

/-- Begin a loop. -/
def emitStart (start : Tree) : Emission Unit := do
  match start with
  | .node (.variables _) _ declarators => emitVariables declarators
  | _ => if start.isAbsent then return else emitExpression (← resumable start)

/-- A statement that leads out of those around. -/
def emitLeaving (statement : Tree) : Emission Unit := do
  match ← jumpTarget statement.kind with
  | some label => emitJump label
  | none => emitStatement statement

/-- Jump to the end of a `try` and begin its next part, whose label is the result. -/
def emitPart (done : Nat) : Emission (Option Nat) := do
  emitJump done
  let label ← newLabel
  mark label
  return some label

def caseTest (found : Tree) : Tree := (found.children.head?).getD nothing

/-- Emit a statement that stays one. -/
def emitSettled (isSplit : Bool) (statement : Tree) : Emission Unit := do
  emitStatement (← settled (isSplit || yields statement) statement)

mutual

/-- Write a statement out in steps: `isSplit` tells whether it is part of one that
yields, and `isPart` whether it is the body of one that was written out. -/
def emitted (isSplit isPart : Bool) : Tree → Emission Unit
  | .node .absent _ _ => return
  | .node .return _ [value] => do emitCompletion (returnedNode (← resumable value))
  | .node .throw span [value] => do
    emitCompletion (.node .throw span [← resumable value])
  | .node (.break label) span parts => emitLeaving (.node (.break label) span parts)
  | .node (.continue label) span parts =>
    emitLeaving (.node (.continue label) span parts)
  | .node .expressionStatement span [value] => do
    emitStatement (.node .expressionStatement span [← resumable value])
  | .node .block span statements =>
    if isPart || yieldsEach statements then
      emittedEach (isSplit || yieldsEach statements) statements
    else emitSettled isSplit (.node .block span statements)
  | .node (.variables keyword) span declarators =>
    if yieldsEach declarators then emitVariables declarators
    else emitSettled isSplit (.node (.variables keyword) span declarators)
  | .node .if span [test, yes, no] => do
    if yields yes || yields no then
      let done ← newLabel
      if no.isAbsent then
        emitJumpUnless done (← resumable test)
        emitted true true yes
      else
        let other ← newLabel
        emitJumpUnless other (← resumable test)
        emitted true true yes
        emitJump done
        mark other
        emitted true true no
      mark done
    else emitSettled isSplit (.node .if span [test, yes, no])
  | .node .doWhile span [test, body] => do
    if yields test || yields body then
      let next ← newLabel
      let start ← newLabel
      let done ← newLabel
      enclose (.loop (some done) (some next))
      mark start
      emitted true true body
      mark next
      emitJumpIf start (← resumable test)
      leaveEnclosing
      mark done
    else emitSettled isSplit (.node .doWhile span [test, body])
  | .node .while span [test, body] => do
    if yields test || yields body then
      let start ← newLabel
      let done ← newLabel
      enclose (.loop (some done) (some start))
      mark start
      emitJumpUnless done (← resumable test)
      emitted true true body
      emitJump start
      leaveEnclosing
      mark done
    else emitSettled isSplit (.node .while span [test, body])
  | .node .for span [start, test, step, body] => do
    if yieldsEach [start, test, step, body] then
      let again ← newLabel
      let next ← newLabel
      let done ← newLabel
      enclose (.loop (some done) (some next))
      emitStart start
      mark again
      if !test.isAbsent then emitJumpUnless done (← resumable test)
      emitted true true body
      mark next
      if !step.isAbsent then emitExpression (← resumable step)
      emitJump again
      leaveEnclosing
      mark done
    else emitSettled isSplit (.node .for span [start, test, step, body])
  | .node .forIn span [target, object, body] => do
    if yieldsEach [target, object, body] then
      let keys ← newLocal
      let key ← newLocal
      let index ← newVariable "_i"
      hoist index
      emitAssignment keys (node (.array false) [])
      let collect := statementNode (callNode (memberNode keys "push") [key])
      emitStatement (node .forIn [key, ← resumable object, collect])
      emitAssignment index (numberNode 0)
      let again ← newLabel
      let next ← newLabel
      let done ← newLabel
      enclose (.loop (some done) (some next))
      mark again
      emitJumpUnless done (binaryNode "<" index (memberNode keys "length"))
      emitAssignment (← hoistedTarget target) (indexNode keys index)
      emitted true true body
      mark next
      emitExpression (node (.update "++" true) [index])
      emitJump again
      leaveEnclosing
      mark done
    else emitSettled isSplit (.node .forIn span [target, object, body])
  | .node .with span [object, body] => do
    if yields object || yields body then
      let object ← keptValue (← resumable object)
      let start ← newLabel
      let done ← newLabel
      mark start
      emitBorder (.enterWith object)
      enclose .other
      emitted true true body
      leaveEnclosing
      emitBorder .leaveWith
      mark done
    else emitSettled isSplit (.node .with span [object, body])
  | .node .switch span (value :: cases) => do
    if yieldsEach cases then
      let done ← newLabel
      enclose (.switch (some done))
      let value ← keptValue (← resumable value)
      let labels ← newLabels cases
      let choices := (cases.map caseTest).zip labels
      emitChoice value [] choices
      emitJump
        (((choices.find? fun choice => choice.1.isAbsent).map Prod.snd).getD done)
      emittedCases labels cases
      leaveEnclosing
      mark done
    else emitSettled isSplit (.node .switch span (value :: cases))
  | .node (.labeled text) span [body] => do
    if yields body then
      let done ← newLabel
      enclose (.labeled text (some done))
      emitted true true body
      leaveEnclosing
      mark done
    else emitSettled isSplit (.node (.labeled text) span [body])
  | .node .try span [block, handler, final] => do
    if yieldsEach [block, handler, final] then
      let start ← newLabel
      let done ← newLabel
      mark start
      emitBorder (.enterTry start)
      enclose .other
      emitNothing
      emitted true true block
      let handlerLabel ← emittedHandler done handler
      let finalLabel ← if final.isAbsent then pure none else emitPart done
      emitted true true final
      leaveEnclosing
      emitBorder .leaveTry
      if final.isAbsent then emitJump done else emitEndOfFinally
      mark done
      emitNothing
      let labels : Guarded := ⟨start, handlerLabel, finalLabel, done⟩
      modify fun routine => { routine with guarded := labels :: routine.guarded }
    else emitSettled isSplit (.node .try span [block, handler, final])
  | tree => emitSettled isSplit tree
termination_by structural tree => tree

/-- Write a handler out behind a jump to the end of its `try`, and give its label. -/
def emittedHandler (done : Nat) : Tree → Emission (Option Nat)
  | .node .catch _ [parameter, body] => do
    let label ← emitPart done
    if !parameter.isAbsent then
      hoist parameter
      emitAssignment parameter (← resumedWith)
    emitNothing
    emitted true true body
    return label
  | _ => return none
termination_by structural handler => handler

def emittedEach (isSplit : Bool) : List Tree → Emission Unit
  | [] => return
  | first :: rest => do
    emitted isSplit false first
    emittedEach isSplit rest
termination_by structural statements => statements

/-- Write the statements of cases out, each behind its label. -/
def emittedCases (labels : List Nat) : List Tree → Emission Unit
  | .node .case _ (_ :: statements) :: rest => do
    (labels.take 1).forM mark
    emittedEach true statements
    emittedCases (labels.drop 1) rest
  | _ => return
termination_by structural cases => cases

end

/-! ## Functions -/

/-- The body of an ordinary function that runs a generator. -/
def generatorStatements (statements : List Tree) : Pass (List Tree) := do
  let (statements, kept) ← (detachedEach false statements).run []
  let state ← newVariable "_state"
  let (_, routine) ← (emittedEach false statements).run
    ⟨state, #[], [], [], [], [], [], [], []⟩
  let step := functionNode [state] routine.statements
  let call ← helperCall "ts_generator" [node .this [], step]
  let declarators := routine.hoisted.map fun found => declaratorNode found nothing
  return declaring kept (declaring declarators (routine.functions ++
    [node .return [call]]))

def lowerGenerators (program : Tree) : Pass Tree :=
  Rewriting.tree ⟨fun kind span parts => do
    match kind, parts with
    | .functionExpression ⟨isAsync, true⟩,
        [name, parameters, .node .body bodySpan statements] =>
      let statements ← generatorStatements statements
      return .node (.functionExpression ⟨isAsync, false⟩) span
        [name, parameters, .node .body bodySpan statements]
    | .functionDeclaration ⟨isAsync, true⟩,
        [name, parameters, .node .body bodySpan statements] =>
      let statements ← generatorStatements statements
      return .node (.functionDeclaration ⟨isAsync, false⟩) span
        [name, parameters, .node .body bodySpan statements]
    | _, _ => return .node kind span parts⟩ program

end VuePrecompiler.Es5
