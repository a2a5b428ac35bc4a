import VuePrecompiler.Es5.Build

/-!
# Steps of a generator

A generator becomes a list of steps.  Places between steps have labels, to which
steps jump; a label is a variable until it gets the number of its case.  Steps give
back arrays that begin with a number: two returns, three jumps, four yields a
value, five yields all values of an iterator, and seven ends `finally`.
-/

namespace VuePrecompiler.Es5

open Javascript

/-- A statement of a generator, or nothing. -/
structure Step where
  statement : Option Tree
  /-- The label to which the statement jumps. -/
  target : Option Nat
  /-- Whether the next statement is out of reach. -/
  isAbrupt : Bool
  /-- Whether the statement ends the generator. -/
  isCompletion : Bool

/-- The labels of a statement `try`. -/
structure Guarded where
  start : Nat
  handler : Option Nat
  final : Option Nat
  done : Nat

/-- Where a place is entered or left whose statements all need something around. -/
inductive Border where
  /-- A statement `try`, by the label of its start. -/
  | enterTry (start : Nat)
  | leaveTry
  | enterWith (object : Tree)
  | leaveWith

/-- A statement around; those that stay as they are have no labels. -/
inductive Enclosing where
  | loop (leave next : Option Nat)
  | switch (leave : Option Nat)
  | labeled (text : String) (leave : Option Nat)
  | other

/-- A generator as far as it is known. -/
structure Routine where
  /-- The variable that holds the state of the generator. -/
  state : Tree
  steps : Array Step
  /-- The labels, each with the number of steps before it. -/
  labels : List (Nat × Nat)
  /-- The borders, each with the number of steps before it. -/
  borders : List (Nat × Border)
  guarded : List Guarded
  /-- The statements around, the nearest first. -/
  enclosing : List Enclosing
  /-- The variables that the function around declares. -/
  hoisted : List Tree
  /-- The functions that the function around declares. -/
  functions : List Tree
  /-- Labels to which parts of statements jump. -/
  referenced : List Nat

/-- A part of making a generator. -/
abbrev Emission := StateT Routine Pass

/-- A label without a place. -/
def newLabel : Emission Nat := newBinding

/-- Give a label its place: behind all steps so far. -/
def mark (label : Nat) : Emission Unit :=
  modify fun routine =>
    { routine with labels := (label, routine.steps.size) :: routine.labels }

def emitBorder (border : Border) : Emission Unit :=
  modify fun routine =>
    { routine with borders := routine.borders ++ [(routine.steps.size, border)] }

def hoist (found : Tree) : Emission Unit :=
  modify fun routine => { routine with hoisted := routine.hoisted ++ [found] }

/-- A variable of the function around. -/
def newLocal : Emission Tree := do
  let kept ← newVariable "_tmp"
  hoist kept
  return kept

def labelNode (label : Nat) : Tree := variableNode "label" label

/-- `return [code, …];`. -/
def givingNode (code : Nat) (parts : List Tree) : Tree :=
  node .return [node (.array false) (numberNode code :: parts)]

def jumpNode (label : Nat) : Tree := givingNode 3 [labelNode label]

/-- `return [2, value];`, where the value may be absent. -/
def returnedNode (value : Tree) :
    Tree := givingNode 2 (if value.isAbsent then [] else [value])

/-- What the generator was resumed with. -/
def resumedWith : Emission Tree := return callNode (memberNode (← get).state "sent") []

/-! ## Emitting steps -/

def emitStep (step : Step) : Emission Unit :=
  modify fun routine => { routine with steps := routine.steps.push step }

def emitNothing : Emission Unit := emitStep ⟨none, none, false, false⟩

def emitStatement (statement : Tree) : Emission Unit :=
  if statement.kind == .empty then emitNothing
  else emitStep ⟨some statement, none, false, false⟩

def emitExpression (expression : Tree) : Emission Unit :=
  emitStatement (statementNode expression)

def emitAssignment (target value : Tree) : Emission Unit :=
  emitExpression (assignNode target value)

def emitJump (label : Nat) : Emission Unit :=
  emitStep ⟨some (jumpNode label), some label, true, false⟩

def emitJumpIf (label : Nat) (condition : Tree) : Emission Unit :=
  emitStep ⟨some (node .if [condition, jumpNode label, nothing]),
    some label, false, false⟩

def emitJumpUnless (label : Nat) (condition : Tree) : Emission Unit :=
  emitJumpIf label (node (.unary "!") [condition])

def emitYield (code : Nat) (values : List Tree) : Emission Unit :=
  emitStep ⟨some (givingNode code values), none, true, false⟩

def emitCompletion (statement : Tree) : Emission Unit :=
  emitStep ⟨some statement, none, true, true⟩

def emitEndOfFinally :
    Emission Unit := emitStep ⟨some (givingNode 7 []), none, true, false⟩

/-! ## Statements around -/

def enclose (statement : Enclosing) : Emission Unit :=
  modify fun routine => { routine with enclosing := statement :: routine.enclosing }

/-- Leave the nearest statement around. -/
def leaveEnclosing : Emission Unit :=
  modify fun routine => { routine with enclosing := routine.enclosing.drop 1 }

/-- Whether the labels right around a statement have some text among them. -/
def isLabeledWith (text : String) : List Enclosing → Bool
  | .labeled other _ :: rest => other == text || isLabeledWith text rest
  | _ => false

/-- The place to which `break` leads, where it is known. -/
def breakTarget (label : Option String) : List Enclosing → Option Nat
  | [] => none
  | first :: rest =>
    match first, label with
    | .loop leave _, none => leave
    | .switch leave, none => leave
    | .labeled text leave, some label =>
      if text == label then leave else breakTarget (some label) rest
    | .loop leave _, some label =>
      if isLabeledWith label rest then leave else breakTarget (some label) rest
    | .switch leave, some label =>
      if isLabeledWith label rest then leave else breakTarget (some label) rest
    | _, _ => breakTarget label rest

/-- The place to which `continue` leads, where it is known. -/
def continueTarget (label : Option String) : List Enclosing → Option Nat
  | [] => none
  | first :: rest =>
    match first, label with
    | .loop _ next, none => next
    | .loop _ next, some label =>
      if isLabeledWith label rest then next else continueTarget (some label) rest
    | _, _ => continueTarget label rest

/-- The place to which a statement leads. -/
def jumpTarget (kind : Kind) : Emission (Option Nat) := do
  let around := (← get).enclosing
  match kind with
  | .break label => return breakTarget label around
  | .continue label => return continueTarget label around
  | _ => return none

/-- A statement that jumps to a label, as a part of another one. -/
def inlineJump (label : Nat) : Emission Tree := do
  modify fun routine => { routine with referenced := label :: routine.referenced }
  return jumpNode label

end VuePrecompiler.Es5
