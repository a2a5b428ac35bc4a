import VuePrecompiler.Es5.Occurrences
import VuePrecompiler.Es5.Steps

/-!
# Cases of a generator

The steps of a generator become the cases of a statement `switch`: a case begins
wherever a label stands behind a statement.
-/

namespace VuePrecompiler.Es5

open Javascript

/-- Cases as far as they are known. -/
structure Assembly where
  /-- The statements of the cases that are complete. -/
  cases : List (List Tree)
  /-- The statements of the next case, if it has begun. -/
  current : Option (List Tree)
  /-- The numbers of labels. -/
  numbers : List (Nat × Nat)
  isAbrupt : Bool
  isCompletion : Bool
  /-- The `try` that was entered last and that no case has noted. -/
  entered : Option Guarded
  /-- The same for the statements around. -/
  outer : List (Option Guarded)
  /-- The objects of the statements `with` around, the nearest first. -/
  objects : List Tree
  /-- The labels to which something jumps. -/
  referenced : List Nat

namespace Assembly

/-- `state.trys.push([…]);`. -/
def noting (state : Tree) (labels : Guarded) : Tree :=
  let optional (label : Option Nat) := (label.map labelNode).getD nothing
  let array := node (.array false)
    [labelNode labels.start, optional labels.handler, optional labels.final,
      labelNode labels.done]
  statementNode (callNode (memberNode (memberNode state "trys") "push") [array])

/-- Complete the case that has begun; it may go on with the next case. -/
def complete (state : Tree) (goesOn : Bool) (assembly : Assembly) : Assembly :=
  let inside (statements : List Tree) (object : Tree) :=
    [node .with [object, node .block statements]]
  let statements := assembly.objects.foldl inside (assembly.current.getD [])
  let statements := (assembly.entered.map (noting state)).toList ++ statements
  let next := numberNode (assembly.cases.length + 1)
  let advance := statementNode (assignNode (memberNode state "label") next)
  let noted :=
    match assembly.entered with
    | some labels =>
      labels.start :: labels.done :: labels.handler.toList ++ labels.final.toList
    | none => []
  { assembly with
    cases := assembly.cases ++ [if goesOn then statements ++ [advance] else statements]
    current := none
    entered := none
    referenced := noted ++ assembly.referenced }

/-- Complete the case that has begun, if one has. -/
def flush (state : Tree) (assembly : Assembly) : Assembly :=
  if assembly.current.isSome then
    { assembly.complete state (!assembly.isAbrupt) with
      isAbrupt := false, isCompletion := false }
  else assembly

/-- Begin a case at the labels that stand behind some number of steps. -/
def enterLabels (routine : Routine) (index : Nat) (assembly : Assembly) : Assembly :=
  let here := (routine.labels.filter fun found => found.2 == index).map Prod.fst
  if here.isEmpty then assembly
  else
    let assembly := assembly.flush routine.state
    { assembly with
      numbers :=
        here.map (fun label => (label, assembly.cases.length)) ++ assembly.numbers }

def cross (routine : Routine) (assembly : Assembly) (border : Border) : Assembly :=
  match border with
  | .enterTry start =>
    { assembly with
      current := some (assembly.current.getD [])
      outer := assembly.entered :: assembly.outer
      entered := routine.guarded.find? fun labels => labels.start == start }
  | .leaveTry =>
    { assembly with
      entered := assembly.outer.head?.join
      outer := assembly.outer.drop 1 }
  | .enterWith object => { assembly with objects := object :: assembly.objects }
  | .leaveWith => { assembly with objects := assembly.objects.drop 1 }

/-- Write a step, which is in reach. -/
def write (step : Step) (assembly : Assembly) : Assembly :=
  { assembly with
    current :=
      match step.statement with
      | some statement => some (assembly.current.getD [] ++ [statement])
      | none => assembly.current
    isAbrupt := step.isAbrupt
    isCompletion := step.isCompletion
    referenced := step.target.toList ++ assembly.referenced }

/-- Go on with the step behind some number of steps. -/
def advance (routine : Routine) (assembly : Assembly) (step : Step × Nat) : Assembly :=
  let assembly := assembly.enterLabels routine step.2
  let here := (routine.borders.filter fun found => found.1 == step.2).map Prod.snd
  let assembly := here.foldl (cross routine) assembly
  if assembly.isAbrupt then assembly else assembly.write step.1

/-- Whether the place behind all steps is in reach. -/
def reachesEnd (routine : Routine) (assembly : Assembly) : Bool :=
  !assembly.isCompletion || routine.labels.any fun found =>
    found.2 == routine.steps.size && assembly.referenced.contains found.1

/-- Return at the end, if that is in reach, and complete the last case. -/
def finish (routine : Routine) (assembly : Assembly) : Assembly :=
  let assembly :=
    if assembly.reachesEnd routine then
      let assembly := assembly.enterLabels routine routine.steps.size
      let last : Step := ⟨some (returnedNode nothing), none, true, true⟩
      { assembly with objects := [] }.write last
    else assembly
  if assembly.current.isSome && !assembly.cases.isEmpty then
    assembly.complete routine.state false
  else assembly

end Assembly

/-- The statements that run a generator. -/
def Routine.statements (routine : Routine) : List Tree :=
  let start : Assembly :=
    ⟨[], none, [], false, false, none, [], [], routine.referenced⟩
  let steps := routine.steps.toList.zipIdx
  let assembly := (steps.foldl (Assembly.advance routine) start).finish routine
  let numbers := assembly.numbers.map fun (label, number) => (label, numberNode number)
  let statements :=
    if assembly.cases.isEmpty then assembly.current.getD []
    else
      let cases := assembly.cases.zipIdx.map fun (statements, index) =>
        node .case (numberNode index :: statements)
      [node .switch (memberNode routine.state "label" :: cases)]
  withReplacedEach numbers statements

end VuePrecompiler.Es5
