import VuePrecompiler.Es5.Rounds

/-!
# Ways out of a loop's body

A body that becomes a function tells the loop by its value how it was left:
nothing at its end, an object with the value behind `return`, and otherwise a
text that names the statement.
-/

namespace VuePrecompiler.Es5

open Javascript

/-- How statements of a body leave it. -/
structure Exits where
  hasReturn : Bool
  hasBreak : Bool
  /-- The values that stand for jumps to labels around, each with its jump. -/
  jumps : List (String × Kind)

/-- Whether the loop asks how its body was left. -/
def Exits.areTold (exits : Exits) :
    Bool := exits.hasReturn || exits.hasBreak || !exits.jumps.isEmpty

/-- Where a statement stands in a body. -/
structure ExitPlace where
  /-- The labels inside of the body. -/
  labels : List String
  isInLoop : Bool
  isInSwitch : Bool

/-- The place of the parts of a statement. -/
def ExitPlace.inside (place : ExitPlace) (kind : Kind) : ExitPlace :=
  match kind with
  | .labeled label => { place with labels := label :: place.labels }
  | .case => { place with isInSwitch := true }
  | _ => if isLoop kind then { place with isInLoop := true } else place

/-- The function returns a text. -/
def leavingWith (text : String) : Tree := node .return [stringNode text]

/-- Note a jump to a label around. -/
def jumping (kind : Kind) (text : String) : StateM Exits Tree := do
  modify fun exits =>
    if (exits.jumps.lookup text).isSome then exits
    else { exits with jumps := exits.jumps ++ [(text, kind)] }
  return leavingWith text

/-- What becomes of a statement itself, if it leaves the body. -/
def left? (place : ExitPlace) (kind : Kind) (children : List Tree) :
    Option (StateM Exits Tree) :=
  match kind, children with
  | .continue none, _ =>
    if place.isInLoop then none else some (return leavingWith "continue")
  | .continue (some label), _ =>
    if place.labels.contains label then none
    else some (jumping kind ("continue|" ++ label))
  | .break none, _ =>
    if place.isInLoop || place.isInSwitch then none
    else some do
      modify fun exits => { exits with hasBreak := true }
      return leavingWith "break"
  | .break (some label), _ =>
    if place.labels.contains label then none
    else some (jumping kind ("break|" ++ label))
  | .return, [value] => some do
      modify fun exits => { exits with hasReturn := true }
      let value := if value.isAbsent then undefinedNode else value
      return node .return
        [node .object [node .property [node (.propertyName "v") [], value]]]
  | _, _ => none

mutual

/-- Statements that tell by a value how they leave the body. -/
def telling (place : ExitPlace) : Tree → StateM Exits Tree
  | .node kind span children =>
    if isClosed kind then return .node kind span children
    else
      match left? place kind children with
      | some left => left
      | none => do return .node kind span (← tellingEach (place.inside kind) children)

def tellingEach (place : ExitPlace) : List Tree → StateM Exits (List Tree)
  | [] => return []
  | first :: rest => do
    let first ← telling place first
    return first :: (← tellingEach place rest)

end

/-- A body that tells how it is left, and the ways in which it is left. -/
def told (body : Tree) :
    Tree × Exits := (telling ⟨[], false, false⟩ body).run ⟨false, false, []⟩

/-- `if (typeof result === "object") return result.v;`. -/
def returningOn (result : Tree) : Pass Tree := do
  let type ← helperCall "type_of" [result]
  return node .if
    [binaryNode "===" type (stringNode "object"), node .return [memberNode result "v"],
      nothing]

/-- The statements of a loop that ask how its body was left. -/
def asking (exits : Exits) (result : Tree) : Pass (List Tree) := do
  let returning ← if exits.hasReturn then pure [← returningOn result] else pure []
  if exits.jumps.isEmpty then
    let breaking :=
      if exits.hasBreak then
        [node .if [binaryNode "===" result (stringNode "break"), node (.break none) [],
          nothing]]
      else []
    return returning ++ breaking
  else
    let jumps :=
      if exits.hasBreak then ("break", .break none) :: exits.jumps else exits.jumps
    let cases :=
      jumps.map fun (text, jump) => node .case [stringNode text, node jump []]
    let others := if returning.isEmpty then [] else [node .case (nothing :: returning)]
    return [node .switch (result :: (cases ++ others))]

end VuePrecompiler.Es5
