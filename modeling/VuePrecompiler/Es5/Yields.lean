import VuePrecompiler.Es5.Occurrences
import VuePrecompiler.Es5.Steps

/-!
# Expressions of a generator

Where an expression yields a value, the generator stops: what was evaluated before is
kept in variables, and the expression goes on with what the generator is resumed with.
-/

namespace VuePrecompiler.Es5

open Javascript

/-- A variable that holds the value of an expression. -/
def keptValue (value : Tree) : Emission Tree :=
  match value.kind with
  | .identifier _ _ => return value
  | _ => do
    let kept ← newLocal
    emitAssignment kept value
    return kept

/-- What a call calls, kept, and what `this` means in it. -/
def keptCallee (callee : Tree) : Emission (Tree × Tree) := do
  match callee with
  | .node kind span [object, name] =>
    match kind, object.kind with
    | .member _, .identifier _ _ => return (← keptValue callee, object)
    | .index _, .identifier _ _ => return (← keptValue callee, object)
    | .member _, _ =>
      let kept ← newLocal
      return (← keptValue (.node kind span [assignNode kept object, name]), kept)
    | .index _, _ =>
      let kept ← newLocal
      return (← keptValue (.node kind span [assignNode kept object, name]), kept)
    | _, _ => return (← keptValue callee, undefinedNode)
  | _ => return (← keptValue callee, undefinedNode)

/-- `callee.apply(this, items)`. -/
def applied (callee this items : Tree) :
    Tree := callNode (memberNode callee "apply") [this, items]

/-- The items of an array of which the first ones are kept. -/
structure KeptItems where
  kept : Option Tree
  /-- Items before all that the expression lists. -/
  leading : List Tree
  /-- The items behind those that are kept. -/
  others : List Tree

namespace KeptItems

def array (items : KeptItems) : Tree :=
  match items.kept with
  | some kept => callNode (memberNode kept "concat") [node (.array false) items.others]
  | none => node (.array false) (items.leading ++ items.others)

def keepAll (items : KeptItems) : Emission KeptItems := do
  let kept ←
    match items.kept with
    | some kept => pure kept
    | none => newLocal
  emitAssignment kept items.array
  return ⟨some kept, [], []⟩

end KeptItems

/-- The property of an object that a property of an object literal sets. -/
def settingNode (object key value : Tree) : Tree :=
  let target :=
    match key with
    | .node (.propertyName name) _ _ => memberNode object name
    | .node .computedKey _ [key] => indexNode object key
    | _ => indexNode object key
  assignNode target value

/-- An expression that gives an object literal another property. -/
def definingNode (object property : Tree) : Tree :=
  match property with
  | .node .property _ [key, value] => settingNode object key value
  | .node .shorthand _ [value] =>
    assignNode (memberNode object (aliasText value)) value
  | .node (.method kind) _ [key, function] =>
    let name :=
      match key with
      | .node (.propertyName name) _ _ => stringNode name
      | .node .computedKey _ [key] => key
      | _ => key
    match kind with
    | .method => settingNode object key function
    | _ =>
      let truth := node (.boolean true) []
      let part (name : String) (value : Tree) :=
        node .property [node (.propertyName name) [], value]
      let descriptor := node .object
        [part (if kind == .getter then "get" else "set") function,
          part "enumerable" truth, part "configurable" truth]
      callNode (memberNode (variableNode "Object" 0) "defineProperty") [object,
        name, descriptor]
  | _ => property

/-- The operator of an assignment that computes the new value. -/
def computedOperator (operator : String) :
    String := String.ofList (operator.toList.dropLast)

mutual

/-- An expression after the steps that come before it. -/
def resumable : Tree → Emission Tree
  | .node (.yield isDelegating) _ [value] => do
    let label ← newLabel
    let value ← resumable value
    if isDelegating then emitYield 5 [← helperCall "ts_values" [value]]
    else emitYield 4 (if value.isAbsent then [] else [value])
    mark label
    resumedWith
  | .node (.assign operator) span [target, value] => do
    if yields value then
      let target ← resumableTarget target
      if operator == "=" then return .node (.assign operator) span [target,
        ← resumable value]
      else
        let before ← keptValue target
        let value ← resumable value
        return assignNode target (binaryNode (computedOperator operator) before value)
    else return .node (.assign operator) span [← resumable target, value]
  | .node (.binary operator) span [left, right] => do
    if !yields right then
      return .node (.binary operator) span [← resumable left, right]
    else if operator == "&&" || operator == "||" then
      let label ← newLabel
      let result ← newLocal
      emitAssignment result (← resumable left)
      if operator == "&&" then emitJumpUnless label result else emitJumpIf label result
      emitAssignment result (← resumable right)
      mark label
      return result
    else
      let left ← keptValue (← resumable left)
      return .node (.binary operator) span [left, ← resumable right]
  | .node .conditional span [test, yes, no] => do
    if yields yes || yields no then
      let other ← newLabel
      let done ← newLabel
      let result ← newLocal
      emitJumpUnless other (← resumable test)
      emitAssignment result (← resumable yes)
      emitJump done
      mark other
      emitAssignment result (← resumable no)
      mark done
      return result
    else return .node .conditional span [← resumable test, yes, no]
  | .node .sequence span parts => do
    if yieldsEach parts then return joinedExpressions (← resumableSequence [] parts)
    else return .node .sequence span parts
  | .node (.array isTrailing) span items => do
    if yieldsEach items then return (← resumableItems ⟨none, [], []⟩ items).array
    else return .node (.array isTrailing) span items
  | .node .object span properties => do
    if yieldsEach properties then
      let kept ← newLocal
      emitAssignment kept
        (node .object (properties.takeWhile fun found => !yields found))
      return joinedExpressions
        ((← resumableProperties kept true [] properties) ++ [kept])
    else return .node .object span properties
  | .node (.index isOptional) span [object, key] => do
    let object ← resumable object
    if yields key then
      let object ← keptValue object
      return .node (.index isOptional) span [object, ← resumable key]
    else return .node (.index isOptional) span [object, key]
  | .node (.call isOptional) span (callee :: items) => do
    let callee ← resumable callee
    if yieldsEach items then
      let (callee, this) ← keptCallee callee
      return applied callee this (← resumableItems ⟨none, [], []⟩ items).array
    else return .node (.call isOptional) span (callee :: items)
  | .node (.new hasArguments) span (callee :: items) => do
    let callee ← resumable callee
    if yieldsEach items then
      let (callee, this) ← keptCallee (memberNode callee "bind")
      let items ← resumableItems ⟨none, [undefinedNode], []⟩ items
      return node (.new true) [applied callee this items.array]
    else return .node (.new hasArguments) span (callee :: items)
  | .node kind span children => do
    if !isClosed kind && yieldsEach children then
      return .node kind span (← resumableEach children)
    else return .node kind span children
termination_by structural tree => tree

/-- The target of an assignment whose value yields. -/
def resumableTarget : Tree → Emission Tree
  | .node (.member isOptional) span [object, name] => do
    return .node (.member isOptional) span [← keptValue (← resumable object), name]
  | .node (.index isOptional) span [object, key] => do
    let object ← keptValue (← resumable object)
    return .node (.index isOptional) span [object, ← keptValue (← resumable key)]
  | tree => return tree
termination_by structural tree => tree

def resumableEach : List Tree → Emission (List Tree)
  | [] => return []
  | first :: rest => do
    let first ← resumable first
    return first :: (← resumableEach rest)
termination_by structural trees => trees

/-- The expressions of a sequence that are left, behind those in `before`. -/
def resumableSequence (before : List Tree) : List Tree → Emission (List Tree)
  | [] => return before
  | first :: rest => do
    if yields first && !before.isEmpty then
      emitExpression (joinedExpressions before)
      resumableSequence [← resumable first] rest
    else resumableSequence (before ++ [← resumable first]) rest
termination_by structural trees => trees

def resumableItems (before : KeptItems) : List Tree → Emission KeptItems
  | [] => return before
  | first :: rest => do
    let before ← if yields first && !before.others.isEmpty then before.keepAll
        else pure before
    let first ← resumable first
    resumableItems { before with others := before.others ++ [first] } rest
termination_by structural trees => trees

/-- The expressions that set the properties of an object behind the first ones, which
it has from the start. -/
def resumableProperties (object : Tree) (isStart : Bool) (before : List Tree) :
    List Tree → Emission (List Tree)
  | [] => return before
  | first :: rest => do
    let isStart := isStart && !yields first
    if isStart then resumableProperties object true before rest
    else if yields first && !before.isEmpty then
      emitExpression (joinedExpressions before)
      let first ← resumableProperty object first
      resumableProperties object false [first] rest
    else
      let first ← resumableProperty object first
      resumableProperties object false (before ++ [first]) rest
termination_by structural trees => trees

/-- The expression that sets a property. -/
def resumableProperty (object : Tree) : Tree → Emission Tree
  | .node .property span [key, value] => do
    return definingNode object (.node .property span [key, ← resumable value])
  | property => return definingNode object property
termination_by structural property => property

end

end VuePrecompiler.Es5
