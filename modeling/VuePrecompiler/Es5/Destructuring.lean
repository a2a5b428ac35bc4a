import VuePrecompiler.Es5.Parameters

/-!
# Patterns

A declaration with a pattern becomes a declaration of its variables one after
the other, and an assignment to a pattern a sequence of assignments.
-/

namespace VuePrecompiler.Es5

open Javascript

/-- How many items a pattern takes, unless it takes all. -/
def takenCount? (items : List Tree) : Option Nat :=
  match items.getLast? with
  | some (.node .rest _ _) => none
  | _ => some items.length

/-- An array with the items that a pattern takes from an iterable. -/
def takenNode (items : List Tree) (value : Tree) : Pass Tree :=
  match takenCount? items with
  | some count => helperCall "sliced_to_array" [value, numberNode count]
  | none => helperCall "to_array" [value]

/-- The items of an array from an index on. -/
def sliceNode (array : Tree) (index : Nat) : Tree :=
  callNode (memberNode array "slice") [numberNode index]

/-- The property of an object with the key of a pattern. -/
def keyedNode (object key : Tree) : Tree :=
  match key with
  | .node (.propertyName name) _ _ => memberNode object name
  | .node .computedKey _ [key] => indexNode object key
  | _ => indexNode object key

def nameOf : Tree → String
  | .node (.identifier name _) _ _ => name
  | _ => ""

/-- The items of an array literal, if a pattern can take them one by one. -/
def pairedItems? (items : List Tree) : Tree → Option (List Tree)
  | .node (.array _) _ values =>
    let isSpread (found : Tree) := found.kind == .spread
    let fits :=
      items.length == values.length
        || ((takenCount? items).isNone && items.length < values.length)
    if fits && !items.isEmpty && !values.any isSpread then some values else none
  | _ => none

/-- A value that is missing where a pattern takes it. -/
def presentNode (value : Tree) :
    Tree := if value.isAbsent then undefinedNode else value

/-- Whether the properties of a pattern can be read off an expression itself: off a
variable, or off any expression that is read once. -/
def isReadDirectly (properties : List Tree) (value : Tree) : Bool :=
  isVariable value || properties.length == 1

mutual

/-- Declare the variables of a pattern that takes a value. -/
def declared : Tree → Tree → Pass (List Tree)
  | .node .arrayPattern _ items, value =>
    match pairedItems? items value with
    | some values => declaredPairs items values
    | none => do
      let kept ← aliasVariable value "_ref"
      let first := declaratorNode kept (← takenNode items value)
      return first :: (← declaredItems kept 0 items)
  | .node .objectPattern _ properties, value => do
    if properties.isEmpty then
      let kept ← newVariable "ref"
      return [declaratorNode kept (← helperCall "object_destructuring_empty" [value])]
    else if isReadDirectly properties value then declaredProperties value properties
    else
      let kept ← aliasVariable value "_ref"
      return declaratorNode kept value :: (← declaredProperties kept properties)
  | .node .withDefault _ [target, other], value => do
    let kept ← newVariable "tmp"
    return declaratorNode kept value :: (← declared target (defaultedNode kept other))
  | target, value => return [declaratorNode target value]
termination_by structural pattern => pattern

/-- Declare the variables of patterns that take the values of a list. -/
def declaredPairs : List Tree → List Tree → Pass (List Tree)
  | .node .rest _ [target] :: _, values => declared target (node (.array false) values)
  | .node .absent _ _ :: items, _ :: values => declaredPairs items values
  | target :: items, value :: values => do
    let first ← declared target (presentNode value)
    return first ++ (← declaredPairs items values)
  | _, _ => return []
termination_by structural items => items

/-- Declare the variables of patterns that take the items of an array from an
index on. -/
def declaredItems (array : Tree) (index : Nat) : List Tree → Pass (List Tree)
  | [] => return []
  | .node .absent _ _ :: rest => declaredItems array (index + 1) rest
  | .node .rest _ [target] :: _ => declared target (sliceNode array index)
  | target :: rest => do
    let first ← declared target (indexNode array (numberNode index))
    return first ++ (← declaredItems array (index + 1) rest)
termination_by structural items => items

/-- Declare the variables of the properties of a pattern. -/
def declaredProperties (object : Tree) : List Tree → Pass (List Tree)
  | [] => return []
  | .node .patternProperty _ [key, target] :: rest => do
    let first ← declared target (keyedNode object key)
    return first ++ (← declaredProperties object rest)
  | .node .patternShorthand _ [target, other] :: rest => do
    let value := memberNode object (nameOf target)
    if other.isAbsent then
      return declaratorNode target value :: (← declaredProperties object rest)
    else
      let kept ← aliasVariable value "_ref"
      let first :=
        [declaratorNode kept value, declaratorNode target (defaultedNode kept other)]
      return first ++ (← declaredProperties object rest)
  | _ :: rest => declaredProperties object rest
termination_by structural properties => properties

end

mutual

/-- The assignments of a value to a target, which give the value itself. -/
def assigned : Tree → Tree → Hoisting Tree
  | .node .arrayPattern _ items, value => do
    let kept ← hoistedVariable "ref"
    let taken ←
      match value.kind with
      | .array _ => pure value
      | _ => takenNode items value
    return node .sequence (assignNode kept taken :: (← assignedItems kept 0 items) ++
      [kept])
  | .node .objectPattern _ properties, value => do
    if properties.isEmpty then helperCall "object_destructuring_empty" [value]
    else
      let kept ← hoistedVariable "ref"
      return node .sequence (assignNode kept
        value :: (← assignedProperties kept properties) ++ [kept])
  | target, value => return assignNode target value
termination_by structural target => target

def assignedItems (array : Tree) (index : Nat) : List Tree → Hoisting (List Tree)
  | [] => return []
  | .node .absent _ _ :: rest => assignedItems array (index + 1) rest
  | .node .rest _ [target] :: _ => return [← assigned target (sliceNode array index)]
  | .node .withDefault _ [target, other] :: rest => do
    let kept ← hoistedVariable "ref"
    let first := assignNode kept (indexNode array (numberNode index))
    let second ← assigned target (defaultedNode kept other)
    return first :: second :: (← assignedItems array (index + 1) rest)
  | target :: rest => do
    let first ← assigned target (indexNode array (numberNode index))
    return first :: (← assignedItems array (index + 1) rest)
termination_by structural items => items

def assignedProperties (object : Tree) : List Tree → Hoisting (List Tree)
  | [] => return []
  | .node .patternProperty _ [key, .node .withDefault _ [target, other]] :: rest => do
    let kept ← hoistedVariable "ref"
    let first := assignNode kept (keyedNode object key)
    let second ← assigned target (defaultedNode kept other)
    return first :: second :: (← assignedProperties object rest)
  | .node .patternProperty _ [key, target] :: rest => do
    let first ← assigned target (keyedNode object key)
    return first :: (← assignedProperties object rest)
  | .node .patternShorthand _ [target, other] :: rest => do
    let value := memberNode object (nameOf target)
    if other.isAbsent then
      return assignNode target value :: (← assignedProperties object rest)
    else
      let kept ← hoistedVariable "ref"
      let first :=
        [assignNode kept value, assignNode target (defaultedNode kept other)]
      return first ++ (← assignedProperties object rest)
  | _ :: rest => assignedProperties object rest
termination_by structural properties => properties

end

def isPattern : Tree → Bool
  | .node .arrayPattern _ _ => true
  | .node .objectPattern _ _ => true
  | _ => false

/-! ## Assignments of constants -/

mutual

/-- Whether an expression consists of literals. -/
def isConstant : Tree → Bool
  | .node kind _ children =>
    match kind with
    | .string _ => true
    | .number _ => true
    | .boolean _ => true
    | .null => true
    | .absent => true
    | .array _ => areConstant children
    | _ => false

def areConstant : List Tree → Bool
  | [] => true
  | first :: rest => isConstant first && areConstant rest

end

/-- Assign the items of an array literal of constants one by one, where nobody reads
the array. -/
def spreadOut (tree : Tree) : Tree :=
  match tree with
  | .node .expressionStatement span
      [.node (.assign "=") _ [.node .arrayPattern _ items, value]] =>
    match if isConstant value then pairedItems? items value else none with
    | some values =>
      if items.any fun item => item.isAbsent || readsArguments item then tree
      else
        .node .expressionStatement span
          [joinedExpressions (List.zipWith assignNode items (values.map presentNode))]
    | none => tree
  | _ => tree

mutual

/-- A tree in which constants are assigned one by one. -/
def withSpreadOut : Tree → Tree
  | .node kind span children =>
    spreadOut (.node kind span (withSpreadOutEach children))

def withSpreadOutEach : List Tree → List Tree
  | [] => []
  | first :: rest => withSpreadOut first :: withSpreadOutEach rest

end

/-! ## Programs -/

/-- The head of a loop or a handler without a pattern: the variable that takes
the value, and the statement that begins the body. -/
def plainHead (name : String) (head : Tree) : Hoisting (Tree × List Tree) := do
  match head with
  | .node (.variables keyword) span [.node .declarator _ [target, _]] =>
    if isPattern target then
      let kept ← newVariable name
      let rest ← declared target kept
      return (.node (.variables keyword) span [declaratorNode kept nothing],
        [node (.variables .let) rest])
    else return (head, [])
  | _ =>
    if isPattern head then
      let kept ← newVariable name
      return (kept, [statementNode (← assigned head kept)])
    else return (head, [])

/-- The parameter of a handler without a pattern, and the statement
that begins the body. -/
def plainCaught (head : Tree) : Pass (Tree × List Tree) := do
  if isPattern head then
    let kept ← newVariable "param"
    return (kept, [node (.variables .let) (← declared head kept)])
  else return (head, [])

def blockBeginning (statements : List Tree) (body : Tree) : Tree :=
  match statements, body with
  | [], _ => body
  | _, .node .block span rest => .node .block span (statements ++ rest)
  | _, _ => node .block (statements ++ [body])

/-- The declarators of a declaration without patterns. -/
def plainDeclarators : List Tree → Pass (List Tree)
  | [] => return []
  | first :: rest =>
    match first with
    | .node .declarator _ [target, value] => do
      let first ← if value.isAbsent then pure [first] else declared target value
      return first ++ (← plainDeclarators rest)
    | _ => return first :: (← plainDeclarators rest)

def lowerPatterns (program : Tree) : Pass Tree :=
  HoistingRewriting.run ⟨.beforeStatement, fun kind span parts => do
    match kind, parts with
    | .variables keyword, declarators =>
      return .node (.variables keyword) span (← plainDeclarators declarators)
    | .assign "=", [target, value] =>
      if isPattern target then assigned target value else return .node kind span parts
    | .forIn, [head, object, body] =>
      let (head, first) ← plainHead "ref" head
      return .node kind span [head, object, blockBeginning first body]
    | .forOf isAwait, [head, object, body] =>
      let (head, first) ← plainHead "ref" head
      return .node (.forOf isAwait) span [head, object, blockBeginning first body]
    | .catch, [head, body] =>
      let (head, first) ← plainCaught head
      return .node kind span [head, blockBeginning first body]
    | _, _ => return .node kind span parts⟩ (withSpreadOut program)

end VuePrecompiler.Es5
