import VuePrecompiler.Es5.Capture
import VuePrecompiler.Javascript.Grammar.Target

/-!
# Spread items

An array with spread items becomes a `concat` of arrays, and a call with spread
arguments a call of `apply`.
-/

namespace VuePrecompiler.Es5

open Javascript

def isSpread : Tree → Bool
  | .node .spread _ _ => true
  | _ => false

/-- Consecutive items: those between spread ones together, spread ones each alone. -/
inductive Run where
  | items (items : List Tree)
  | spread (value : Tree)

def runs : List Tree → List Run
  | [] => []
  | .node .spread _ [value] :: rest => .spread value :: runs rest
  | item :: rest =>
    match runs rest with
    | .items more :: others => .items (item :: more) :: others
    | others => .items [item] :: others

/-- An array with the items of an iterable. -/
def consumedNode (value : Tree) : Pass Tree :=
  if isArguments value then
    let slice := memberNode (memberNode (variableNode "Array" 0) "prototype") "slice"
    return callNode (memberNode slice "call") [value]
  else
    match value.kind with
    | .string _ => return callNode (memberNode (variableNode "Array" 0) "from") [value]
    | _ => helperCall "to_consumable_array" [value]

def runNode : Run → Pass Tree
  | .items items => return node (.array false) items
  | .spread value => consumedNode value

def runNodes : List Run → Pass (List Tree)
  | [] => return []
  | first :: rest => do
    let first ← runNode first
    return first :: (← runNodes rest)

/-- One array with all items; what is only read need not be copied. -/
def joinedNode (isRead : Bool) (items : List Tree) : Pass Tree :=
  match items with
  | [.node .spread _ [value]] =>
    if isRead && isArguments value then return value else consumedNode value
  | _ => do
    match ← runNodes (runs items) with
    | [] => return node (.array false) []
    | [single] => return single
    | first :: rest => return callNode (memberNode first "concat") rest

/-- How a function is called on an object: the object and the function, which may
keep the object in a variable. -/
def calledOn (callee : Tree) : Hoisting (Tree × Tree) := do
  match callee with
  | .node (.identifier _ _) _ _ => return (undefinedNode, callee)
  | .node kind span [object, key] =>
    let isAccess := kind == .member false || kind == .index false
    if isAccess && object.kind != .this && object.kind != .super then
      let kept ← aliasVariable object "_instance"
      modify (· ++ [declaratorNode kept nothing])
      return (kept, .node kind span [assignNode kept object, key])
    else return (node .this [], callee)
  | _ => return (node .this [], callee)

/-- Arguments, with the items of spread array literals as arguments of their own. -/
def unspread (items : List Tree) : List Tree :=
  items.flatMap fun item =>
    match item with
    | .node .spread _ [.node (.array _) _ inner] => inner
    | _ => [item]

/-- The call of a function with spread arguments. -/
def spreadCall (callee : Tree) (items : List Tree) : Hoisting Tree := do
  let (object, function) ← calledOn callee
  return callNode (memberNode function "apply") [object,
    ← joinedNode true (unspread items)]

/-- A program without spread items in arrays and arguments. -/
def withoutSpread (program : Tree) : Pass Tree :=
  HoistingRewriting.run ⟨.atStart, fun kind span parts => do
    match kind, parts with
    | .array _, items =>
      if items.any isSpread then joinedNode false items
      else return .node kind span parts
    | .call false, callee :: items =>
      if items.any isSpread && !callee.isOptionalChain then spreadCall callee items
      else return .node kind span parts
    | .new true, callee :: items =>
      if items.any isSpread then
        helperCall "construct" [callee, ← joinedNode false items]
      else return .node kind span parts
    | _, _ => return .node kind span parts⟩ program

end VuePrecompiler.Es5
