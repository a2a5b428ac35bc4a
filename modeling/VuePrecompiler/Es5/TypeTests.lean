import VuePrecompiler.Es5.Build

/-!
# Tests of types

`typeof` and `instanceof` are calls of helpers, which know of symbols.
-/

namespace VuePrecompiler.Es5

open Javascript

/-- The types that `typeof` gives for all values but objects and symbols. -/
def plainTypes : List String :=
  ["undefined", "boolean", "number", "bigint", "string", "function"]

def isTypeof : Tree → Bool
  | .node (.unary operator) _ _ => operator == "typeof"
  | _ => false

/-- Whether an expression is the name of a type that symbols have no part in. -/
def isPlainType (tree : Tree) : Bool := (stringValue? tree).any plainTypes.contains

/-- Whether an operation compares the type of a value with a plain one. -/
def isPlainTypeTest (kind : Kind) (children : List Tree) : Bool :=
  match kind, children with
  | .binary operator, [left, right] =>
    ["==", "!=", "===", "!=="].contains operator
      && ((isTypeof left && isPlainType right) || (isPlainType left && isTypeof right))
  | _, _ => false

/-- `typeof value`, where a variable may be undeclared. -/
def typeNode (value : Tree) : Pass Tree := do
  let found ← helperCall "type_of" [value]
  match value.kind with
  | .identifier _ _ =>
    let missing := stringNode "undefined"
    return node .conditional [binaryNode "===" (node (.unary "typeof") [value])
      missing, missing, found]
  | _ => return found

mutual

/-- A tree whose type tests call helpers. -/
def lowerTypeTests : Tree → Pass Tree
  | .node kind span children =>
    if isPlainTypeTest kind children then return .node kind span children
    else do
      let parts ← lowerTypeTestsEach children
      match kind, parts with
      | .unary "typeof", [value] => typeNode value
      | .binary "instanceof", [value, type] => helperCall "instanceof" [value, type]
      | _, _ => return .node kind span parts

def lowerTypeTestsEach : List Tree → Pass (List Tree)
  | [] => return []
  | first :: rest => do
    let first ← lowerTypeTests first
    return first :: (← lowerTypeTestsEach rest)

end

end VuePrecompiler.Es5
