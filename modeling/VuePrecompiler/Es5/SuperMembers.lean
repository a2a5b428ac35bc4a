import VuePrecompiler.Es5.Hoisting

/-!
# Members of superclasses

`super.name` looks a member up behind the object that a method belongs to.  It
becomes a call of a helper with that object, the key and the receiver.
-/

namespace VuePrecompiler.Es5

open Javascript

/-- The object that a method belongs to. -/
structure Home where
  /-- The object, behind which members are looked up. -/
  object : Tree
  /-- The object on which they are read and called. -/
  receiver : Tree
  /-- Whether the receiver may not be there yet. -/
  isPending : Bool
  /-- Whether the object is a literal and no class. -/
  isLiteral : Bool

def memberKey (name : Tree) : Tree :=
  match name.kind with
  | .propertyName text => stringNode text
  | _ => name

namespace Home

/-- The object that members are looked up in. -/
def parent (home : Home) : Pass Tree := do
  let found ← helperCall "get_prototype_of" [home.object]
  if home.isPending then
    return node .sequence [← helperCall "assert_this_initialized" [home.receiver],
      found]
  else return found

def get (home : Home) (key : Tree) : Pass Tree := do
  helperCall "get" [← home.parent, key, home.receiver]

def set (home : Home) (key value : Tree) : Pass Tree := do
  helperCall "set" [← home.parent, key, value, home.receiver, node (.boolean true) []]

/-- A reference to a member of a class that can be read and set. -/
def reference (home : Home) (key : Tree) : Pass Tree := do
  let items := [← home.parent, key, home.receiver, node (.boolean true) []]
  return memberNode (← helperCall "update" items) "_"

def call (home : Home) (key : Tree) (items : List Tree) : Pass Tree := do
  let function ← home.get key
  match items with
  | [.node .spread _ [.node (.identifier "arguments" binding) span _]] =>
    let all : Tree := .node (.identifier "arguments" binding) span []
    return callNode (memberNode function "apply") [home.receiver, all]
  | _ => return callNode (memberNode function "call") (home.receiver :: items)

/-- The operator between operands that an assignment contains. -/
def innerOperator (operator : String) : String := (operator.dropEnd 1).toString

def assign (home : Home) (operator : String) (key value : Tree) : Pass Tree := do
  if operator == "=" then home.set key value
  else if home.isLiteral then
    home.set key (binaryNode (innerOperator operator) (← home.get key) value)
  else return node (.assign operator) [← home.reference key, value]

def update (home : Home) (operator : String) (isPostfix : Bool) (key : Tree) :
    Hoisting Tree := do
  if home.isLiteral then
    let kept ← hoistedVariable "_ref"
    let before := assignNode kept (node (.unary "+") [← home.get key])
    let changed := binaryNode (innerOperator operator) before (numberNode 1)
    return node .sequence [← home.set key changed, kept]
  else return node (.update operator isPostfix) [← home.reference key]

mutual

/-- A tree without `super` outside of the functions in it.  Updates may
ask for variables. -/
def withoutSuper (home : Home) : Tree → Hoisting Tree
  | .node (.call false) _ (.node (.member _) _ [.node .super _ _, name] :: items) => do
    home.call (memberKey name) (← withoutSuperEach home items)
  | .node (.call false) _ (.node (.index _) _ [.node .super _ _, key] :: items) => do
    let key ← withoutSuper home key
    home.call key (← withoutSuperEach home items)
  | .node (.assign operator) _
      [.node (.member _) _ [.node .super _ _, name], value] => do
    home.assign operator (memberKey name) (← withoutSuper home value)
  | .node (.assign operator) _
      [.node (.index _) _ [.node .super _ _, key], value] => do
    let key ← withoutSuper home key
    home.assign operator key (← withoutSuper home value)
  | .node (.update operator isPostfix) _
      [.node (.member _) _ [.node .super _ _, name]] =>
    home.update operator isPostfix (memberKey name)
  | .node (.update operator isPostfix) _
      [.node (.index _) _ [.node .super _ _, key]] => do
    home.update operator isPostfix (← withoutSuper home key)
  | .node (.member _) _ [.node .super _ _, name] => home.get (memberKey name)
  | .node (.index _) _ [.node .super _ _, key] => do home.get (← withoutSuper home key)
  | .node (.functionExpression mode) span parts =>
    return .node (.functionExpression mode) span parts
  | .node (.functionDeclaration mode) span parts =>
    return .node (.functionDeclaration mode) span parts
  | .node kind span children => do
    return .node kind span (← withoutSuperEach home children)
termination_by structural tree => tree

def withoutSuperEach (home : Home) : List Tree → Hoisting (List Tree)
  | [] => return []
  | first :: rest => do
    let first ← withoutSuper home first
    return first :: (← withoutSuperEach home rest)
termination_by structural trees => trees

end

/-- A method without `super`. -/
def method (home : Home) : Tree → Pass Tree
  | .node kind span [name, parameters, .node .body bodySpan statements] => do
    let (parts, declarators) ←
      (do
        let parameters ← home.withoutSuper parameters
        return (parameters, ← home.withoutSuperEach statements) :
          Hoisting (Tree × List Tree)).run []
    let (parameters, statements) := parts
    return .node kind span [name, parameters,
      .node .body bodySpan (declaring declarators statements)]
  | tree => return tree

end Home

end VuePrecompiler.Es5
