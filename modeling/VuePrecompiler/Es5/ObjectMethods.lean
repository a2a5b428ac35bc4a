import VuePrecompiler.Es5.SuperMembers

/-!
# Methods of object literals

A literal whose methods use `super` is kept in a variable, by which they find it.
-/

namespace VuePrecompiler.Es5

open Javascript

mutual

/-- Whether `super` occurs in a tree outside of the functions in it. -/
def usesSuper : Tree → Bool
  | .node .super _ _ => true
  | .node (.functionExpression _) _ _ => false
  | .node (.functionDeclaration _) _ _ => false
  | .node _ _ children => usesSuperEach children

def usesSuperEach : List Tree → Bool
  | [] => false
  | first :: rest => usesSuper first || usesSuperEach rest

end

/-- Whether a property is a method that uses `super`. -/
def isSuperMethod : Tree → Bool
  | .node (.method .method) _ [_, .node (.functionExpression _) _ parts] =>
    usesSuperEach parts
  | _ => false

/-- A property whose method finds its object. -/
def withHome (home : Home) : Tree → Pass Tree
  | .node (.method .method) span [key, function] => do
    return .node (.method .method) span [key, ← home.method function]
  | property => return property

def withHomeEach (home : Home) : List Tree → Pass (List Tree)
  | [] => return []
  | first :: rest => do
    let first ← withHome home first
    return first :: (← withHomeEach home rest)

/-- A program whose object literals do not use `super` in methods. -/
def lowerObjectMethods (program : Tree) : Pass Tree :=
  HoistingRewriting.run ⟨.atStart, fun kind span parts => do
    if kind == .object && parts.any isSuperMethod then
      let kept ← hoistedVariable "_obj"
      let home : Home := ⟨kept, node .this [], false, true⟩
      return assignNode kept (.node .object span (← withHomeEach home parts))
    else return .node kind span parts⟩ program

end VuePrecompiler.Es5
