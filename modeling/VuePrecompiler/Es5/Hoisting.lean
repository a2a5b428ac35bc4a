import VuePrecompiler.Es5.Build

/-!
# Variables declared around

Some steps need variables of their own, which the list of statements nearest
around declares: at its start, or right before the statement that needs them.
-/

namespace VuePrecompiler.Es5

open Javascript Source

/-- A step that may ask for declarators; the latest are the last. -/
abbrev Hoisting := StateT (List Tree) Pass

/-- Ask for a variable without a value. -/
def hoistedVariable (name : String) : Hoisting Tree := do
  let kept ← newVariable name
  modify (· ++ [declaratorNode kept nothing])
  return kept

/-- Statements behind a declaration, if there is something to declare. -/
def declaring (declarators statements : List Tree) : List Tree :=
  if declarators.isEmpty then statements
  else prepend [variablesNode declarators] statements

/-- Statements behind a declaration of all that they ask for. -/
def declaringAll (statements : Hoisting (List Tree)) : Pass (List Tree) := do
  let (statements, declarators) ← statements.run []
  return declaring declarators statements

/-- Whether a node consists of statements. -/
def isStatementList : Kind → Bool
  | .program _ => true
  | .body => true
  | .block => true
  | _ => false

/-- Where in a list of statements variables are declared. -/
inductive Placement where
  | atStart
  | beforeStatement
deriving DecidableEq

/-- Change the parts of a tree first and then the tree, with variables declared in
the nearest list of statements. -/
structure HoistingRewriting where
  placement : Placement
  apply : Kind → Span → List Tree → Hoisting Tree

namespace HoistingRewriting

/-- A list of statements, whose statements are rewritten together or one by one. -/
def listed (rewriting : HoistingRewriting) (together : Hoisting (List Tree))
    (oneByOne : Pass (List Tree)) : Pass (List Tree) :=
  match rewriting.placement with
  | .atStart => declaringAll together
  | .beforeStatement => oneByOne

mutual

def tree (rewriting : HoistingRewriting) : Tree → Hoisting Tree
  | .node .case span (test :: statements) => do
    let test ← rewriting.tree test
    let statements ←
      rewriting.listed (rewriting.trees statements)
      (rewriting.declaringEach statements)
    rewriting.apply .case span (test :: statements)
  | .node kind span children => do
    let parts ←
      if isStatementList kind then
        rewriting.listed (rewriting.trees children) (rewriting.declaringEach children)
      else rewriting.trees children
    rewriting.apply kind span parts
termination_by structural tree => tree

def trees (rewriting : HoistingRewriting) : List Tree → Hoisting (List Tree)
  | [] => return []
  | first :: rest => do
    let first ← rewriting.tree first
    return first :: (← rewriting.trees rest)
termination_by structural trees => trees

/-- Statements, each behind a declaration of what it asks for. -/
def declaringEach (rewriting : HoistingRewriting) : List Tree → Pass (List Tree)
  | [] => return []
  | first :: rest => do
    let (first, declarators) ← (rewriting.tree first).run []
    return declaring declarators [first] ++ (← rewriting.declaringEach rest)
termination_by structural statements => statements

end

/-- A whole program. -/
def run (rewriting : HoistingRewriting) (program : Tree) : Pass Tree := do
  let (program, _) ← (rewriting.tree program).run []
  return program

end HoistingRewriting

end VuePrecompiler.Es5
