import VuePrecompiler.Es5.Scope

/-!
# Occurrences of variables

Which variables a tree uses, which ones it declares, and which of these belong to
the function around.
-/

namespace VuePrecompiler.Es5

open Javascript

/-- A variable: its name and its binding. -/
abbrev Variable := String × Nat

mutual

/-- The variables that a tree uses or declares. -/
def usedVariables : Tree → List Variable
  | .node (.identifier name binding) _ _ => [(name, binding)]
  | .node _ _ children => usedVariablesEach children

def usedVariablesEach : List Tree → List Variable
  | [] => []
  | first :: rest => usedVariables first ++ usedVariablesEach rest

end

/-- The variables that a node itself declares. -/
def declaredHere (kind : Kind) (children : List Tree) : List Variable :=
  match kind, children with
  | .declarator, target :: _ => patternVariables target
  | .functionExpression _, name :: parameters :: _ =>
    patternVariables name ++ patternVariables parameters
  | .functionDeclaration _, name :: parameters :: _ =>
    patternVariables name ++ patternVariables parameters
  | .arrow _, parameters :: _ => patternVariables parameters
  | .classExpression, name :: _ => patternVariables name
  | .classDeclaration, name :: _ => patternVariables name
  | .catch, parameter :: _ => patternVariables parameter
  | _, _ => []

mutual

def declaredVariables : Tree → List Variable
  | .node kind _ children =>
    declaredHere kind children ++ declaredVariablesEach children

def declaredVariablesEach : List Tree → List Variable
  | [] => []
  | first :: rest => declaredVariables first ++ declaredVariablesEach rest

end

mutual

/-- The variables of the function around that are declared in a statement. -/
def hoistedVariables : Tree → List Variable
  | .node (.variables _) _ items => patternVariablesEach items
  | .node (.functionDeclaration _) _ (name :: _) => patternVariables name
  | .node .classDeclaration _ (name :: _) => patternVariables name
  | .node kind _ children =>
    if isClosed kind then [] else hoistedVariablesEach children

def hoistedVariablesEach : List Tree → List Variable
  | [] => []
  | first :: rest => hoistedVariables first ++ hoistedVariablesEach rest

end

mutual

/-- The variables of the function around that `let` and `const` declare in a
statement. -/
def blockVariables : Tree → List Variable
  | .node (.variables .var) _ _ => []
  | .node (.variables _) _ items => patternVariablesEach items
  | .node kind _ children => if isClosed kind then [] else blockVariablesEach children

def blockVariablesEach : List Tree → List Variable
  | [] => []
  | first :: rest => blockVariables first ++ blockVariablesEach rest

end

mutual

def innerVariables : Tree → List Variable
  | .node (.functionExpression mode) span children =>
    declaredVariables (.node (.functionExpression mode) span children)
  | .node (.functionDeclaration _) _ [_, parameters, body] =>
    patternVariables parameters ++ declaredVariables body
  | .node _ _ children => innerVariablesEach children

def innerVariablesEach : List Tree → List Variable
  | [] => []
  | first :: rest => innerVariables first ++ innerVariablesEach rest

end

mutual

/-- Whether there is a node of some kind in a tree, outside of functions. -/
def hasHere (isFound : Kind → Bool) : Tree → Bool
  | .node kind _ children =>
    isFound kind || (!isClosed kind && hasHereEach isFound children)

def hasHereEach (isFound : Kind → Bool) : List Tree → Bool
  | [] => false
  | first :: rest => hasHere isFound first || hasHereEach isFound rest

end

def isYielding (kind : Kind) : Bool :=
  match kind with
  | .yield _ => true
  | _ => false

/-- Whether a tree yields values, outside of functions inside of it. -/
def yields (tree : Tree) : Bool := hasHere isYielding tree

def yieldsEach (trees : List Tree) : Bool := hasHereEach isYielding trees

/-- Whether a tree awaits values, outside of functions inside of it. -/
def awaits (tree : Tree) :
    Bool := hasHere (fun kind => kind == .await || kind == .forOf true) tree

mutual

/-- The variables that are assigned in a tree, outside of functions. -/
def assignedVariables : Tree → List Variable
  | .node kind _ children =>
    let here :=
      match kind, children with
      | .assign _, target :: _ => patternVariables target
      | .update _ _, [target] => patternVariables target
      | _, _ => []
    if isClosed kind then [] else here ++ assignedVariablesEach children

def assignedVariablesEach : List Tree → List Variable
  | [] => []
  | first :: rest => assignedVariables first ++ assignedVariablesEach rest

end

mutual

/-- A tree with other nodes in the place of variables, given by their bindings. -/
def withReplaced (others : List (Nat × Tree)) : Tree → Tree
  | .node kind span children =>
    match kind with
    | .identifier _ binding => (others.lookup binding).getD (.node kind span [])
    | _ => .node kind span (withReplacedEach others children)

def withReplacedEach (others : List (Nat × Tree)) : List Tree → List Tree
  | [] => []
  | first :: rest => withReplaced others first :: withReplacedEach others rest

end

end VuePrecompiler.Es5
