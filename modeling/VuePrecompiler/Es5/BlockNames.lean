import VuePrecompiler.Es5.Build
import VuePrecompiler.Es5.Occurrences

/-!
# Names of block variables

Once `let` and `const` are gone, a variable of a block belongs to the whole
function.  It gets another name here where the function has a variable of its
name that no block declares.
-/

namespace VuePrecompiler.Es5

open Javascript

/-- The block variables of a function, given as its parameters and its body, that a
variable of the same name stands beside. -/
def shadowedVariables (parts : List Tree) : List Variable :=
  let own := blockVariablesEach parts
  if own.isEmpty then []
  else
    let inner := innerVariablesEach parts
    let others :=
      (usedVariablesEach parts).filter fun used =>
        !own.contains used && !inner.contains used
    own.filter fun found => others.any fun other => other.1 == found.1

mutual

/-- The variables of all functions of a tree that need another name. -/
def shadowed : Tree → List Variable
  | .node (.functionExpression _) _ [name, parameters, body] =>
    shadowedVariables [parameters, body] ++ shadowedEach [name, parameters, body]
  | .node (.functionDeclaration _) _ [name, parameters, body] =>
    shadowedVariables [parameters, body] ++ shadowedEach [name, parameters, body]
  | .node _ _ children => shadowedEach children

def shadowedEach : List Tree → List Variable
  | [] => []
  | first :: rest => shadowed first ++ shadowedEach rest

end

mutual

/-- A tree in which some variables have a name that begins with `_$`. -/
def withBlockNames (found : List Variable) : Tree → Tree
  | .node kind span children =>
    match kind with
    | .identifier name binding =>
      if found.contains (name, binding) then
        .node (.identifier ("_$" ++ name) binding) span []
      else .node kind span []
    | _ => .node kind span (withBlockNamesEach found children)

def withBlockNamesEach (found : List Variable) : List Tree → List Tree
  | [] => []
  | first :: rest => withBlockNames found first :: withBlockNamesEach found rest

end

/-- A program whose block variables can belong to functions. -/
def nameBlockVariables (program : Tree) : Tree :=
  withBlockNames (shadowedVariables [program] ++ shadowed program) program

end VuePrecompiler.Es5
