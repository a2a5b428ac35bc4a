import VuePrecompiler.Es5.Occurrences

/-!
# Names that tell variables apart

Variables that differ may have one name until here.  `renamed` gives names such
that each use of a variable finds its own declaration; where `with` or `eval`
looks names up at run time, names stay as they are.
-/

namespace VuePrecompiler.Es5

open Javascript

/-- The names that stand for something outside of a tree. -/
def outerNames (tree : Tree) : List String :=
  let declared := declaredVariables tree
  ((usedVariables tree).filter fun used =>
    used.2 == 0 || !declared.contains used).map Prod.fst

mutual

/-- Whether code looks up names at run time. -/
def looksUpNames : Tree → Bool
  | .node .with _ _ => true
  | .node (.call _) _ (.node (.identifier name _) _ _ :: items) =>
    name == "eval" || looksUpNamesEach items
  | .node _ _ children => looksUpNamesEach children

def looksUpNamesEach : List Tree → Bool
  | [] => false
  | first :: rest => looksUpNames first || looksUpNamesEach rest

end

/-- Names that are given, the latest first. -/
structure Naming where
  /-- Names that stand for something outside. -/
  outer : List String
  given : List (Nat × String)

namespace Naming

def nameOf (naming : Naming) (found : Variable) : String :=
  if found.2 == 0 then found.1 else (naming.given.lookup found.2).getD found.1

/-- Whether a name may be given to a variable of a scope with some used
variables. -/
def isFree (naming : Naming) (used : List Nat) (binding : Nat)
    (name : String) : Bool :=
  !naming.outer.contains name
    && naming.given.all fun (other, taken) => other == binding || taken !=
      name || !used.contains other

/-- The name itself or, if it is taken, the name with the first number that is free. -/
def freeName (naming : Naming) (used : List Nat) (found : Variable) : String :=
  let tries := naming.outer.length + naming.given.length + 1
  let candidate (index : Nat) :=
    if index == 0 then found.1 else found.1 ++ toString index
  let isGood (index : Nat) := naming.isFree used found.2 (candidate index)
  candidate (((List.range tries).find? isGood).getD tries)

/-- Give a variable a name, if it has none. -/
def give (used : List Nat) (naming : Naming) (found : Variable) : Naming :=
  if found.2 == 0 || (naming.given.lookup found.2).isSome then naming
  else { naming with given := (found.2, naming.freeName used found) :: naming.given }

def enter (naming : Naming) (scope : List Tree) (own : List Variable) : Naming :=
  own.foldl (give ((usedVariablesEach scope).map Prod.snd)) naming

end Naming

mutual

/-- A tree with the given names and names for the scopes inside of it. -/
def withNames (naming : Naming) : Tree → Tree
  | .node (.identifier name binding) span _ =>
    .node (.identifier (naming.nameOf (name, binding)) binding) span []
  | .node (.functionExpression mode) span [name, parameters, body] =>
    let outer := naming.enter [name, parameters, body] (patternVariables name)
    let inner :=
      outer.enter [parameters, body] (patternVariables parameters ++
        hoistedVariables body)
    .node (.functionExpression mode) span
      [withNames outer name, withNames inner parameters, withNames inner body]
  | .node (.functionDeclaration mode) span [name, parameters, body] =>
    let inner :=
      naming.enter [parameters, body] (patternVariables parameters ++
        hoistedVariables body)
    .node (.functionDeclaration mode) span
      [withNames naming name, withNames inner parameters, withNames inner body]
  | .node .catch span [parameter, body] =>
    let inner := naming.enter [parameter, body] (patternVariables parameter)
    .node .catch span [withNames inner parameter, withNames inner body]
  | .node kind span children => .node kind span (withNamesEach naming children)

def withNamesEach (naming : Naming) : List Tree → List Tree
  | [] => []
  | first :: rest => withNames naming first :: withNamesEach naming rest

end

/-- The variables of a tree whose names change, each with its new name. -/
def changedNames (naming : Naming) (tree : Tree) : List (Nat × String) :=
  let pairs := (usedVariables tree).zip (usedVariables (withNames naming tree))
  (pairs.filterMap fun (old, new) =>
    if old.1 == new.1 then none else some (old.2, new.1)).eraseDups

mutual

/-- A tree with new names for some variables, which count as bound nowhere from
then on. -/
def withChangedNames (names : List (Nat × String)) : Tree → Tree
  | .node kind span children =>
    match kind with
    | .identifier _ binding =>
      match names.lookup binding with
      | some name => .node (.identifier name 0) span []
      | none => .node kind span []
    | _ => .node kind span (withChangedNamesEach names children)

def withChangedNamesEach (names : List (Nat × String)) : List Tree → List Tree
  | [] => []
  | first :: rest => withChangedNames names first :: withChangedNamesEach names rest

end

/-- A tree that is renamed as if it stood alone, where some names stand for something
outside. -/
def renamedAlone (outer : List String) (tree : Tree) : Tree :=
  withChangedNames (changedNames ⟨outer ++ outerNames tree, []⟩ tree) tree

mutual

/-- A tree in which only functions without look-ups at run time are renamed.  The name
of a function declaration belongs to the code around. -/
def renamedInside (outer : List String) : Tree → Tree
  | .node (.functionExpression mode) span [name, parameters, body] =>
    let function : Tree :=
      .node (.functionExpression mode) span [name, parameters, body]
    if looksUpNames function then
      .node (.functionExpression mode) span
        [name, renamedInside outer parameters, renamedInside outer body]
    else renamedAlone outer function
  | .node (.functionDeclaration mode) span [name, parameters, body] =>
    let function : Tree :=
      .node (.functionExpression mode) span [.absent 0, parameters, body]
    if looksUpNames function then
      .node (.functionDeclaration mode) span
        [name, renamedInside outer parameters, renamedInside outer body]
    else
      let own := (patternVariables name).map Prod.fst
      .node (.functionDeclaration mode) span
        (name :: (renamedAlone (own ++ outer) function).children.drop 1)
  | .node kind span children => .node kind span (renamedInsideEach outer children)

def renamedInsideEach (outer : List String) : List Tree → List Tree
  | [] => []
  | first :: rest => renamedInside outer first :: renamedInsideEach outer rest

end

/-- A program with names that tell its variables apart.  Functions without look-ups at
run time are renamed before the code around them. -/
def renamed (program : Tree) : Tree :=
  let outer := outerNames program
  let naming := Naming.enter ⟨outer, []⟩ [program] (hoistedVariables program)
  let names := changedNames naming program
  withChangedNames names (if looksUpNames program then renamedInside outer program
    else program)

end VuePrecompiler.Es5
