import VuePrecompiler.Es5.Build

/-!
# Scopes

`bound` gives every variable of a program its binding: variables that are the
same have the same binding, and those that nothing declares have binding zero.
-/

namespace VuePrecompiler.Es5

open Javascript

mutual

/-- The variables that a pattern or a declaration declares, with their bindings. -/
def patternVariables : Tree → List (String × Nat)
  | .node (.identifier name binding) _ _ => [(name, binding)]
  | .node .arrayPattern _ items => patternVariablesEach items
  | .node .objectPattern _ items => patternVariablesEach items
  | .node .patternProperty _ [_, target] => patternVariables target
  | .node .patternShorthand _ (name :: _) => patternVariables name
  | .node .withDefault _ (target :: _) => patternVariables target
  | .node .rest _ items => patternVariablesEach items
  | .node .parameters _ items => patternVariablesEach items
  | .node .declarator _ (target :: _) => patternVariables target
  | .node (.variables _) _ items => patternVariablesEach items
  | _ => []

def patternVariablesEach : List Tree → List (String × Nat)
  | [] => []
  | first :: rest => patternVariables first ++ patternVariablesEach rest

end

/-- The names that a pattern or a declaration declares. -/
def patternNames (tree : Tree) : List String := (patternVariables tree).map Prod.fst

def patternNamesEach (trees : List Tree) : List String :=
  (patternVariablesEach trees).map Prod.fst

/-- Whether a node begins a function or a class, out of which no `var` reaches. -/
def isClosed : Kind → Bool
  | .functionExpression _ => true
  | .functionDeclaration _ => true
  | .arrow _ => true
  | .classExpression => true
  | .classDeclaration => true
  | _ => false

mutual

/-- The names that `var` declares in a statement or below it. -/
def varNames : Tree → List String
  | .node (.variables .var) _ items => patternNamesEach items
  | .node kind _ children => if isClosed kind then [] else varNamesEach children

def varNamesEach : List Tree → List String
  | [] => []
  | first :: rest => varNames first ++ varNamesEach rest

end

/-- The names that a statement declares in the block it stands in. -/
def lexicalNames : Tree → List String
  | .node (.variables .var) _ _ => []
  | .node (.variables _) _ items => patternNamesEach items
  | .node (.functionDeclaration _) _ (name :: _) => patternNames name
  | .node .classDeclaration _ (name :: _) => patternNames name
  | _ => []

/-- The names of variables in sight, the nearest first, and their bindings. -/
abbrev Names := List (String × Nat)

/-- Give names bindings of their own. -/
def declare : List String → Names → Pass Names
  | [], names => return names
  | first :: rest, names => do
    let names ← declare rest names
    return (first, ← newBinding) :: names

/-- Names, each once. -/
def distinct (names : List String) : List String := names.eraseDups

/-- The names in sight inside of a function. -/
def functionNames (parameters body : Tree) (names : Names) : Pass Names :=
  declare (distinct (patternNames parameters ++ varNames body ++
    body.children.flatMap lexicalNames)) names

mutual

/-- A tree with the bindings of its variables. -/
def bound (names : Names) : Tree → Pass Tree
  | .node (.identifier name _) span _ =>
    return .node (.identifier name (if name == "arguments" then 0
      else (names.lookup name).getD 0))
      span []
  | .node (.functionExpression mode) span [name, parameters, body] => do
    let names ← declare (patternNames name) names
    let inner ← functionNames parameters body names
    let name ← bound names name
    let parameters ← bound inner parameters
    return .node (.functionExpression mode) span [name, parameters, ← bound inner body]
  | .node (.functionDeclaration mode) span [name, parameters, body] => do
    let inner ← functionNames parameters body names
    let name ← bound names name
    let parameters ← bound inner parameters
    return .node (.functionDeclaration mode) span [name, parameters,
      ← bound inner body]
  | .node (.arrow isAsync) span [parameters, body] => do
    let inner ← functionNames parameters body names
    let parameters ← bound inner parameters
    return .node (.arrow isAsync) span [parameters, ← bound inner body]
  | .node .classExpression span [name, members, parent] => do
    let names ← declare (patternNames name) names
    return .node .classExpression span (← boundEach names [name, members, parent])
  | .node kind span children => do
    let own :=
      match kind with
      | .block => children.flatMap lexicalNames
      | .switch => children.flatMap fun found => found.children.flatMap lexicalNames
      | .for => children.flatMap lexicalNames
      | .forIn => (children.take 1).flatMap lexicalNames
      | .forOf _ => (children.take 1).flatMap lexicalNames
      | .catch => (children.take 1).flatMap patternNames
      | .program _ => children.flatMap varNames ++ children.flatMap lexicalNames
      | _ => []
    return .node kind span (← boundEach (← declare (distinct own) names) children)

def boundEach (names : Names) : List Tree → Pass (List Tree)
  | [] => return []
  | first :: rest => do
    let first ← bound names first
    return first :: (← boundEach names rest)

end

end VuePrecompiler.Es5
