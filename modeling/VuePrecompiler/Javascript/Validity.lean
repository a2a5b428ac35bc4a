import VuePrecompiler.Javascript.Token
import VuePrecompiler.Javascript.Tree
import VuePrecompiler.Javascript.Words

/-!
# Early errors

Some texts follow the grammar and are no programs: a `break` out of nothing,
an octal number in strict code, two constructors in a class.  `Tree.fault?`
finds the first place of that sort.
-/

namespace VuePrecompiler.Javascript

open Text Source

/-- What a function that is met next is part of. -/
inductive FunctionRole where
  | plain
  | method
  /-- The constructor of a class; the flag tells whether the class has a superclass. -/
  | constructor (isDerived : Bool)
deriving DecidableEq

/-- What surrounds a piece of code. -/
structure Surroundings where
  isModule : Bool
  isStrict : Bool
  inFunction : Bool
  /-- Whether `new.target` has a meaning. -/
  hasTarget : Bool
  hasSuper : Bool
  hasSuperCall : Bool
  /-- Whether `arguments` is not available. -/
  inField : Bool
  labels : List String
  inLoop : Bool
  inSwitch : Bool
  role : FunctionRole
  /-- Whether the class around has a superclass. -/
  isDerived : Bool
  isTagged : Bool
  /-- Whether an object cannot give defaults to its shorthands. -/
  refusesDefaults : Bool

namespace Surroundings

/-- At the top of a program. -/
def ofProgram (isModule : Bool) : Surroundings where
  isModule
  isStrict := isModule
  inFunction := false
  hasTarget := false
  hasSuper := false
  hasSuperCall := false
  inField := false
  labels := []
  inLoop := false
  inSwitch := false
  role := .plain
  isDerived := false
  isTagged := false
  refusesDefaults := false

/-- In a function that is no arrow function. -/
def inPlainFunction (around : Surroundings) (isStrict : Bool) : Surroundings :=
  { ofProgram around.isModule with
    isStrict := around.isStrict || isStrict
    inFunction := true
    hasTarget := true
    hasSuper := around.role != .plain
    hasSuperCall := around.role == .constructor true
    refusesDefaults := around.refusesDefaults && around.role != .plain }

/-- In an arrow function. -/
def inArrow (around : Surroundings) (isStrict : Bool) : Surroundings :=
  { around with
    isStrict := around.isStrict || isStrict
    inFunction := true
    labels := []
    inLoop := false
    inSwitch := false
    role := .plain
    refusesDefaults := false }

/-- In the value of a field or in a static block. -/
def inClassField (around : Surroundings) : Surroundings :=
  { ofProgram around.isModule with
    isStrict := true
    hasTarget := true
    hasSuper := true
    inField := true }

end Surroundings

/-! ## Checks on single nodes -/

/-- Whether a number is written in the old octal style. -/
def isLegacyNumber (raw : String) : Bool :=
  match raw.toList with
  | '0' :: c :: _ => c.isDigit
  | _ => false

/-- Whether a string or a template contains an octal escape. -/
def hasOctalEscape : List Char → Bool
  | '\\' :: '0' :: rest => rest.head?.any Char.isDigit || hasOctalEscape rest
  | '\\' :: c :: rest => c.isDigit || hasOctalEscape rest
  | _ :: rest => hasOctalEscape rest
  | [] => false

/-- Whether every escape of a chunk of a template has a meaning. -/
def isCooked : List Char → Bool
  | '\\' :: c :: rest => (escapeLength? (c :: rest)).isSome && isCooked rest
  | _ :: rest => isCooked rest
  | [] => true

/-- Whether the flags of a regular expression are known and differ. -/
def areFlags : List Char → Bool
  | [] => true
  | c :: rest => "dgimsuvy".toList.contains c && !rest.contains c && areFlags rest

/-- Whether an expression begins with the words of the directive for strict code. -/
def startsStrict : Tree → Bool
  | .node (.string raw) _ _ => raw == "'use strict'" || raw == "\"use strict\""
  | .node kind _ (first :: _) => kind.beginsWithPart && startsStrict first
  | _ => false

/-- Whether statements begin with the directive for strict code.  The words count
even where an expression goes on behind them. -/
def beginsStrict : List Tree → Bool
  | .node .expressionStatement _ [expression] :: _ => startsStrict expression
  | _ => false

/-- Whether the body of a function makes it strict. -/
def isStrictBody (body : Tree) : Bool :=
  body.kind == .body && beginsStrict body.children

/-- Whether parameters are variables only. -/
def areSimple (parameters : Tree) : Bool :=
  parameters.children.all fun parameter =>
    match parameter.kind with
    | .identifier _ _ => true
    | _ => false

/-- Whether a variable is `eval` or `arguments`. -/
def isRestricted (tree : Tree) : Bool :=
  match tree.kind with
  | .identifier name _ => name == "eval" || name == "arguments"
  | _ => false

mutual

/-- Whether a target assigns to `eval` or `arguments`. -/
def bindsRestricted : Tree → Bool
  | .node (.identifier name _) _ _ => name == "eval" || name == "arguments"
  | .node .parenthesized _ children => bindsRestrictedEach children
  | .node .arrayPattern _ children => bindsRestrictedEach children
  | .node .objectPattern _ children => bindsRestrictedEach children
  | .node .patternProperty _ [_, target] => bindsRestricted target
  | .node .patternShorthand _ (name :: _) => bindsRestricted name
  | .node .withDefault _ (target :: _) => bindsRestricted target
  | .node .rest _ children => bindsRestrictedEach children
  | .node .parameters _ children => bindsRestrictedEach children
  | _ => false

def bindsRestrictedEach : List Tree → Bool
  | [] => false
  | first :: rest => bindsRestricted first || bindsRestrictedEach rest

end

/-- Whether an expression is a variable, perhaps in parentheses. -/
def isVariableInside : Tree → Bool
  | .node (.identifier _ _) _ _ => true
  | .node .parenthesized _ [inner] => isVariableInside inner
  | _ => false

/-- Whether a key is written out as a name. -/
def isKey (name : String) (key : Tree) : Bool :=
  match key.kind with
  | .propertyName found => found == name
  | .string raw => (StringLiteral.ofSource? raw).any fun literal =>
      literal.value == name
  | _ => false

def isConstructor : Tree → Bool
  | .node (.classMethod _ false) _ (key :: _) => isKey "constructor" key
  | _ => false

/-- Whether a function takes as many parameters as an accessor has to. -/
def hasArity (kind : MethodKind) (function : Tree) : Bool :=
  match kind, function.children with
  | .getter, [_, parameters, _] => parameters.children.isEmpty
  | .setter, [_, parameters, _] =>
    match parameters.children with
    | [.node kind _ _] => kind != .rest
    | _ => false
  | _, _ => true

def isFunctionDeclaration (tree : Tree) : Bool :=
  match tree.kind with
  | .functionDeclaration _ => true
  | _ => false

/-- Whether an object gives a default to a shorthand. -/
def givesDefaults : Tree → Bool
  | .node .object _ properties => properties.any fun property =>
      property.kind == .shorthandWithDefault
  | _ => false

/-- Whether a node by itself is out of place. -/
def isFault (around : Surroundings) (kind : Kind) (children : List Tree) : Bool :=
  match kind, children with
  | .identifier name _, _ =>
    (around.isStrict && strictReservedWords.contains name) ||
      (around.isModule && name == "await")
      || (around.inField && name == "arguments")
  | .string raw, _ => around.isStrict && hasOctalEscape raw.toList
  | .number raw, _ => around.isStrict && isLegacyNumber raw
  | .template chunks, _ =>
    !around.isTagged && chunks.any fun chunk =>
      !isCooked chunk.toList || hasOctalEscape chunk.toList
  | .regexp _ flags, _ => !areFlags flags.toList
  | .shorthandWithDefault, _ => around.refusesDefaults
  | .parenthesized, [.node .sequence _ items] => items.any givesDefaults
  | .parenthesized, [item] => givesDefaults item
  | .super, _ => !around.hasSuper
  | .call _, callee :: _ => callee.kind == .super && !around.hasSuperCall
  | .newTarget, _ => !around.hasTarget
  | .unary "delete", [operand] =>
    (around.isStrict && isVariableInside operand)
      || (match operand with
        | .node (.member _) _ [_, name] =>
          match name.kind with
          | .privateName _ => true
          | _ => false
        | _ => false)
  | .assign _, target :: _ => around.isStrict && bindsRestricted target
  | .update _ _, [target] => around.isStrict && bindsRestricted target
  | .declarator, target :: _ => around.isStrict && bindsRestricted target
  | .catch, target :: _ => around.isStrict && bindsRestricted target
  | .variables keyword, declarators =>
    keyword != .var && declarators.any fun declarator =>
      match declarator.children with
      | .node (.identifier "let" _) _ _ :: _ => true
      | _ => false
  | .functionExpression _, [name, parameters, body] => badFunction name parameters body
  | .functionDeclaration _, [name, parameters, body] =>
    badFunction name parameters body
  | .arrow _, [parameters, body] =>
    ((around.isStrict || isStrictBody body) && bindsRestricted parameters)
      || (isStrictBody body && !areSimple parameters)
  | .method kind, [_, function] => !hasArity kind function
  | .classMethod kind isStatic, [key, function] =>
    !hasArity kind function || (isStatic && isKey "prototype" key)
      || (!isStatic && isKey "constructor" key
        && (kind != .method || function.kind != .functionExpression ⟨false, false⟩))
      || key.kind == .privateName "constructor"
  | .classField isStatic, key :: _ =>
    isKey "constructor" key || (isStatic && isKey "prototype" key)
      || key.kind == .privateName "constructor"
  | .members, members => 1 < (members.filter isConstructor).length
  | .return, _ => !around.inFunction
  | .break none, _ => !around.inLoop && !around.inSwitch
  | .break (some label), _ => !around.labels.contains label
  | .continue none, _ => !around.inLoop
  | .continue (some label), _ => !around.inLoop || !around.labels.contains label
  | .labeled label, [body] =>
    around.labels.contains label || (around.isStrict && isFunctionDeclaration body)
  | .with, [_, body] => around.isStrict || isFunctionDeclaration body
  | .switch, _ :: cases =>
    1 < (cases.filter fun found => found.children.head?.any Tree.isAbsent).length
  | .if, [_, yes, no] =>
    around.isStrict && (isFunctionDeclaration yes || isFunctionDeclaration no)
  | .for, [_, _, _, body] => isFunctionDeclaration body
  | .forIn, [target, _, body] =>
    (around.isStrict && bindsRestricted target) || isFunctionDeclaration body
  | .forOf _, [target, _, body] =>
    (around.isStrict && bindsRestricted target) || isFunctionDeclaration body
  | .while, [_, body] => isFunctionDeclaration body
  | .doWhile, [_, body] => isFunctionDeclaration body
  | _, _ => false
where
  /-- Whether a function has a name or parameters that it cannot have. -/
  badFunction (name parameters body : Tree) : Bool :=
    let isStrict := around.isStrict || isStrictBody body
    (isStrict && (isRestricted name || bindsRestricted parameters))
      || (isStrictBody body && !areSimple parameters)

def Surroundings.below (around : Surroundings) (kind : Kind) (children : List Tree) :
    Surroundings :=
  let isStrict := children.getLast?.any isStrictBody
  match kind with
  | .functionExpression _ => around.inPlainFunction isStrict
  | .functionDeclaration _ => { around with role := .plain }.inPlainFunction isStrict
  | .arrow _ => around.inArrow isStrict
  | .method _ => { around with role := .method }
  | .classExpression => inClass
  | .classDeclaration => inClass
  | .classMethod _ isStatic =>
    let isConstructor := !isStatic && children.head?.any (isKey "constructor")
    { around with role := if isConstructor then .constructor around.isDerived
      else .method }
  | .classField _ => around.inClassField
  | .staticBlock => around.inClassField
  | .computedKey => { around with role := .plain }
  | .expressionStatement => { around with refusesDefaults := true, isTagged := false }
  | .for => inLoop
  | .forIn => inLoop
  | .forOf _ => inLoop
  | .while => inLoop
  | .doWhile => inLoop
  | .switch => { around with inSwitch := true, isTagged := false }
  | .labeled label => { around with labels := label :: around.labels }
  | .taggedTemplate => { around with isTagged := true }
  | _ => { around with isTagged := false }
where
  inLoop : Surroundings := { around with inLoop := true, isTagged := false }
  inClass : Surroundings :=
    { around with
      isStrict := true
      isDerived := !(children.getLast?.all Tree.isAbsent)
      isTagged := false }

namespace Tree

mutual

/-- The first place below a node that is out of place. -/
def faultIn? (around : Surroundings) : Tree → Option Span
  | node kind span children =>
    if isFault around kind children then some span
    else faultInEach? (around.below kind children) children

def faultInEach? (around : Surroundings) : List Tree → Option Span
  | [] => none
  | first :: rest => (faultIn? around first).or (faultInEach? around rest)

end

/-- The first place in a program that is out of place. -/
def fault? (tree : Tree) : Option Span :=
  let isModule := tree.kind == .program true
  let around := Surroundings.ofProgram isModule
  faultInEach? { around with isStrict := isModule || beginsStrict tree.children }
    tree.children

end Tree

end VuePrecompiler.Javascript
