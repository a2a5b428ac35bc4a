import VuePrecompiler.Source.Span

/-!
# JavaScript syntax trees

All trees are of one shape: a kind, a span and the children in the order in
which they are visited.  What the children of a kind are is said beside it;
a child that is left out is an `absent` node.
-/

namespace VuePrecompiler.Javascript

open Source

inductive VariableKeyword where
  | var
  | let
  | const
deriving DecidableEq, Repr, Inhabited

/-- The ways in which a class or an object defines a method. -/
inductive MethodKind where
  | method
  | getter
  | setter
deriving DecidableEq, Repr, Inhabited

/-- How a function is run. -/
structure FunctionMode where
  isAsync : Bool
  isGenerator : Bool
deriving DecidableEq, Repr, Inhabited

/-- The kinds of nodes.  Raw texts are as in the source; names are decoded. -/
inductive Kind where
  /-- Stands where something is left out. -/
  | absent
  /-- Statements and module items. -/
  | program (isModule : Bool)
  -- names and literals, without children
  /-- A variable, where it is declared and where it is used; bindings tell
  variables of one name apart, and zero is not yet or nowhere bound. -/
  | identifier (name : String) (binding : Nat)
  /-- The name of a property. -/
  | propertyName (name : String)
  | privateName (name : String)
  | string (raw : String)
  | number (raw : String)
  | bigint (raw : String)
  | regexp (pattern flags : String)
  | boolean (value : Bool)
  | null
  | this
  | super
  | importMeta
  | newTarget
  -- expressions
  /-- Expressions between one chunk of text more. -/
  | template (chunks : List String)
  /-- Tag, template. -/
  | taggedTemplate
  /-- Items, with absent ones for holes. -/
  | array (trailingComma : Bool)
  /-- Properties, shorthands, methods and spreads. -/
  | object
  /-- Key, value. -/
  | property
  /-- Identifier. -/
  | shorthand
  /-- Identifier, default; has a place in patterns only. -/
  | shorthandWithDefault
  /-- Key, function. -/
  | method (kind : MethodKind)
  /-- Expression in brackets that gives a key. -/
  | computedKey
  /-- Expression behind dots. -/
  | spread
  /-- Name, parameters, body. -/
  | functionExpression (mode : FunctionMode)
  | functionDeclaration (mode : FunctionMode)
  /-- Parameters, body or expression. -/
  | arrow (isAsync : Bool)
  /-- Patterns. -/
  | parameters
  /-- Statements of a function. -/
  | body
  /-- Name, members, superclass. -/
  | classExpression
  | classDeclaration
  | members
  /-- Key, function. -/
  | classMethod (kind : MethodKind) (isStatic : Bool)
  /-- Key, value. -/
  | classField (isStatic : Bool)
  /-- Body. -/
  | staticBlock
  /-- Object, name; the flag tells `?.` from a dot. -/
  | member (isOptional : Bool)
  /-- Object, expression. -/
  | index (isOptional : Bool)
  /-- Callee, arguments. -/
  | call (isOptional : Bool)
  /-- Callee, arguments; a call without effects, which a comment says of it. -/
  | pureCall
  /-- Callee, arguments; the flag tells whether there are parentheses. -/
  | new (hasArguments : Bool)
  /-- Arguments. -/
  | importCall
  | unary (operator : String)
  | update (operator : String) (isPostfix : Bool)
  /-- Left, right. -/
  | binary (operator : String)
  /-- Target, value. -/
  | assign (operator : String)
  /-- Condition, then, else. -/
  | conditional
  /-- Expressions with commas between them. -/
  | sequence
  /-- Expression in parentheses. -/
  | parenthesized
  | await
  /-- Value or absent. -/
  | yield (isDelegating : Bool)
  -- patterns
  /-- Patterns, with absent ones for holes. -/
  | arrayPattern
  | objectPattern
  /-- Key, pattern. -/
  | patternProperty
  /-- Identifier, default or absent. -/
  | patternShorthand
  /-- Pattern. -/
  | rest
  /-- Pattern, default. -/
  | withDefault
  -- statements
  | block
  | empty
  | expressionStatement
  /-- Declarators. -/
  | variables (keyword : VariableKeyword)
  /-- Pattern, value or absent. -/
  | declarator
  /-- Condition, then, else or absent. -/
  | if
  /-- Start, condition and step, each or absent, body. -/
  | for
  /-- Target, object, body. -/
  | forIn
  /-- Target, iterable, body. -/
  | forOf (isAwait : Bool)
  /-- Condition, body. -/
  | while
  /-- Condition, body, though the body is written first. -/
  | doWhile
  | continue (label : Option String)
  | break (label : Option String)
  /-- Value or absent. -/
  | return
  | throw
  /-- Object, body. -/
  | with
  /-- Value, cases. -/
  | switch
  /-- Test or absent, statements. -/
  | case
  /-- Body. -/
  | labeled (label : String)
  /-- Block, catch or absent, finally or absent. -/
  | try
  /-- Pattern or absent, block. -/
  | catch
  | debugger
  -- module items
  /-- Local names. -/
  | import
  /-- Declaration. -/
  | export
  /-- Expression or declaration. -/
  | exportDefault
  /-- Exported names, or nothing for all names. -/
  | exportList
deriving DecidableEq, Repr, Inhabited

/-- Whether the first token of the expression is that of its first part. -/
def Kind.beginsWithPart : Kind → Bool
  | .member _ => true
  | .index _ => true
  | .call _ => true
  | .pureCall => true
  | .binary _ => true
  | .assign _ => true
  | .sequence => true
  | .conditional => true
  | .taggedTemplate => true
  | .update _ isPostfix => isPostfix
  | _ => false

/-- A syntax tree. -/
inductive Tree where
  | node (kind : Kind) (span : Span) (children : List Tree)
deriving Repr, Inhabited

namespace Tree

def kind : Tree → Kind
  | node kind _ _ => kind

def span : Tree → Span
  | node _ span _ => span

def children : Tree → List Tree
  | node _ _ children => children

/-- The node that stands for nothing. -/
def absent (position : Nat) : Tree := node .absent (.empty position) []

/-- A node without children. -/
def leaf (kind : Kind) (span : Span) : Tree := node kind span []

def isAbsent (tree : Tree) : Bool := tree.kind == .absent

end Tree

end VuePrecompiler.Javascript
