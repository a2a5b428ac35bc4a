import VuePrecompiler.Javascript.Printing
import VuePrecompiler.Javascript.StringLiteral

/-!
# Building trees

The lowering to ECMAScript 5 makes new variables, asks for helper functions and
builds nodes that stand nowhere in a source text.
-/

namespace VuePrecompiler.Es5

open Javascript Source Text

/-- What the lowering keeps account of. -/
structure Supply where
  /-- The next unused binding. -/
  next : Nat
  /-- The helpers asked for so far, with their bindings. -/
  helpers : List (String × Nat)

/-- A step of the lowering. -/
abbrev Pass := StateM Supply

/-- A binding that no variable has yet. -/
def newBinding : Pass Nat :=
  modifyGet fun supply => (supply.next, { supply with next := supply.next + 1 })

/-- A node that stands nowhere in a source text. -/
def node (kind : Kind) (children : List Tree) : Tree := .node kind (.empty 0) children

def nothing : Tree := node .absent []

def variableNode (name : String) (binding : Nat) : Tree :=
  node (.identifier name binding) []

/-- A variable that differs from all others. -/
def newVariable (name : String) : Pass Tree := return variableNode name (← newBinding)

/-- How a character is written between two quotes; `next` is the one behind it. -/
def generatedChar (quote : Char) (next : Option Char) (c : Char) : List Char :=
  let code := c.toNat
  if c == quote then ['\\', c]
  else if c == '\\' then ['\\', '\\']
  else if code == 0 then (if next.any Char.isDigit then "\\x00".toList
    else ['\\', '0'])
  else if code == 8 then ['\\', 'b']
  else if code == 9 then ['\t']
  else if code == 10 then ['\\', 'n']
  else if code == 11 then ['\\', 'v']
  else if code == 12 then ['\\', 'f']
  else if code == 13 then ['\\', 'r']
  else if code < 0x20 then '\\' :: 'x' :: hexDigits 2 code
  else if code == 0x2028 || code == 0x2029 then '\\' :: 'u' :: hexDigits 4 code
  else if code == 0xFEFF then "\\uFEFF".toList
  else [c]

/-- The characters of a text between two quotes. -/
def generatedChars (quote : Char) : List Char → List Char
  | [] => []
  | c :: rest => generatedChar quote rest.head? c ++ generatedChars quote rest

/-- The source text of a string that stood nowhere, in double quotes unless
single ones need fewer escapes. -/
def generatedRaw (value : String) : String :=
  let chars := value.toList
  let quote := if chars.count '\'' < chars.count '"' then '\'' else '"'
  String.ofList (quote :: generatedChars quote chars ++ [quote])

/-- The character that two escapes of four digits stand for together. -/
def pairedChar? : List Char → Option Char
  | 'u' :: rest => do
    let high ← number? 16 (rest.take 4)
    let low ← number? 16 ((rest.drop 6).take 4)
    let isPair := 0xD800 ≤ high && high < 0xDC00 && 0xDC00 ≤ low && low < 0xE000
    if isPair && (rest.drop 4).take 2 == ['\\', 'u'] then
      charOfCode? (0x10000 + (high - 0xD800) * 0x400 + (low - 0xDC00))
    else none
  | _ => none

/-- A text of a literal, in which pairs of escapes that stand for one character
are that character.  `skipped` counts characters that belong to a pair. -/
def withPairs : Nat → List Char → List Char
  | _, [] => []
  | skipped + 1, _ :: rest => withPairs skipped rest
  | 0, '\\' :: c :: rest =>
    match pairedChar? (c :: rest) with
    | some found => found :: withPairs 10 rest
    | none => '\\' :: c :: withPairs 0 rest
  | 0, c :: rest => c :: withPairs 0 rest

/-- The text of a string. -/
def stringValue? (tree : Tree) : Option String :=
  match tree.kind with
  | .string raw =>
    (StringLiteral.ofSource? (String.ofList (withPairs 0 raw.toList))).map (·.value)
  | _ => none

def stringNode (value : String) : Tree := node (.string (generatedRaw value)) []

def numberNode (value : Nat) : Tree := node (.number (toString value)) []

/-- `void 0`. -/
def undefinedNode : Tree := node (.unary "void") [numberNode 0]

def callNode (callee : Tree) (items : List Tree) : Tree :=
  node (.call false) (callee :: items)

def memberNode (object : Tree) (name : String) : Tree :=
  node (.member false) [object, node (.propertyName name) []]

def indexNode (object key : Tree) : Tree := node (.index false) [object, key]

def assignNode (target value : Tree) : Tree := node (.assign "=") [target, value]

def binaryNode (operator : String) (left right : Tree) : Tree :=
  node (.binary operator) [left, right]

def statementNode (expression : Tree) : Tree := node .expressionStatement [expression]

def declaratorNode (target value : Tree) : Tree := node .declarator [target, value]

def variablesNode (declarators : List Tree) : Tree :=
  node (.variables .var) declarators

/-- `test === void 0 ? other : test`. -/
def defaultedNode (test other : Tree) : Tree :=
  node .conditional [binaryNode "===" test undefinedNode, other, test]

/-- The arguments of the function around. -/
def argumentsNode : Tree := variableNode "arguments" 0

/-- The variable for a helper, which stands for its function until all is lowered. -/
def helper (name : String) : Pass Tree := do
  let supply ← get
  let binding ←
    match supply.helpers.lookup name with
    | some binding => pure binding
    | none =>
      let binding ← newBinding
      modify fun supply => { supply with helpers := (name, binding) :: supply.helpers }
      pure binding
  return variableNode ("_" ++ name) binding

def helperCall (name : String) (items : List Tree) : Pass Tree :=
  return callNode (← helper name) items

/-- Statements behind the directives that other statements begin with. -/
def prepend (added : List Tree) : List Tree → List Tree
  | [] => added
  | first :: rest =>
    match first with
    | .node .expressionStatement _ [.node (.string _) _ _] =>
      first :: prepend added rest
    | _ => added ++ first :: rest

/-- The name of a variable that stands for the value of an expression. -/
def aliasText : Tree → String
  | .node (.identifier name _) _ _ => name
  | .node .this _ _ => "this"
  | .node (.member _) _ [object, name] =>
    aliasText object ++ "_" ++
      (match name.kind with
      | .propertyName name => name
      | .privateName name => name
      | _ => "")
  | .node (.index _) _ [object, key] => aliasText object ++ "_" ++ aliasText key
  | .node (.call _) _ (callee :: _) => aliasText callee
  | .node (.new _) _ (callee :: _) => aliasText callee
  | _ => ""

/-- A variable named after an expression, or else by `other`. -/
def aliasVariable (expression : Tree) (other : String) : Pass Tree :=
  let text := String.ofList ((aliasText expression).toList.dropWhile (· == '_'))
  newVariable (if text.isEmpty then other else "_" ++ text)

/-- A function without a name. -/
def functionNode (parameters statements : List Tree) : Tree :=
  node (.functionExpression ⟨false, false⟩)
    [nothing, node .parameters parameters, node .body statements]

/-- The statements of a block, or a statement alone. -/
def blockStatements : Tree → List Tree
  | .node .block _ statements => statements
  | tree => [tree]

/-- A declaration of variables without values. -/
def undefinedVariables (found : List Tree) : Tree :=
  variablesNode (found.map fun single => declaratorNode single nothing)

/-- Several expressions as one, of which the last gives the value. -/
def joinedExpressions : List Tree → Tree
  | [single] => single
  | parts => node .sequence parts

/-- An expression without the parentheses around it. -/
def bare : Tree → Tree
  | .node .parenthesized _ [inner] => bare inner
  | tree => tree

/-- Change the parts of a tree first and then the tree. -/
structure Rewriting where
  apply : Kind → Span → List Tree → Pass Tree

mutual

def Rewriting.tree (rewriting : Rewriting) : Tree → Pass Tree
  | .node kind span children => do
    rewriting.apply kind span (← rewriting.trees children)

def Rewriting.trees (rewriting : Rewriting) : List Tree → Pass (List Tree)
  | [] => return []
  | first :: rest => do
    let first ← rewriting.tree first
    return first :: (← rewriting.trees rest)

end

end VuePrecompiler.Es5
