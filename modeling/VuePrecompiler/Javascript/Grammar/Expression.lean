import VuePrecompiler.Javascript.Grammar.Class
import VuePrecompiler.Javascript.Grammar.Target

/-!
# Expressions

Productions from the literals up to the comma operator.  An arrow function is
met where its parameters begin and ends the expression that it begins.
-/

namespace VuePrecompiler.Javascript

namespace Grammar

open Read Text Source

/-- Whether an expression is an arrow function without parentheses. -/
def isArrow (tree : Tree) : Bool :=
  match tree.kind with
  | .arrow _ => true
  | _ => false

/-- An expression that may have commas. -/
def expression (grammar : Grammar) (context : Context) : Read Tree := do
  let start ← position
  let first ← grammar.assignment context
  if ← sees "," then
    let rest ← more grammar.limit
    build start .sequence (first :: rest)
  else return first
where
  more : Nat → Read (List Tree)
    | 0 => fail
    | limit + 1 => do
      if ← eat "," then
        let item ← grammar.assignment context
        return item :: (← more limit)
      else return []

/-- An expression behind dots, or one without. -/
def spreadable (grammar : Grammar) (context : Context) : Read Tree := do
  let start ← position
  if ← eat "..." then build start .spread [← grammar.assignment context.inside]
  else grammar.assignment context.inside

/-- The arguments of a call. -/
def arguments (grammar : Grammar) (context : Context) : Read (List Tree) := do
  expect "("
  separated ")" (spreadable grammar context) grammar.limit

/-! ## Literals -/

/-- The rest of a template: chunks, and expressions between them. -/
def templateParts (grammar : Grammar) (context : Context) :
    Nat → Cursor → Read (List String × List Tree)
  | 0, _ => fail
  | limit + 1, cursor => do
    match chunk? cursor with
    | none => fail
    | some (chunk, false, rest) =>
      resume rest
      return ([chunk], [])
    | some (chunk, true, rest) =>
      resume rest
      let inner ← expression grammar context.inside
      unless ← sees "\x7d" do fail
      let (chunks, inners) ← templateParts grammar context limit (← get).current.after
      return (chunk :: chunks, inner :: inners)

/-- A template from its backquote on. -/
def template (grammar : Grammar) (context : Context) : Read Tree := do
  let start ← position
  let (chunks, inners) ← templateParts grammar context grammar.limit
      (← get).current.after
  build start (.template chunks) inners

/-- A regular expression, of which the slash was read as an operator. -/
def regexp : Read Tree := do
  let start ← position
  match regexp? (← get).current.here with
  | none => fail
  | some (pattern, flags, rest) =>
    resume rest
    build start (.regexp pattern flags) []

/-- The items of an array literal up to and with its bracket, and whether a
comma stands before the bracket. -/
def arrayItems (grammar : Grammar) (context : Context) : Nat → Read (List Tree × Bool)
  | 0 => fail
  | limit + 1 => do
    if ← eat "]" then return ([], false)
    let hole ← sees ","
    let first ← if hole then missing else spreadable grammar context
    if ← eat "]" then return ([first], false)
    expect ","
    if ← eat "]" then return ([first], true)
    let (items, trailing) ← arrayItems grammar context limit
    return (first :: items, trailing)

def arrayLiteral (grammar : Grammar) (context : Context) : Read Tree := do
  let start ← position
  expect "["
  let (items, trailing) ← arrayItems grammar context grammar.limit
  build start (.array trailing) items

def objectPart (grammar : Grammar) (context : Context) : Read Tree := do
  let start ← position
  if ← eat "..." then
    build start .spread [← grammar.assignment context.inside]
  else
    let head ← methodHead ["(", ",", ":", "=", "\x7d"]
    let lexeme := (← get).current
    let key ← propertyKey grammar context
    if head.isMarked || (← sees "(") then
      let function ← methodFunction grammar context head.mode
      build start (.method head.kind) [key, function]
    else if ← eat ":" then
      build start .property [key, ← grammar.assignment context.inside]
    else
      let name ← shorthandVariable context lexeme
      if ← eat "=" then
        build start .shorthandWithDefault [name, ← grammar.assignment context.inside]
      else build start .shorthand [name]

def objectLiteral (grammar : Grammar) (context : Context) : Read Tree := do
  let start ← position
  expect "\x7b"
  build start .object (← separated "\x7d" (objectPart grammar context) grammar.limit)

/-! ## Arrow functions and parentheses -/

/-- The arrow function whose parameters have just been read. -/
def arrowFrom (grammar : Grammar) (context : Context) (start : Nat) (isAsync : Bool)
    (parameters : List Tree) : Read Tree := do
  let place ← spanFrom start
  match Tree.itemsAsTargets? true parameters with
  | none => throw place
  | some parameters =>
    expect "=>"
    let inner := context.inFunctionOf ⟨isAsync, false⟩
    let body ←
      if ← sees "\x7b" then functionBody grammar inner
      else grammar.assignment { inner with allowIn := context.allowIn }
    build start (.arrow isAsync) [.node .parameters place parameters, body]

/-- Whether the arrow of an arrow function is next. -/
def seesArrow : Read Bool := do
  return (← sees "=>") && !(← newline)

/-- What stands in parentheses: the items, and whether they can be parameters
only.  Something behind dots has to be the last item. -/
def parenthesizedItems (grammar : Grammar) (context : Context) :
    Nat → Read (List Tree × Bool)
  | 0 => fail
  | limit + 1 => do
    if ← eat ")" then return ([], true)
    let spread ← sees "..."
    let first ← spreadable grammar context
    if ← eat ")" then return ([first], spread)
    if spread then fail
    expect ","
    let (items, parametersOnly) ← parenthesizedItems grammar context limit
    return (first :: items, parametersOnly)

/-- Parentheses around an expression, or the parameters of an arrow function. -/
def parenthesized (grammar : Grammar) (context : Context) : Read Tree := do
  let start ← position
  expect "("
  let innerStart ← position
  let (items, parametersOnly) ← parenthesizedItems grammar context grammar.limit
  if context.arrowStart == some start && (← seesArrow) then
    arrowFrom grammar context start false items
  else if parametersOnly then fail
  else
    match items with
    | [inner] => build start .parenthesized [inner]
    | several =>
      let stop := (several.getLast?.map fun item => item.span.stop).getD innerStart
      build start .parenthesized [.node .sequence ⟨innerStart, stop⟩ several]

/-- What begins with `async`: a function, an arrow function, or the
variable of that name. -/
def asyncOrVariable (grammar : Grammar) (context : Context) : Read Tree := do
  let start ← position
  let following ← next
  let adjacent := !following.newlineBefore
  let mayBeArrow := context.arrowStart == some start && adjacent
  match following.token with
  | .word "function" false =>
    if adjacent then
      advance
      functionFrom grammar context start true false
    else identifier context
  | .word name _ =>
    let behind := Lexeme.at false following.after
    if mayBeArrow && !isReserved name && behind.token == .punctuator "=>" then
      advance
      let parameter ← identifier context
      arrowFrom grammar context start true [parameter]
    else identifier context
  | .punctuator "(" =>
    let callee ← identifier context
    if mayBeArrow then
      let items ← arguments grammar context
      if ← seesArrow then
        if Tree.restIsLast items then arrowFrom grammar context start true items
        else fail
      else build start (.call false) (callee :: items)
    else return callee
  | _ => identifier context

/-- Turn a variable into an arrow function if an arrow follows. -/
def variableOrArrow (grammar : Grammar) (context : Context) (tree : Tree) :
    Read Tree := do
  match tree.kind with
  | .identifier _ _ =>
    if context.arrowStart == some tree.span.start && (← seesArrow) then
      arrowFrom grammar context tree.span.start false [tree]
    else return tree
  | _ => return tree

/-! ## Members and calls -/

/-- The name behind a dot. -/
def memberName : Read Tree := do
  let start ← position
  match ← current with
  | .word name _ =>
    advance
    build start (.propertyName name) []
  | .privateName name =>
    advance
    build start (.privateName name) []
  | _ => fail

/-- The member accesses, calls and templates behind an expression. -/
def accesses (grammar : Grammar) (context : Context) (withCalls : Bool) :
    Nat → Tree → Read Tree
  | 0, _ => fail
  | limit + 1, base => do
    let start := base.span.start
    let again (tree : Tree) : Read Tree :=
      accesses grammar context withCalls limit tree
    match ← current with
    | .punctuator "." =>
      advance
      again (← build start (.member false) [base, ← memberName])
    | .punctuator "[" =>
      advance
      let key ← expression grammar context.inside
      expect "]"
      again (← build start (.index false) [base, key])
    | .punctuator "(" =>
      if withCalls then
        let items ← arguments grammar context
        again (← build start (.call false) (base :: items))
      else return base
    | .backquote =>
      if base.isOptionalChain then fail
      let text ← template grammar context
      again (← build start .taggedTemplate [base, text])
    | .punctuator "?." =>
      if !withCalls then fail
      if base.kind == .super then fail
      advance
      match ← current with
      | .punctuator "(" =>
        let items ← arguments grammar context
        again (← build start (.call true) (base :: items))
      | .punctuator "[" =>
        advance
        let key ← expression grammar context.inside
        expect "]"
        again (← build start (.index true) [base, key])
      | .backquote => fail
      | _ => again (← build start (.member true) [base, ← memberName])
    | _ => return base

/-- The arguments of `import(…)` behind its parenthesis: one at least, and no
comma at the end. -/
def importItems (grammar : Grammar) (context : Context) : Nat → Read (List Tree)
  | 0 => fail
  | limit + 1 => do
    let first ← spreadable grammar context
    if ← eat ")" then return [first]
    expect ","
    return first :: (← importItems grammar context limit)

/-- `import(…)` and `import.meta`. -/
def importExpression (grammar : Grammar) (context : Context) : Read Tree := do
  let start ← position
  expectWord "import"
  if ← eat "." then
    expectWord "meta"
    if !context.canBeModule then fail
    foundModule
    build start .importMeta []
  else
    expect "("
    build start .importCall (← importItems grammar context grammar.limit)

/-- `super`, in front of an access or a call. -/
def superExpression : Read Tree := do
  let start ← position
  expectWord "super"
  unless ← seesAny [".", "[", "("] do fail
  build start .super []

/-- The expressions that others are built from, except `new`. -/
def primary (grammar : Grammar) (context : Context)
    (superclass : Context → Read Tree) : Read Tree := do
  let start ← position
  let literal (kind : Kind) : Read Tree := do
    advance
    build start kind []
  match ← current with
  | .number raw => literal (.number raw)
  | .bigint raw => literal (.bigint raw)
  | .string raw => literal (.string raw)
  | .backquote => template grammar context
  | .punctuator "(" => parenthesized grammar context
  | .punctuator "[" => arrayLiteral grammar context
  | .punctuator "\x7b" => objectLiteral grammar context
  | .punctuator "/" => regexp
  | .punctuator "/=" => regexp
  | .word "this" false => literal .this
  | .word "null" false => literal .null
  | .word "true" false => literal (.boolean true)
  | .word "false" false => literal (.boolean false)
  | .word "super" false => superExpression
  | .word "import" false => importExpression grammar context
  | .word "function" false => functionFrom grammar context start false false
  | .word "class" false => classFrom grammar context superclass false
  | .word "async" false =>
    variableOrArrow grammar context (← asyncOrVariable grammar context)
  | _ => variableOrArrow grammar context (← identifier context)

/-- An expression with its accesses and calls, `new` included. -/
def leftHandSide (grammar : Grammar) : Nat → Bool → Context → Read Tree
  | 0, _, _ => fail
  | depth + 1, withCalls, context => do
    let start ← position
    let superclass (context : Context) := leftHandSide grammar depth true context
    let base ←
      if ← seesWord "new" then
        advance
        if ← eat "." then
          expectWord "target"
          build start .newTarget []
        else
          if (← seesWord "import") && (← next).token == .punctuator "(" then fail
          let callee ← leftHandSide grammar depth false context.inside
          if ← sees "?." then fail
          if ← sees "(" then
            let items ← arguments grammar context
            build start (.new true) (callee :: items)
          else build start (.new false) [callee]
      else primary grammar context superclass
    if isArrow base then return base
    accesses grammar context withCalls grammar.limit base

/-- Expression behind which `++` or `--` may stand. -/
def postfixExpression (grammar : Grammar) (context : Context) : Read Tree := do
  let start ← position
  let base ← leftHandSide grammar grammar.limit true context
  if isArrow base then return base
  if (← seesAny ["++", "--"]) && !(← newline) then
    if !base.isSimpleTarget then throw base.span
    let increments ← eat "++"
    if !increments then advance
    build start (.update (if increments then "++" else "--") true) [base]
  else return base

/-! ## Operators -/

/-- The operator before its operand that is next. -/
def unaryOperator? : Token → Option String
  | .punctuator text => if ["+", "-", "~", "!"].contains text then some text else none
  | .word word false =>
    if ["delete", "void", "typeof"].contains word then some word else none
  | _ => none

/-- An expression with operators before it. -/
def unary (grammar : Grammar) (context : Context) : Nat → Read Tree
  | 0 => fail
  | depth + 1 => do
    let start ← position
    let token ← current
    match unaryOperator? token with
    | some operator =>
      advance
      build start (.unary operator) [← unary grammar context.inside depth]
    | none =>
      match token with
      | .punctuator "++" => step (unary grammar context.inside depth) start "++"
      | .punctuator "--" => step (unary grammar context.inside depth) start "--"
      | .word "await" false =>
        if context.isAsync then
          advance
          build start .await [← unary grammar context.inside depth]
        else if (← next).token == .punctuator ")" || (← next).token == .punctuator "]"
            || (← next).token == .punctuator "=>" then
          postfixExpression grammar context
        else if context.inFunction || !context.canBeModule then fail
        else
          advance
          foundModule
          build start .await [← unary grammar context.inside depth]
      | _ => postfixExpression grammar context
where
  /-- `++` or `--` before its operand. -/
  step (operandAfter : Read Tree) (start : Nat) (operator : String) : Read Tree := do
    advance
    let operand ← operandAfter
    if !operand.isSimpleTarget then throw operand.span
    build start (.update operator false) [operand]

/-- The rank of an operator between operands; higher ones bind tighter. -/
def binaryRank? (allowIn : Bool) : Token → Option Nat
  | .punctuator text =>
    if text == "??" then some 1
    else if text == "||" then some 2
    else if text == "&&" then some 3
    else if text == "|" then some 4
    else if text == "^" then some 5
    else if text == "&" then some 6
    else if ["==", "!=", "===", "!=="].contains text then some 7
    else if ["<", ">", "<=", ">="].contains text then some 8
    else if ["<<", ">>", ">>>"].contains text then some 9
    else if ["+", "-"].contains text then some 10
    else if ["*", "/", "%"].contains text then some 11
    else if text == "**" then some 12
    else none
  | .word "instanceof" false => some 8
  | .word "in" false => if allowIn then some 8 else none
  | _ => none

/-- The spelling of an operator. -/
def operatorText : Token → String
  | .punctuator text => text
  | .word word _ => word
  | _ => ""

/-- Whether two operators cannot stand side by side without parentheses. -/
def clashes (operator : String) (operand : Tree) : Bool :=
  match operand.kind with
  | .binary inner =>
    (operator == "??" && (inner == "||" || inner == "&&"))
      || ((operator == "||" || operator == "&&") && inner == "??")
  | _ => false

/-- Whether an expression cannot be the base of a power without parentheses. -/
def isPrefixed (tree : Tree) : Bool :=
  match tree.kind with
  | .unary _ => true
  | .await => true
  | _ => false

/-- The operators behind an operand that bind tighter than `rank`. -/
def operatorsFrom (grammar : Grammar) (context : Context) :
    Nat → Nat → Tree → Read Tree
  | 0, _, _ => fail
  | limit + 1, rank, left => do
    let token ← current
    match binaryRank? context.allowIn token with
    | none => return left
    | some found =>
      if found ≤ rank then return left
      let operator := operatorText token
      if operator == "**" && isPrefixed left then fail
      let place ← position
      advance
      let operand ← unary grammar context.inside grammar.limit
      let right ←
        operatorsFrom grammar context limit
        (if operator == "**" then found - 1 else found) operand
      if clashes operator left || clashes operator right then throw ⟨place, place⟩
      let whole ← build left.span.start (.binary operator) [left, right]
      operatorsFrom grammar context limit rank whole

/-- Operands with operators between them. -/
def binary (grammar : Grammar) (context : Context) : Read Tree := do
  let start ← position
  let left ←
    match ← current with
    | .privateName name =>
      advance
      unless ← seesWord "in" do fail
      build start (.privateName name) []
    | _ => unary grammar context grammar.limit
  if isArrow left then return left
  operatorsFrom grammar context grammar.limit 0 left

/-- A choice by a condition. -/
def conditional (grammar : Grammar) (context : Context) : Read Tree := do
  let start ← position
  let test ← binary grammar context
  if isArrow test then return test
  if ← eat "?" then
    let yes ← grammar.assignment context.inside
    expect ":"
    let no ← grammar.assignment { context with arrowStart := none }
    build start .conditional [test, yes, no]
  else return test

/-- `yield` with what follows it. -/
def yieldExpression (grammar : Grammar) (context : Context) : Read Tree := do
  let start ← position
  advance
  let ends ← do
    match ← current with
    | .punctuator text => pure ([")", "]", "\x7d", ",", ";", ":"].contains text)
    | .word "in" _ => pure true
    | .word "of" _ => pure true
    | .finish => pure true
    | _ => pure false
  if ends || (← newline) then build start (.yield false) [← missing]
  else
    let delegates ← eat "*"
    build start (.yield delegates) [← grammar.assignment context]

/-- The operators that assign after an operation. -/
def compoundAssignments : List String :=
  ["+=", "-=", "*=", "/=", "%=", "**=", "<<=", ">>=", ">>>=", "&=", "|=", "^=",
    "&&=", "||=", "??="]

/-- An expression without commas, given the productions inside of it. -/
def assignmentOf (grammar : Grammar) (context : Context) : Read Tree := do
  let start ← position
  let context := { context with arrowStart := some start }
  if context.isGenerator && (← seesWord "yield") then yieldExpression grammar context
  else
    let left ← conditional grammar context
    if isArrow left then return left
    if ← sees "=" then
      match left.asTarget? false with
      | some target =>
        advance
        build start (.assign "=") [target, ← grammar.assignment context]
      | none => throw left.span
    else if ← seesAny compoundAssignments then
      if !left.isSimpleTarget then throw left.span
      let operator := operatorText (← current)
      advance
      build start (.assign operator) [left, ← grammar.assignment context]
    else return left

end Grammar

end VuePrecompiler.Javascript
