import VuePrecompiler.Javascript.Grammar.Expression

/-!
# Statements
-/

namespace VuePrecompiler.Javascript

namespace Grammar

open Read Source

/-- Declarators with commas between them. -/
def declarators (grammar : Grammar) (context : Context) : Nat → Read (List Tree)
  | 0 => fail
  | limit + 1 => do
    let start ← position
    let target ← grammar.binding context.inside
    let value ←
      if ← eat "=" then grammar.assignment { context with arrowStart := none }
      else missing
    let first ← build start .declarator [target, value]
    if ← eat "," then return first :: (← declarators grammar context limit)
    else return [first]

/-- The keyword of a declaration that is next.  `let` is one only if a name or
a pattern follows. -/
def variableKeyword? : Read (Option VariableKeyword) := do
  match ← current with
  | .word "var" false => return some .var
  | .word "const" false => return some .const
  | .word "let" false =>
    let following ← next
    match following.token with
    | .word "of" _ =>
      let behind := Lexeme.at false following.after
      return if behind.token == .punctuator "=" then some .let else none
    | .word name _ => return if isReserved name then none else some .let
    | .punctuator "[" => return some .let
    | .punctuator "\x7b" => return some .let
    | _ => return none
  | _ => return none

/-- A declaration, without the end of the statement. -/
def variablesFrom (grammar : Grammar) (context : Context) (keyword : VariableKeyword) :
    Read Tree := do
  let start ← position
  advance
  build start (.variables keyword) (← declarators grammar context grammar.limit)

/-- Whether every declarator has a value, or is a variable that needs none. -/
def isComplete (keyword : VariableKeyword) : List Tree → Bool
  | [] => true
  | .node .declarator _ [target, value] :: rest =>
    let needsNone :=
      match target.kind with
      | .identifier _ _ => keyword != .const
      | _ => false
    (needsNone || !value.isAbsent) && isComplete keyword rest
  | _ => false

/-- A declaration as a statement. -/
def variableStatement (grammar : Grammar) (context : Context)
    (keyword : VariableKeyword) : Read Tree := do
  let tree ← variablesFrom grammar context.inside keyword
  if !isComplete keyword tree.children then throw tree.span
  endStatement
  return .node tree.kind (← spanFrom tree.span.start) tree.children

def block (grammar : Grammar) (context : Context) : Read Tree := do
  let start ← position
  expect "\x7b"
  build start .block (← repeated "\x7d" (grammar.statement context true) grammar.limit)

/-- An expression in parentheses. -/
def condition (grammar : Grammar) (context : Context) : Read Tree := do
  expect "("
  let tree ← expression grammar context.inside
  expect ")"
  return tree

def ifStatement (grammar : Grammar) (context : Context) : Read Tree := do
  let start ← position
  advance
  let test ← condition grammar context
  let yes ← grammar.statement context false
  let no ← if ← eatWord "else" then grammar.statement context false else missing
  build start .if [test, yes, no]

/-- The rest of a `for` statement with three parts, behind the first of them. -/
def threePartLoop (grammar : Grammar) (context : Context) (start : Nat)
    (first : Tree) : Read Tree := do
  expect ";"
  let test ← if ← sees ";" then missing else expression grammar context.inside
  expect ";"
  let step ← if ← sees ")" then missing else expression grammar context.inside
  expect ")"
  build start .for [first, test, step, ← grammar.statement context false]

/-- Whether the declaration at the head of a loop declares one variable, with a
value only where `var` and `in` allow one. -/
def isLoopHead (keyword : VariableKeyword) (ofValues : Bool) (tree : Tree) : Bool :=
  match tree.children with
  | [.node .declarator _ [target, value]] =>
    value.isAbsent || (keyword == .var && !ofValues &&
      match target.kind with
      | .identifier _ _ => true
      | _ => false)
  | _ => false

/-- The rest of a `for` statement behind what its head declares or assigns to. -/
def valueLoop (grammar : Grammar) (context : Context) (start : Nat) (isAwait : Bool)
    (target : Tree) : Read Tree := do
  if ← eatWord "of" then
    let iterable ← grammar.assignment context.inside
    expect ")"
    build start (.forOf isAwait) [target, iterable, ← grammar.statement context false]
  else
    expectWord "in"
    let object ← expression grammar context.inside
    expect ")"
    build start .forIn [target, object, ← grammar.statement context false]

def forStatement (grammar : Grammar) (context : Context) : Read Tree := do
  let start ← position
  advance
  let isAwait ←
    if ← seesWord "await" then
      if !context.isAsync && (context.inFunction || !context.canBeModule) then fail
      advance
      if !context.isAsync then foundModule
      pure true
    else pure false
  expect "("
  let head := { context.inside with allowIn := false }
  if ← sees ";" then
    if isAwait then fail
    threePartLoop grammar context start (← missing)
  else
    match ← variableKeyword? with
    | some keyword =>
      let declaration ← variablesFrom grammar head keyword
      if (← seesWord "of") || (← seesWord "in") then
        if !isLoopHead keyword (← seesWord "of") declaration then
          throw declaration.span
        if isAwait && !(← seesWord "of") then fail
        valueLoop grammar context start isAwait declaration
      else
        if !isComplete keyword declaration.children || isAwait then fail
        threePartLoop grammar context start declaration
    | none =>
      let first ← expression grammar head
      if (← seesWord "of") || (← seesWord "in") then
        if isAwait && !(← seesWord "of") then fail
        match first.asTarget? false with
        | some target =>
          if target.kind == .withDefault then fail
          valueLoop grammar context start isAwait target
        | none => throw first.span
      else
        if isAwait then fail
        threePartLoop grammar context start first

def whileStatement (grammar : Grammar) (context : Context) : Read Tree := do
  let start ← position
  advance
  let test ← condition grammar context
  build start .while [test, ← grammar.statement context false]

def doStatement (grammar : Grammar) (context : Context) : Read Tree := do
  let start ← position
  advance
  let body ← grammar.statement context false
  expectWord "while"
  let test ← condition grammar context
  let _ ← eat ";"
  build start .doWhile [test, body]

/-- The label behind `break` or `continue`, if there is one on the same line. -/
def jumpLabel? (context : Context) : Read (Option String) := do
  if ← newline then return none
  match ← current with
  | .word _ _ => return some (← variableName context)
  | _ => return none

def jumpStatement (context : Context) (kind : Option String → Kind) : Read Tree := do
  let start ← position
  advance
  let label ← jumpLabel? context
  endStatement
  build start (kind label) []

def returnStatement (grammar : Grammar) (context : Context) : Read Tree := do
  let start ← position
  advance
  let ends ← if ← newline then pure true else
    match ← current with
    | .punctuator ";" => pure true
    | .punctuator "\x7d" => pure true
    | .finish => pure true
    | _ => pure false
  let value ← if ends then missing else expression grammar context.inside
  endStatement
  build start .return [value]

def throwStatement (grammar : Grammar) (context : Context) : Read Tree := do
  let start ← position
  advance
  if ← newline then fail
  let value ← expression grammar context.inside
  endStatement
  build start .throw [value]

def withStatement (grammar : Grammar) (context : Context) : Read Tree := do
  let start ← position
  advance
  let object ← condition grammar context
  build start .with [object, ← grammar.statement context false]

/-- The statements of a case, up to the next case or the end. -/
def caseStatements (grammar : Grammar) (context : Context) : Nat → Read (List Tree)
  | 0 => fail
  | limit + 1 => do
    if (← sees "\x7d") || (← seesWord "case") || (← seesWord "default") then return []
    let first ← grammar.statement context true
    return first :: (← caseStatements grammar context limit)

def switchCase (grammar : Grammar) (context : Context) : Read Tree := do
  let start ← position
  let test ←
    if ← eatWord "default" then missing
    else
      expectWord "case"
      expression grammar context.inside
  expect ":"
  build start .case (test :: (← caseStatements grammar context grammar.limit))

def switchStatement (grammar : Grammar) (context : Context) : Read Tree := do
  let start ← position
  advance
  let value ← condition grammar context
  expect "\x7b"
  let cases ← repeated "\x7d" (switchCase grammar context) grammar.limit
  build start .switch (value :: cases)

def catchClause (grammar : Grammar) (context : Context) : Read Tree := do
  let start ← position
  advance
  let parameter ←
    if ← eat "(" then
      let target ← grammar.binding context.inside
      expect ")"
      pure target
    else missing
  build start .catch [parameter, ← block grammar context]

def tryStatement (grammar : Grammar) (context : Context) : Read Tree := do
  let start ← position
  advance
  let body ← block grammar context
  let handler ← if ← seesWord "catch" then catchClause grammar context else missing
  let final ← if ← eatWord "finally" then block grammar context else missing
  if handler.isAbsent && final.isAbsent then fail
  build start .try [body, handler, final]

/-- A statement that begins with an expression, which may be a label. -/
def expressionStatement (grammar : Grammar) (context : Context) : Read Tree := do
  let start ← position
  let label? ← do
    match ← current with
    | .word _ _ =>
      if (← next).token == .punctuator ":" then pure (some (← variableName context))
      else pure none
    | _ => pure none
  match label? with
  | some label =>
    expect ":"
    build start (.labeled label) [← grammar.statement context false]
  | none =>
    let inner ← expression grammar context.inside
    endStatement
    build start .expressionStatement [inner]

/-- A statement, given the productions inside of it. -/
def statementOf (grammar : Grammar) (context : Context) (mayDeclare : Bool) :
    Read Tree := do
  let start ← position
  let context := context.inside
  match ← current with
  | .punctuator "\x7b" => block grammar context
  | .punctuator ";" =>
    advance
    build start .empty []
  | .word "var" false => variableStatement grammar context .var
  | .word "const" false =>
    if mayDeclare then variableStatement grammar context .const else fail
  | .word "let" false =>
    if mayDeclare then
      match ← variableKeyword? with
      | some keyword => variableStatement grammar context keyword
      | none => expressionStatement grammar context
    else expressionStatement grammar context
  | .word "function" false => functionFrom grammar context start false true
  | .word "async" false =>
    let following ← next
    if following.token == .word "function" false && !following.newlineBefore then
      if !mayDeclare then fail
      advance
      functionFrom grammar context start true true
    else expressionStatement grammar context
  | .word "class" false =>
    if mayDeclare then
      classFrom grammar context (leftHandSide grammar grammar.limit true) true
    else fail
  | .word "if" false => ifStatement grammar context
  | .word "for" false => forStatement grammar context
  | .word "while" false => whileStatement grammar context
  | .word "do" false => doStatement grammar context
  | .word "continue" false => jumpStatement context .continue
  | .word "break" false => jumpStatement context .break
  | .word "return" false => returnStatement grammar context
  | .word "throw" false => throwStatement grammar context
  | .word "with" false => withStatement grammar context
  | .word "switch" false => switchStatement grammar context
  | .word "try" false => tryStatement grammar context
  | .word "debugger" false =>
    advance
    endStatement
    build start .debugger []
  | _ => expressionStatement grammar context

end Grammar

end VuePrecompiler.Javascript
