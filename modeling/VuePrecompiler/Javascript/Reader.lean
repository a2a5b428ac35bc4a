import VuePrecompiler.Javascript.Token
import VuePrecompiler.Javascript.Tree
import VuePrecompiler.Javascript.Words

/-!
# Reading tokens

A `Read` action looks at the current token, passes tokens and builds trees.
It fails with the span of the token that does not fit.
-/

namespace VuePrecompiler.Javascript

open Text Source

/-- How far a text has been read. -/
structure Progress where
  current : Lexeme
  /-- Where the previous token ends. -/
  lastStop : Nat
  /-- The comments seen so far, the last of them first. -/
  comments : List Comment
  /-- Whether something was seen that only modules have. -/
  isModule : Bool

/-- An action on the tokens of a text. -/
abbrev Read := StateT Progress (Except Span)

namespace Read

def current : Read Token := return (← get).current.token

/-- Where the current token begins. -/
def position : Read Nat := return (← get).current.span.start

/-- The token behind the current one. -/
def next : Read Lexeme := return Lexeme.at false (← get).current.after

/-- Whether a line ends before the current token. -/
def newline : Read Bool := return (← get).current.newlineBefore

/-- Fail at the current token. -/
def fail {α : Type} : Read α := do throw (← get).current.span

/-- Go on with a text. -/
def resume (cursor : Cursor) : Read Unit :=
  modify fun progress =>
    let lexeme := Lexeme.at false cursor
    { progress with
      current := lexeme
      lastStop := cursor.offset
      comments := lexeme.comments ++ progress.comments }

/-- Pass the current token. -/
def advance : Read Unit := do resume (← get).current.after

/-- Remember that the text is a module. -/
def foundModule : Read Unit :=
  modify fun progress => { progress with isModule := true }

/-- The span from a position to the end of the previous token. -/
def spanFrom (start : Nat) : Read Span := return ⟨start, (← get).lastStop⟩

/-- A node that begins at a position and ends with the previous token. -/
def build (start : Nat) (kind : Kind) (children : List Tree) : Read Tree :=
  return .node kind (← spanFrom start) children

/-- The node for something left out here. -/
def missing : Read Tree := return .absent (← get).lastStop

/-- Whether the current token is a punctuator. -/
def sees (text : String) : Read Bool :=
  return (← current) == .punctuator text

/-- Whether the current token is one of some punctuators. -/
def seesAny (texts : List String) : Read Bool := do
  match ← current with
  | .punctuator text => return texts.contains text
  | _ => return false

/-- Whether the current token is a word, spelled without escapes. -/
def seesWord (word : String) : Read Bool :=
  return (← current) == .word word false

/-- Pass a punctuator if it is next. -/
def eat (text : String) : Read Bool := do
  if ← sees text then
    advance
    return true
  else return false

/-- Pass a word if it is next. -/
def eatWord (word : String) : Read Bool := do
  if ← seesWord word then
    advance
    return true
  else return false

/-- Pass a punctuator, which has to be next. -/
def expect (text : String) : Read Unit := do
  unless ← eat text do fail

/-- Pass a word, which has to be next. -/
def expectWord (word : String) : Read Unit := do
  unless ← eatWord word do fail

/-- Pass the end of a statement: a semicolon, or a place where one may be left out. -/
def endStatement : Read Unit := do
  if ← eat ";" then return
  if (← sees "\x7d") || (← current) == .finish || (← newline) then return
  fail

/-- Read items with commas between them, and perhaps one at the end, up to and
with a closing punctuator. -/
def separated (closing : String) (item : Read Tree) : Nat → Read (List Tree)
  | 0 => fail
  | limit + 1 => do
    if ← eat closing then return []
    let first ← item
    if ← eat closing then return [first]
    expect ","
    return first :: (← separated closing item limit)

/-- Read items without anything between them, up to and with a closing punctuator. -/
def repeated (closing : String) (item : Read Tree) : Nat → Read (List Tree)
  | 0 => fail
  | limit + 1 => do
    if ← eat closing then return []
    let first ← item
    return first :: (← repeated closing item limit)

end Read

/-- Where a piece of code stands. -/
structure Context where
  /-- Whether `in` is an operator. -/
  allowIn : Bool
  isGenerator : Bool
  isAsync : Bool
  inFunction : Bool
  /-- Whether the text may turn out to be a module. -/
  canBeModule : Bool
  /-- Where an arrow function may begin. -/
  arrowStart : Option Nat

/-- The productions that stand inside of others; `limit` bounds the number of
items of a list. -/
structure Grammar where
  limit : Nat
  /-- An expression without commas. -/
  assignment : Context → Read Tree
  /-- A statement; the flag tells whether it may be a declaration. -/
  statement : Context → Bool → Read Tree
  /-- A variable or a destructuring pattern. -/
  binding : Context → Read Tree

namespace Context

/-- Inside of brackets. -/
def inside (context : Context) : Context :=
  { context with allowIn := true, arrowStart := none }

/-- In the parameters and the body of a function. -/
def inFunctionOf (context : Context) (mode : FunctionMode) : Context :=
  { context.inside with
    isGenerator := mode.isGenerator
    isAsync := mode.isAsync
    inFunction := true }

end Context

namespace Read

def variableName (context : Context) : Read String := do
  match ← current with
  | .word name _ =>
    if isReserved name || (name == "yield" && context.isGenerator)
        || (name == "await" && context.isAsync) then fail
    advance
    return name
  | _ => fail

/-- Read a variable. -/
def identifier (context : Context) : Read Tree := do
  let start ← position
  let name ← variableName context
  build start (.identifier name 0) []

end Read

end VuePrecompiler.Javascript
