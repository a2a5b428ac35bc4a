import VuePrecompiler.Javascript.Grammar.Statement

/-!
# Programs

A program is a script or a module.  What it is shows in its text: a module
imports, exports, asks for `import.meta` or awaits outside of functions.
-/

namespace VuePrecompiler.Javascript

namespace Grammar

open Read Source Text

/-- The productions with a bound on the depth of trees. -/
def ofDepth (limit : Nat) : Nat → Grammar
  | 0 =>
    { limit, assignment := fun _ => fail, statement := fun _ _ =>
      fail, binding := fun _ => fail }
  | depth + 1 =>
    { limit
      assignment := fun context => do assignmentOf (ofDepth limit depth) context
      statement := fun context mayDeclare => do
        statementOf (ofDepth limit depth) context mayDeclare
      binding := fun context => do bindingOf (ofDepth limit depth) context }

/-- A name in a list of imports or exports: a word or a string. -/
def moduleName : Read Tree := do
  let start ← position
  match ← current with
  | .word name _ =>
    advance
    build start (.propertyName name) []
  | .string raw =>
    advance
    build start (.string raw) []
  | _ => fail

/-- The module that a declaration imports from, as a string. -/
def moduleSource : Read Unit := do
  match ← current with
  | .string _ => advance
  | _ => fail

/-- `name` or `name as local` in a list of imports. -/
def importItem (context : Context) : Read Tree := do
  let lexeme := (← get).current
  let _ ← moduleName
  if ← eatWord "as" then identifier context
  else shorthandVariable context lexeme

/-- The names of an import behind its default name. -/
def importNames (grammar : Grammar) (context : Context) : Read (List Tree) := do
  if ← eat "*" then
    expectWord "as"
    return [← identifier context]
  else
    expect "\x7b"
    separated "\x7d" (importItem context) grammar.limit

def importDeclaration (grammar : Grammar) (context : Context) : Read Tree := do
  let start ← position
  advance
  foundModule
  let names ← do
    match ← current with
    | .string _ => pure []
    | .word _ _ =>
      let first ← identifier context
      let rest ← if ← eat "," then importNames grammar context else pure []
      expectWord "from"
      pure (first :: rest)
    | _ =>
      let names ← importNames grammar context
      expectWord "from"
      pure names
  moduleSource
  endStatement
  build start .import names

/-- `name` or `name as exported` in a list of exports. -/
def exportItem : Read Tree := do
  let name ← moduleName
  if ← eatWord "as" then
    let _ ← moduleName
  return name

/-- Whether a name in a list of exports can be that of a variable. -/
def isVariable (tree : Tree) : Bool :=
  match tree.kind with
  | .propertyName name => !isReserved name
  | _ => false

/-- What follows `export default`. -/
def exportedDefault (grammar : Grammar) (context : Context) : Read Tree := do
  let start ← position
  match ← current with
  | .word "function" false => functionFrom grammar context start false false
  | .word "async" false =>
    let following ← next
    if following.token == .word "function" false && !following.newlineBefore then
      advance
      functionFrom grammar context start true false
    else
      let value ← grammar.assignment context.inside
      endStatement
      return value
  | .word "class" false =>
    classFrom grammar context (leftHandSide grammar grammar.limit true) false
  | _ =>
    let value ← grammar.assignment context.inside
    endStatement
    return value

def exportDeclaration (grammar : Grammar) (context : Context) : Read Tree := do
  let start ← position
  advance
  foundModule
  match ← current with
  | .word "default" false =>
    advance
    let value ← exportedDefault grammar context
    build start .exportDefault [value]
  | .punctuator "*" =>
    advance
    if ← eatWord "as" then
      let _ ← moduleName
    expectWord "from"
    moduleSource
    endStatement
    build start .exportList []
  | .punctuator "\x7b" =>
    advance
    let names ← separated "\x7d" exportItem grammar.limit
    if ← eatWord "from" then moduleSource
    else if !names.all isVariable then fail
    endStatement
    build start .exportList names
  | .word name false =>
    let following ← next
    let declares :=
      ["var", "let", "const", "function", "class"].contains name
        || (name == "async" && following.token == .word "function" false)
    if declares then build start .export [← grammar.statement context true]
    else fail
  | _ => fail

/-- A statement, an import or an export. -/
def moduleItem (grammar : Grammar) (context : Context) : Read Tree := do
  if !context.canBeModule then grammar.statement context true
  else if ← seesWord "import" then
    match (← next).token with
    | .punctuator "(" => grammar.statement context true
    | .punctuator "." => grammar.statement context true
    | _ => importDeclaration grammar context
  else if ← seesWord "export" then exportDeclaration grammar context
  else grammar.statement context true

/-- The items of a program up to its end. -/
def moduleItems (grammar : Grammar) (context : Context) : Nat → Read (List Tree)
  | 0 => fail
  | limit + 1 => do
    if (← current) == .finish then return []
    let first ← moduleItem grammar context
    return first :: (← moduleItems grammar context limit)

/-- Pass the line that tells a shell which program to run. -/
def behindHashbang (cursor : Cursor) : Cursor :=
  match cursor.rest with
  | '#' :: '!' :: _ => (cursor.takeWhile fun c => !isLineTerminator c).2
  | _ => cursor

/-- Read a text: its tree, whether it is a module, and its comments in order. -/
def programOf (canBeModule : Bool) (text : String) :
    Except Span (Tree × List Comment) := do
  let lexeme := Lexeme.at true (behindHashbang (Cursor.start text))
  let size := text.length + 1
  let context : Context := ⟨true, false, false, false, canBeModule, none⟩
  let start : Progress := ⟨lexeme, 0, lexeme.comments, false⟩
  let (items, progress) ←
    (moduleItems (ofDepth size (2 * size)) context size).run start
  let tree := .node (.program progress.isModule) ⟨0, text.utf8ByteSize⟩ items
  return (tree, progress.comments.reverse)

end Grammar

end VuePrecompiler.Javascript
