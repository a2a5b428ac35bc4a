import VuePrecompiler.Javascript.Tree

/-!
# Writing JavaScript

`Tree.text` writes a tree as code: four spaces for each level, arrays and
objects with one item on a line, and parentheses only where leaving them out
would change the meaning.
-/

namespace VuePrecompiler.Javascript

/-- Where an expression stands, as far as it matters for parentheses. -/
inductive Place where
  /-- At the start of a statement. -/
  | start
  /-- What is called. -/
  | callee
  /-- What is constructed. -/
  | constructed
  /-- Between commas, where a sequence needs parentheses. -/
  | item
  /-- Behind the key of a method. -/
  | tail
  /-- Behind the key of a setter. -/
  | setterTail
  | anywhere
deriving DecidableEq, Repr, Inhabited

/-- How tight an operator binds. -/
def operatorRank (operator : String) : Nat :=
  if operator == "??" || operator == "||" then 1
  else if operator == "&&" then 2
  else if operator == "|" then 3
  else if operator == "^" then 4
  else if operator == "&" then 5
  else if ["==", "!=", "===", "!=="].contains operator then 6
  else if ["<", ">", "<=", ">=", "in", "instanceof"].contains operator then 7
  else if ["<<", ">>", ">>>"].contains operator then 8
  else if ["+", "-"].contains operator then 9
  else if operator == "**" then 11
  else 10

namespace Kind

/-- Kinds that extend as far as they can: each part of an operation is set in
parentheses if it is one of them. -/
def isLoose : Kind → Bool
  | sequence => true
  | yield _ => true
  | conditional => true
  | assign _ => true
  | arrow _ => true
  | _ => false

/-- Whether a statement would be read otherwise if it began with the expression. -/
def opensStatement : Kind → Bool
  | object => true
  | functionExpression _ => true
  | classExpression => true
  | objectPattern => true
  | _ => false

/-- Whether the object of a member access needs parentheses. -/
def wrapsAsObject (place : Place) : Kind → Bool
  | object => place != .item
  | functionExpression _ => place != .item && place != .anywhere
  | call _ => place == .constructed
  | pureCall => place == .constructed
  | conditional => true
  | unary _ => true
  | sequence => true
  | update _ _ => true
  | binary _ => true
  | assign _ => true
  | arrow _ => true
  | classExpression => true
  | yield _ => true
  | await => true
  | new false => true
  | _ => false

/-- Whether what is called needs parentheses. -/
def wrapsAsCallee (place : Place) : Kind → Bool
  | functionExpression _ => place != .item && place != .anywhere
  | conditional => true
  | binary _ => true
  | unary _ => true
  | object => true
  | assign _ => true
  | sequence => true
  | yield _ => true
  | await => true
  | arrow _ => true
  | classExpression => true
  | update _ _ => true
  | new false => true
  | boolean _ => true
  | null => true
  | regexp _ _ => true
  | _ => false

/-- Whether what is constructed needs parentheses. -/
def wrapsAsConstructed : Kind → Bool
  | call _ => true
  | pureCall => true
  | await => true
  | yield _ => true
  | binary _ => true
  | assign _ => true
  | sequence => true
  | unary _ => true
  | conditional => true
  | arrow _ => true
  | string _ => true
  | number _ => true
  | boolean _ => true
  | null => true
  | regexp _ _ => true
  | _ => false

/-- Whether the left part of an operation needs parentheses. -/
def wrapsOnLeft (operator : String) : Kind → Bool
  | binary inner =>
    if operator == "??" then inner != "??"
    else if inner == "??" then true
    else operatorRank inner < operatorRank operator
      || (operatorRank inner == operatorRank operator && operator == "**")
  | unary _ => operator == "**"
  | await => operator == "**"
  | kind => kind.isLoose

/-- Whether the right part of an operation needs parentheses. -/
def wrapsOnRight (operator : String) : Kind → Bool
  | binary inner =>
    if inner == operator then operator != "&&" && operator != "||" && operator !=
      "??" && operator != "**"
    else operatorRank inner ≤ operatorRank operator ||
      (inner == "&&" && operator == "??")
  | kind => kind.isLoose

/-- Whether the operand of an operator before it needs parentheses. -/
def wrapsAsOperand : Kind → Bool
  | binary _ => true
  | kind => kind.isLoose

/-- Whether what is awaited needs parentheses. -/
def wrapsAsAwaited : Kind → Bool
  | binary _ => true
  | conditional => true
  | assign _ => true
  | yield _ => true
  | sequence => true
  | _ => false

end Kind

/-- Four spaces for each level. -/
def indentation (depth : Nat) : String :=
  String.ofList (List.replicate (4 * depth) ' ')

def wrapped (needed : Bool) (text : String) : String :=
  if needed then "(" ++ text ++ ")" else text

/-- Items on lines of their own between brackets.  A comma and a blank stand for a
hole at the end. -/
def itemLines (depth : Nat) (opening closing : String) (items : List String) :
    String :=
  if items.isEmpty then opening ++ closing
  else
    let line (item : String) := "\n" ++ indentation (depth + 1) ++ item
    let last := if items.getLast? == some "" then ", " else ""
    opening ++ String.intercalate "," (items.map line) ++ last ++ "\n" ++
      indentation depth ++ closing

/-- Lines between braces on lines of their own. -/
def openLines (depth : Nat) (lines : List String) : String :=
  let line (text : String) := "\n" ++ indentation (depth + 1) ++ text
  "\x7b" ++ String.join (lines.map line) ++ "\n" ++ indentation depth ++ "\x7d"

/-- Statements on lines of their own between braces. -/
def bracedLines (depth : Nat) (statements : List String) : String :=
  if statements.isEmpty then "\x7b\x7d" else openLines depth statements

/-- What stands between an operator and its operand. -/
def operandGap (operator : String) (operand : Kind) : String :=
  if ["delete", "void", "typeof"].contains operator then " "
  else
    match operand with
    | .unary inner =>
      if inner == operator && (operator == "+" || operator == "-") then " " else ""
    | .update inner false =>
      if (operator == "+" && inner == "++") || (operator == "-" && inner == "--") then
        " " else ""
    | _ => ""

/-- The words before the parameters of a function. -/
def functionWords (mode : FunctionMode) : String :=
  (if mode.isAsync then "async " else "") ++ "function" ++
    (if mode.isGenerator then "*" else "")

/-- Whether a number needs a second dot before the name of a member. -/
def needsSecondDot (raw : String) : Bool :=
  raw.toList.all Char.isDigit && !(raw.toList.head? == some '0' && 1 < raw.length)

/-- The chunks of a template with the expressions between them. -/
def templateText : List String → List String → String
  | chunk :: chunks, inner :: inners =>
    chunk ++ "$\x7b" ++ inner ++ "\x7d" ++ templateText chunks inners
  | chunks, _ => String.join chunks

def keywordText : VariableKeyword → String
  | .var => "var"
  | .let => "let"
  | .const => "const"

/-- A part of a tree that is ready to be written at a place and a depth. -/
structure Written where
  kind : Kind
  text : Place → Nat → String

namespace Written

def isAbsent (part : Written) : Bool := part.kind == .absent

/-- A part where nothing matters for parentheses. -/
def plain (depth : Nat) (part : Written) : String := part.text .anywhere depth

/-- A statement, or a part that starts one. -/
def statement (depth : Nat) (part : Written) : String := part.text .start depth

/-- A part that is set in parentheses if it is a sequence. -/
def value (depth : Nat) (part : Written) : String :=
  wrapped (part.kind == .sequence) (part.plain depth)

/-- Parts with commas between them. -/
def list (place : Place) (depth : Nat) (parts : List Written) : String :=
  String.intercalate ", " (parts.map fun part => part.text place depth)

/-- What stands before an operator: in parentheses, or at the place of the whole. -/
def head (wraps : Bool) (place : Place) (depth : Nat) (part : Written) : String :=
  if wraps then "(" ++ part.plain depth ++ ")" else part.text place depth

/-- A default or a value behind an equals sign, if there is one. -/
def initial (depth : Nat) (part : Written) : String :=
  if part.isAbsent then "" else " = " ++ part.value depth

end Written

/-- The words before the key of a method. -/
def methodWords : MethodKind → String
  | .method => ""
  | .getter => "get "
  | .setter => "set "

/-- The head of a class. -/
def classText (depth : Nat) (name members parent : Written) : String :=
  "class " ++ (if name.isAbsent then "" else name.plain depth ++ " ")
    ++ (if parent.isAbsent then "" else "extends " ++ parent.plain depth ++ " ")
    ++ members.plain depth

/-- A label behind `break` or `continue`. -/
def labelText (label : Option String) : String :=
  label.elim "" fun label => " " ++ label

/-- Write an expression, a pattern, a property or a member of a class. -/
def expressionText (place : Place) (depth : Nat) (kind : Kind) (parts : List Written) :
    String :=
  match kind, parts with
  | .identifier name _, _ => name
  | .propertyName name, _ => name
  | .privateName name, _ => "#" ++ name
  | .string raw, _ => raw
  | .number raw, _ => raw
  | .bigint raw, _ => raw
  | .regexp pattern flags, _ => "/" ++ pattern ++ "/" ++ flags
  | .boolean value, _ => if value then "true" else "false"
  | .null, _ => "null"
  | .this, _ => "this"
  | .super, _ => "super"
  | .importMeta, _ => "import.meta"
  | .newTarget, _ => "new.target"
  | .template chunks, inners =>
    "\x60" ++ templateText chunks (inners.map (Written.plain depth)) ++ "\x60"
  | .taggedTemplate, [tag, text] =>
    tag.head (tag.kind.wrapsAsCallee place) .callee depth ++ text.plain depth
  | .array _, items =>
    itemLines depth "[" "]" (items.map fun item => item.text .item (depth + 1))
  | .object, properties =>
    let inner := if place == .start then .anywhere else place
    wrapped (place == .start)
      (itemLines depth "\x7b" "\x7d" (properties.map fun part =>
        part.text inner (depth + 1)))
  | .property, [key, value] =>
    key.plain depth ++ ": "
      ++ wrapped (value.kind == .sequence && place != .item) (value.text place depth)
  | .shorthand, [name] => name.plain depth
  | .shorthandWithDefault, [name, value] =>
    name.plain depth ++ "=" ++ value.plain depth
  | .method .method, [key, function] => key.plain depth ++ function.text .tail depth
  | .method .getter, [key, function] =>
    "get " ++ key.plain depth ++ " " ++ function.text .tail depth
  | .method .setter, [key, function] =>
    "set " ++ key.plain depth ++ " " ++ function.text .setterTail depth
  | .computedKey, [key] => "[" ++ key.plain depth ++ "]"
  | .spread, [inner] => "..." ++ inner.value depth
  | .functionExpression mode, [name, parameters, body] =>
    let tail := parameters.plain depth ++ " " ++ body.statement depth
    if place == .tail then tail
    else if place == .setterTail then parameters.plain depth ++ body.statement depth
    else
      wrapped (place == .start)
        (functionWords mode ++ (if name.isAbsent then "" else " ") ++
          name.plain depth ++ tail)
  | .arrow isAsync, [parameters, body] =>
    (if isAsync then "async " else "") ++ parameters.plain depth ++ "=>"
      ++ wrapped (body.kind == .sequence || body.kind == .object)
        (if body.kind == .body then body.statement depth else body.plain depth)
  | .parameters, items => "(" ++ Written.list .anywhere depth items ++ ")"
  | .classExpression, [name, members, parent] =>
    wrapped (place == .start) (classText depth name members parent)
  | .members, items => bracedLines depth (items.map (Written.plain (depth + 1)))
  | .classMethod kind isStatic, [key, function] =>
    (if isStatic then "static " else "") ++ methodWords kind ++ key.plain depth
      ++ function.text .tail depth
  | .classField isStatic, [key, value] =>
    (if isStatic then "static " else "") ++ key.plain depth ++
      value.initial depth ++ ";"
  | .staticBlock, [body] => "static " ++ body.statement depth
  | .member isOptional, [object, name] =>
    let dot :=
      match object.kind with
      | .number raw => if needsSecondDot raw then ".." else "."
      | _ => if isOptional then "?." else "."
    object.head (object.kind.wrapsAsObject place) place depth ++ dot ++
      name.plain depth
  | .index isOptional, [object, key] =>
    object.head (object.kind.wrapsAsObject place) place depth
      ++ (if isOptional then "?.[" else "[") ++ key.plain depth ++ "]"
  | .call isOptional, callee :: items =>
    callee.head (callee.kind.wrapsAsCallee place) .callee depth
      ++ (if isOptional then "?.(" else "(") ++ Written.list .item depth items ++ ")"
  | .pureCall, callee :: items =>
    "/*#__PURE__*/ " ++ callee.head (callee.kind.wrapsAsCallee place) .callee depth
      ++ "(" ++ Written.list .item depth items ++ ")"
  | .new hasArguments, callee :: items =>
    "new " ++ callee.head callee.kind.wrapsAsConstructed .constructed depth
      ++ (if hasArguments then "(" ++ Written.list .item depth items ++ ")" else "")
  | .importCall, items => "import(" ++ Written.list .item depth items ++ ")"
  | .unary operator, [operand] =>
    operator ++ operandGap operator operand.kind
      ++ wrapped operand.kind.wrapsAsOperand (operand.plain depth)
  | .update operator true, [operand] => operand.text place depth ++ operator
  | .update operator false, [operand] => operator ++ operand.plain depth
  | .binary operator, [left, right] =>
    left.head (left.kind.wrapsOnLeft operator) place depth ++ " " ++ operator ++ " "
      ++ wrapped (right.kind.wrapsOnRight operator) (right.plain depth)
  | .assign operator, [target, value] =>
    let isObject := target.kind == .objectPattern
    wrapped (place == .start && isObject)
      (target.text (if isObject then .anywhere else place) depth ++ " " ++ operator ++
        " " ++ value.value depth)
  | .conditional, [test, yes, no] =>
    test.head test.kind.isLoose place depth ++ " ? " ++ yes.value depth ++ " : " ++
      no.value depth
  | .sequence, first :: rest =>
    let head := first.text (if place == .start then .start else .anywhere) depth
    wrapped (place == .item) (String.intercalate ", "
      (head :: rest.map (Written.plain depth)))
  | .parenthesized, [inner] => "(" ++ inner.plain depth ++ ")"
  | .await, [inner] =>
    "await " ++ wrapped inner.kind.wrapsAsAwaited (inner.plain depth)
  | .yield isDelegating, [value] =>
    (if isDelegating then "yield*" else "yield")
      ++ (if value.isAbsent then "" else " " ++ value.value depth)
  | .arrayPattern, items => "[" ++ Written.list .anywhere depth items ++ "]"
  | .objectPattern, items => "\x7b " ++ Written.list .anywhere depth items ++ " \x7d"
  | .patternProperty, [key, target] => key.plain depth ++ ": " ++ target.plain depth
  | .patternShorthand, [name, value] => name.plain depth ++ value.initial depth
  | .rest, [inner] => "..." ++ inner.plain depth
  | .withDefault, [target, value] => target.plain depth ++ value.initial depth
  | .declarator, [target, value] =>
    target.plain depth ++ (if value.isAbsent then "" else " = ") ++
      value.text .item depth
  | _, _ => ""

/-- Write a statement, or an expression at its place. -/
def assembled (place : Place) (depth : Nat) (kind : Kind) (parts : List Written) :
    String :=
  match kind, parts with
  | .body, statements =>
    bracedLines depth (statements.map (Written.statement (depth + 1)))
  | .block, statements =>
    bracedLines depth (statements.map (Written.statement (depth + 1)))
  | .empty, _ => ";"
  | .expressionStatement, [inner] => inner.statement depth ++ ";"
  | .variables keyword, declarators =>
    keywordText keyword ++ " " ++ Written.list .anywhere depth declarators
      ++ (if place == .start then ";" else "")
  | .functionDeclaration mode, [name, parameters, body] =>
    functionWords mode ++ " " ++ name.plain depth ++ parameters.plain depth ++ " "
      ++ body.statement depth
  | .classDeclaration, [name, members, parent] => classText depth name members parent
  | .if, [test, yes, no] =>
    let start := "if (" ++ test.plain depth ++ ") " ++ yes.statement depth
    if no.isAbsent then start
    else
      start ++ (if yes.kind == .block then " " else "\n" ++ indentation depth) ++
        "else " ++ no.statement depth
  | .for, [first, test, step, body] =>
    "for(" ++ first.plain depth ++ ";" ++ (if test.isAbsent then "" else " ")
      ++ test.plain depth
      ++ ";" ++ (if step.isAbsent then "" else " ") ++ step.plain depth ++ ")"
      ++ body.statement depth
  | .forIn, [target, object, body] =>
    "for(" ++ target.plain depth ++ " in " ++ object.plain depth ++ ")" ++
      body.statement depth
  | .forOf isAwait, [target, iterable, body] =>
    (if isAwait then "for await(" else "for(") ++ target.plain depth ++ " of "
      ++ iterable.plain depth ++ ")" ++ body.statement depth
  | .while, [test, body] => "while(" ++ test.plain depth ++ ")" ++ body.statement depth
  | .doWhile, [test, body] =>
    "do " ++ body.statement depth
      ++ (if body.kind == .block then "" else "\n" ++ indentation depth)
      ++ "while (" ++ test.plain depth ++ ")"
  | .continue label, _ => "continue" ++ labelText label ++ ";"
  | .break label, _ => "break" ++ labelText label ++ ";"
  | .return, [value] =>
    "return" ++ (if value.isAbsent then "" else " ") ++ value.plain depth ++ ";"
  | .throw, [value] => "throw " ++ value.plain depth ++ ";"
  | .with, [object, body] =>
    "with (" ++ object.plain depth ++ ")" ++ body.statement depth
  | .switch, value :: cases =>
    "switch(" ++ value.plain depth ++ ")"
      ++ openLines depth (cases.map (Written.statement (depth + 1)))
  | .case, test :: statements =>
    let line (statement : Written) :=
      "\n" ++ indentation (depth + 1) ++ statement.statement (depth + 1)
    (if test.isAbsent then "default:" else "case " ++ test.plain depth ++ ":")
      ++ String.join (statements.map line)
  | .labeled label, [body] => label ++ ": " ++ body.statement depth
  | .try, [body, handler, final] =>
    "try " ++ body.statement depth
      ++ (if handler.isAbsent then "" else " ") ++ handler.statement depth
      ++ (if final.isAbsent then "" else " finally") ++ final.statement depth
  | .catch, [parameter, body] =>
    "catch "
      ++ (if parameter.isAbsent then "" else "(" ++ parameter.plain depth ++ ")")
      ++ " " ++ body.statement depth
  | .debugger, _ => "debugger;"
  | .program _, statements =>
    String.intercalate "\n" (statements.map (Written.statement depth))
  | _, _ =>
    let stays := place != .start || kind.beginsWithPart || kind.opensStatement
    expressionText (if stays then place else .anywhere) depth kind parts

namespace Tree

mutual

/-- A tree, ready to be written. -/
def written : Tree → Written
  | node kind _ children =>
    ⟨kind, fun place depth => assembled place depth kind (writtenEach children)⟩

def writtenEach : List Tree → List Written
  | [] => []
  | first :: rest => written first :: writtenEach rest

end

/-- A program or a statement as code. -/
def text (tree : Tree) : String := tree.written.statement 0

end Tree

end VuePrecompiler.Javascript
