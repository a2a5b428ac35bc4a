import VuePrecompiler.Javascript.StringLiteral
import VuePrecompiler.Text.WordChars
import VuePrecompiler.Text.Blank

/-!
# Event handlers

The function that a listener runs.  A handler that is a path or a function is
taken as it is; any other code becomes the body of a function of `$event`.
Modifiers put guards in front of the handler.
-/

namespace VuePrecompiler.Render

open Text Javascript

/-! ## Shapes of handlers -/

/-- The characters of a name in the shapes below. -/
def isNameChar (c : Char) : Bool :=
  isWordChar c || c == '$'

/-- The characters that a name in a path starts with. -/
def isNameStart (c : Char) : Bool :=
  c.isAlpha || c == '_' || c == '$'

/-- What follows a name, if one stands at the start. -/
def afterName? : List Char → Option (List Char)
  | [] => none
  | c :: rest => if isNameStart c then some (rest.dropWhile isNameChar) else none

/-- What follows a bracketed key, given behind its opening bracket: a string
without its own quote, a number, or a name. -/
def afterKey? (text : List Char) : Option (List Char) :=
  match text with
  | '\'' :: rest => afterPrefix? ['\'', ']'] (rest.dropWhile (· != '\''))
  | '"' :: rest => afterPrefix? ['"', ']'] (rest.dropWhile (· != '"'))
  | c :: rest =>
    if isDecimalDigit c then afterPrefix? [']'] (rest.dropWhile isDecimalDigit)
    else (afterName? text).bind (afterPrefix? [']'])
  | [] => none

/-- What follows one access of a path. -/
def afterAccess? (text : List Char) : Option (List Char) :=
  match text with
  | '.' :: rest => afterName? rest
  | '[' :: rest => afterKey? rest
  | _ => none

/-- Whether a text consists of accesses, of which there are at most `count`. -/
def isAccesses : Nat → List Char → Bool
  | 0, text => text.isEmpty
  | count + 1, text =>
    text.isEmpty || (afterAccess? text).any (isAccesses count)

/-- Whether a text is a path such as `a.b['c'][0]`. -/
def isPath (text : List Char) : Bool :=
  (afterName? text).any fun rest => isAccesses rest.length rest

/-- What follows the parameters of an arrow function: a name, or everything up
to the first closing parenthesis. -/
def afterArrowParameters? (text : List Char) : Option (List Char) :=
  match text with
  | '(' :: rest => afterPrefix? [')'] (rest.dropWhile (· != ')'))
  | _ =>
    let rest := text.dropWhile isNameChar
    if rest.length < text.length then some rest else none

def startsArrow (text : List Char) : Bool :=
  (afterArrowParameters? text).any fun rest => ['=', '>'].isPrefixOf (trimStart rest)

/-- Whether a text starts like a function expression: the keyword, a name or
none, a parenthesis. -/
def startsFunction (text : List Char) : Bool :=
  (afterPrefix? "function".toList text).any fun rest =>
    let behind := trimStart rest
    let named :=
      if behind.length < rest.length then behind.dropWhile isNameChar else behind
    ['('].isPrefixOf (trimStart named)

def isFunctionLike (text : List Char) : Bool :=
  startsArrow text || startsFunction text

/-- The text before the call at its end: before the first parenthesis behind
which only one is closed, at the end but for semicolons. -/
def withoutCall (text : List Char) : List Char :=
  match (text.reverse.dropWhile (· == ';')) with
  | ')' :: before =>
    let arguments := (before.takeWhile (· != ')')).reverse
    match breakOn ['('] arguments with
    | (callee, _ :: _) => (before.dropWhile (· != ')')).reverse ++ callee
    | (_, []) => text
  | _ => text

/-- Whether a text is a path with or without a call behind it. -/
def isCall (text : List Char) : Bool :=
  isPath (withoutCall text)

/-! ## Guards -/

/-- Modifiers that name keys: the key code and the key names, as code. -/
def keyModifiers : List (String × String × String) := [
  ("esc", "27", "[\"Esc\",\"Escape\"]"),
  ("tab", "9", "\"Tab\""),
  ("enter", "13", "\"Enter\""),
  ("space", "32", "[\" \",\"Spacebar\"]"),
  ("up", "38", "[\"Up\",\"ArrowUp\"]"),
  ("left", "37", "[\"Left\",\"ArrowLeft\"]"),
  ("right", "39", "[\"Right\",\"ArrowRight\"]"),
  ("down", "40", "[\"Down\",\"ArrowDown\"]"),
  ("delete", "[8,46]", "[\"Backspace\",\"Delete\",\"Del\"]")]

/-- The condition under which a key is not the one a modifier names. -/
def keyFilter (key : String) : String :=
  match word32? 10 key.toList with
  | some code => "$event.keyCode!==" ++ toString code
  | none =>
    match keyModifiers.lookup key with
    | some (code, names) =>
      "_k($event.keyCode,\"" ++ key ++ "\"," ++ code ++ ",$event.key," ++ names ++ ")"
    | none => "_k($event.keyCode," ++ literal key ++ ",undefined,$event.key,undefined)"

/-- What a modifier puts in front of a handler. -/
inductive Guard where
  | statement (code : String)
  /-- A condition on the key. -/
  | key (condition : String)
  | nothing

def buttonGuard (button : Nat) : Guard :=
  .statement ("if('button' in $event && $event.button !== " ++ toString button ++
    ")return null;")

/-- The guard of a modifier; `left` and `right` are keys where the event is
one of the keyboard. -/
def Guard.ofModifier (onKeys : Bool) (modifier : String) : Guard :=
  if modifier == "stop" then .statement "$event.stopPropagation();"
  else if modifier == "prevent" then .statement "$event.preventDefault();"
  else if modifier == "self" then
    .statement "if($event.target !== $event.currentTarget)return null;"
  else if ["ctrl", "shift", "alt", "meta"].contains modifier then
    .statement ("if(!$event." ++ modifier ++ "Key)return null;")
  else if modifier == "middle" then buttonGuard 1
  else if modifier == "left" && !onKeys then buttonGuard 0
  else if modifier == "right" && !onKeys then buttonGuard 2
  else if ["capture", "once", "passive", "native", "exact"].contains modifier then
    .nothing
  else .key (keyFilter modifier)

/-- The guards of a listener.  The keys come first, so that nothing
runs for other keys. -/
def guards (modifiers : List String) (event : String) : String :=
  let all := modifiers.map (Guard.ofModifier ("key".toList.isPrefixOf event.toList))
  let keys := all.filterMap fun | .key condition => some condition | _ => none
  let statements := all.filterMap fun | .statement code => some code | _ => none
  let filter :=
    if keys.isEmpty then ""
    else "if(!$event.type.indexOf('key')&&" ++ "&&".intercalate keys ++ ")return null;"
  filter ++ String.join statements

/-! ## Handlers -/

/-- A function of `$event`. -/
def eventFunction (body : String) : String :=
  "function($event)\x7b" ++ body ++ "\x7d"

/-- The function for a handler, its modifiers and the name of the event. -/
def handlerFunction (handler : String) (modifiers : List String)
    (event : String) : String :=
  let text := trim handler.toList
  let handler := String.ofList text
  let guards := guards modifiers event
  if text.isEmpty then eventFunction guards
  else if guards.isEmpty then
    if isPath text || isFunctionLike text then handler
    else if isCall text then eventFunction ("return " ++ handler)
    else eventFunction handler
  else if isPath text then
    eventFunction (guards ++ "return " ++ handler ++ ".apply(null, arguments)")
  else if isFunctionLike text then
    eventFunction (guards ++ "return (" ++ handler ++ ").apply(null, arguments)")
  else if isCall text then eventFunction (guards ++ "return " ++ handler)
  else eventFunction (guards ++ handler)

/-- What the name of an event starts with, for listeners that capture, run
once or are passive. -/
def eventMarks (modifiers : List String) : String :=
  (if modifiers.contains "passive" then "&" else "")
    ++ (if modifiers.contains "once" then "~" else "")
    ++ (if modifiers.contains "capture" then "!" else "")

end VuePrecompiler.Render
