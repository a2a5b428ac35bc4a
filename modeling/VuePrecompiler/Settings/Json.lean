import VuePrecompiler.Text.Number

/-!
# JSON

`Json.ofText?` reads a JSON text.  Numbers are read, but their values are not
kept: no setting is a number.
-/

namespace VuePrecompiler.Settings

open Text

/-- A JSON value. -/
inductive Json where
  | null
  | bool (value : Bool)
  | number
  /-- A string, unless its escapes spell half of a character. -/
  | string (text : Option String)
  | array (items : List Json)
  /-- The members in order, with all that repeat. -/
  | object (members : List (String × Json))
deriving Repr, Inhabited

namespace Json

/-- A blank between the tokens of JSON. -/
def isGap (c : Char) : Bool := c == ' ' || c == '\n' || c == '\t' || c == '\r'

def skipGap (text : List Char) : List Char := text.dropWhile isGap

/-- The character that a letter behind a backslash stands for. -/
def escaped? : Char → Option Char
  | '"' => some '"'
  | '\\' => some '\\'
  | '/' => some '/'
  | 'b' => some '\x08'
  | 'f' => some '\x0c'
  | 'n' => some '\n'
  | 'r' => some '\r'
  | 't' => some '\t'
  | _ => none

/-- The code points of a string and what is behind its closing quote.  Escapes
of four digits may spell halves of characters. -/
def codes? : List Char → Option (List Nat × List Char)
  | [] => none
  | '"' :: rest => some ([], rest)
  | '\\' :: 'u' :: a :: b :: c :: d :: rest => do
    let code ← number? 16 [a, b, c, d]
    let (codes, rest) ← codes? rest
    return (code :: codes, rest)
  | '\\' :: letter :: rest => do
    let c ← escaped? letter
    let (codes, rest) ← codes? rest
    return (c.toNat :: codes, rest)
  | c :: rest => do
    if c.toNat < 0x20 || c == '\\' then none
    let (codes, rest) ← codes? rest
    return (c.toNat :: codes, rest)

/-- The text of code points, where two halves make one character. -/
def textOfCodes? : List Nat → Option (List Char)
  | [] => some []
  | code :: rest =>
    if 0xD800 ≤ code && code < 0xDC00 then
      match rest with
      | low :: rest =>
        if 0xDC00 ≤ low && low < 0xE000 then
          (textOfCodes? rest).map
            (Char.ofNat (0x10000 + (code - 0xD800) * 0x400 + (low - 0xDC00)) :: ·)
        else none
      | [] => none
    else do
      let c ← charOfCode? code
      return c :: (← textOfCodes? rest)

/-- What is behind at least one digit. -/
def digits? (text : List Char) : Option (List Char) :=
  if text.head?.any Char.isDigit then some (text.dropWhile Char.isDigit) else none

/-- What is behind a fraction, if there is one. -/
def fraction? : List Char → Option (List Char)
  | '.' :: rest => digits? rest
  | rest => some rest

/-- What is behind an exponent, if there is one. -/
def exponent? : List Char → Option (List Char)
  | 'e' :: rest => signedDigits? rest
  | 'E' :: rest => signedDigits? rest
  | rest => some rest
where
  signedDigits? : List Char → Option (List Char)
    | '+' :: rest => digits? rest
    | '-' :: rest => digits? rest
    | rest => digits? rest

/-- What is behind a number without a sign. -/
def number? (text : List Char) : Option (List Char) := do
  let rest ←
    match text with
    | '0' :: rest => some rest
    | _ => digits? text
  exponent? (← fraction? rest)

/-- What is behind a word. -/
def afterWord? : List Char → List Char → Option (List Char)
  | [], rest => some rest
  | w :: word, c :: rest => if w = c then afterWord? word rest else none
  | _ :: _, [] => none

mutual

/-- Read a value; `depth` bounds the number of steps. -/
def value? : Nat → List Char → Option (Json × List Char)
  | 0, _ => none
  | depth + 1, text =>
    match skipGap text with
    | 'n' :: rest => (afterWord? "ull".toList rest).map (null, ·)
    | 't' :: rest => (afterWord? "rue".toList rest).map (bool true, ·)
    | 'f' :: rest => (afterWord? "alse".toList rest).map (bool false, ·)
    | '"' :: rest => do
      let (codes, rest) ← codes? rest
      return (string ((textOfCodes? codes).map String.ofList), rest)
    | '[' :: rest =>
      match skipGap rest with
      | ']' :: rest => some (array [], rest)
      | rest => (items? depth rest).map fun (items, rest) => (array items, rest)
    | '{' :: rest =>
      match skipGap rest with
      | '}' :: rest => some (object [], rest)
      | rest => (members? depth rest).map fun (members, rest) => (object members, rest)
    | '-' :: rest => (number? rest).map (number, ·)
    | rest => (number? rest).map (number, ·)

/-- Read the items of an array up to its closing bracket. -/
def items? : Nat → List Char → Option (List Json × List Char)
  | 0, _ => none
  | depth + 1, text => do
    let (first, rest) ← value? depth text
    match skipGap rest with
    | ',' :: rest =>
      let (items, rest) ← items? depth rest
      return (first :: items, rest)
    | ']' :: rest => return ([first], rest)
    | _ => none

/-- Read the members of an object up to its closing brace. -/
def members? : Nat → List Char → Option (List (String × Json) × List Char)
  | 0, _ => none
  | depth + 1, text => do
    let '"' :: rest := skipGap text | none
    let (codes, rest) ← codes? rest
    let key ← textOfCodes? codes
    let ':' :: rest := skipGap rest | none
    let (first, rest) ← value? depth rest
    match skipGap rest with
    | ',' :: rest =>
      let (members, rest) ← members? depth rest
      return ((String.ofList key, first) :: members, rest)
    | '}' :: rest => return ([(String.ofList key, first)], rest)
    | _ => none

end

/-- The value that a text spells. -/
def ofText? (text : String) : Option Json := do
  let text := text.toList
  let (value, rest) ← value? (text.length + 1) text
  if (skipGap rest).isEmpty then some value else none

end Json

end VuePrecompiler.Settings
