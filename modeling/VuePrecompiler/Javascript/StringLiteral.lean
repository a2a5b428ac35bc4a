import VuePrecompiler.Text.Number

/-!
# JavaScript string literals

`StringLiteral.ofSource?` reads a literal, `quote` writes one with a chosen
quote, and `jsonQuoted` writes one in double quotes that is JSON as well.
-/

namespace VuePrecompiler.Javascript

open Text

/-- A string literal: its value, and the quote it is written with. -/
structure StringLiteral where
  value : String
  quote : Char
deriving DecidableEq, Repr, Inhabited

/-- Whether a character ends a line in JavaScript. -/
def isLineTerminator (c : Char) : Bool :=
  c == '\n' || c == '\r' || c == '\u2028' || c == '\u2029'

/-- The characters that stand for a code point written in base sixteen.  Where
the digits denote no character, the letter of the escape and the digits stand
for themselves. -/
def ofHexEscape (letter : Char) (digits : List Char) : List Char :=
  match (word32? 16 digits).bind charOfCode? with
  | some c => [c]
  | none => letter :: digits

/-- The character that a letter behind a backslash stands for. -/
def singleEscape? : Char → Option Char
  | 'n' => some '\n'
  | 'r' => some '\r'
  | 't' => some '\t'
  | 'b' => some '\x08'
  | 'f' => some '\x0c'
  | 'v' => some '\x0b'
  | _ => none

/-- The value of the text between the quotes of a literal. -/
def unescape : List Char → List Char
  | [] => []
  | '\\' :: rest =>
    match rest with
    | [] => []
    | 'x' :: more => ofHexEscape 'x' (more.take 2) ++ unescape (more.drop 2)
    | 'u' :: '{' :: more =>
      ofHexEscape 'u' (more.takeWhile (· != '}')) ++
        unescape ((more.dropWhile (· != '}')).drop 1)
    | 'u' :: more => ofHexEscape 'u' (more.take 4) ++ unescape (more.drop 4)
    | '\r' :: '\n' :: more => unescape more
    | '0' :: more =>
      (if more.head?.any Char.isDigit then '0' else '\x00') :: unescape more
    | c :: more =>
      if isLineTerminator c then unescape more
      else (singleEscape? c).getD c :: unescape more
  | c :: rest => c :: unescape rest
termination_by text => text.length
decreasing_by
  all_goals simp only [List.length_cons, List.length_drop]
  all_goals try omega
  have := (List.dropWhile_sublist (· != '}') (l := more)).length_le
  omega

/-- Read a literal with its quotes. -/
def StringLiteral.ofSource? (source : String) : Option StringLiteral :=
  match source.toList with
  | [] => none
  | quote :: rest =>
    if (quote = '\'' || quote = '"') && rest.getLast? = some quote then
      some ⟨String.ofList (unescape rest.dropLast), quote⟩
    else none

/-- Whether a character has the general category `Cc`. -/
def isControl (c : Char) : Bool :=
  c.toNat < 0x20 || (0x7F ≤ c.toNat && c.toNat < 0xA0)

/-- How a character is written between two quotes. -/
def quotedChar (quote c : Char) : List Char :=
  match c with
  | '\\' => ['\\', '\\']
  | '\n' => ['\\', 'n']
  | '\r' => ['\\', 'r']
  | '\t' => ['\\', 't']
  | '\x08' => ['\\', 'b']
  | '\x0c' => ['\\', 'f']
  | '\x0b' => ['\\', 'v']
  | '\u2028' => "\\u2028".toList
  | '\u2029' => "\\u2029".toList
  | _ =>
    if c = quote then ['\\', c]
    else if isControl c then '\\' :: 'x' :: hexDigits 2 c.toNat
    else [c]

/-- Write a text as a literal with a chosen quote. -/
def quote (value : String) (quote : Char) : String :=
  String.ofList (quote :: value.toList.flatMap (quotedChar quote) ++ [quote])

/-- How a character is written in a JSON text that is JavaScript too. -/
def jsonChar (c : Char) : List Char :=
  match c with
  | '"' => ['\\', '"']
  | '\\' => ['\\', '\\']
  | '\x08' => ['\\', 'b']
  | '\x0c' => ['\\', 'f']
  | '\n' => ['\\', 'n']
  | '\r' => ['\\', 'r']
  | '\t' => ['\\', 't']
  | _ => if c.toNat < 0x20 then '\\' :: 'u' :: hexDigits 4 c.toNat else [c]

/-- How a character is written in the literals of generated code: as in JSON,
but the two line terminators that JSON admits are escaped as well. -/
def literalChar (c : Char) : List Char :=
  match c with
  | '\u2028' => "\\u2028".toList
  | '\u2029' => "\\u2029".toList
  | _ => jsonChar c

def jsonQuoted (value : String) : String :=
  String.ofList ('"' :: value.toList.flatMap jsonChar ++ ['"'])

/-- A text as a string literal of generated code. -/
def literal (value : String) : String :=
  String.ofList ('"' :: value.toList.flatMap literalChar ++ ['"'])

end VuePrecompiler.Javascript
