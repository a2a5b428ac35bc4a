import VuePrecompiler.Text.Cursor
import VuePrecompiler.Text.IdentifierChars
import VuePrecompiler.Text.Number
import VuePrecompiler.Source.Span
import VuePrecompiler.Javascript.StringLiteral

/-!
# JavaScript tokens

`Lexeme.at` reads the next token behind blanks and comments.  A slash is read
as an operator, and a backquote as the start of a template; where the grammar
knows better, `regexp?` and `chunk?` read the text again from there.
-/

namespace VuePrecompiler.Javascript

open Text Source

inductive Token where
  /-- A name or a keyword, decoded; the flag tells whether it was
  spelled with escapes. -/
  | word (name : String) (escaped : Bool)
  | privateName (name : String)
  | punctuator (text : String)
  | number (raw : String)
  | bigint (raw : String)
  | string (raw : String)
  /-- The backquote before a template. -/
  | backquote
  | finish
  /-- No token begins here. -/
  | invalid
deriving DecidableEq, Repr, Inhabited

/-- A comment: the text without its delimiters, and the span with them. -/
structure Comment where
  text : String
  span : Span
  /-- Whether its delimiter is that of another markup language. -/
  isMarkup : Bool
deriving DecidableEq, Repr, Inhabited

/-- A token in its place. -/
structure Lexeme where
  token : Token
  span : Span
  /-- Whether a line ends between the previous token and this one. -/
  newlineBefore : Bool
  /-- The comments between the previous token and this one, the last of them first. -/
  comments : List Comment
  /-- The text from the token on. -/
  here : Cursor
  /-- The text behind the token. -/
  after : Cursor
deriving Repr, Inhabited

/-! ## Characters -/

/-- Whether a character is blank but ends no line. -/
def isSpace (c : Char) : Bool :=
  (isBlank c && !isLineTerminator c && c.toNat != 0x85) || c.toNat == 0xFEFF

/-- Whether a character begins a name. -/
def isNameStart (c : Char) : Bool :=
  c == '$' || c == '_' || isIdentifierStart c

/-- Whether a character continues a name. -/
def isNamePart (c : Char) : Bool :=
  c == '$' || c.toNat == 0x200C || c.toNat == 0x200D || isIdentifierPart c

/-! ## Blanks and comments -/

/-- What lies between two tokens. -/
structure Gap where
  newline : Bool
  /-- The comments, the last of them first. -/
  comments : List Comment
  after : Cursor
deriving Repr, Inhabited

/-- The text of a block comment behind its opening, if it is closed. -/
def blockComment? (cursor : Cursor) : Option (String × Cursor) :=
  let found := cursor.takeUntil ['*', '/']
  if found.2.rest.isEmpty then none
  else some (String.ofList found.1, found.2.skip 2)

/-- Pass a comment up to the end of the line.  `opening` is the number of
characters of its delimiter, and `unseen` the number of those that do not
count as part of the comment. -/
def lineComment (opening unseen : Nat) (cursor : Cursor) : Comment × Cursor :=
  let inside := cursor.skip opening
  let (text, rest) := inside.takeWhile fun c => !isLineTerminator c
  (⟨String.ofList text, ⟨(cursor.skip unseen).offset, rest.offset⟩, unseen != 0⟩, rest)

theorem length_blockComment {cursor rest : Cursor} {text : String}
    (found : blockComment? cursor = some (text, rest)) :
    rest.rest.length ≤ cursor.rest.length := by
  simp only [blockComment?] at found
  split at found
  · simp at found
  · simp only [Option.some.injEq, Prod.mk.injEq] at found
    rw [← found.2]
    exact Nat.le_trans (Cursor.length_skip _ _) (Cursor.length_takeUntil _ _)

theorem length_lineComment {opening unseen : Nat} {cursor : Cursor}
    (positive : 0 < opening) (more : cursor.rest ≠ []) :
    (lineComment opening unseen cursor).2.rest.length < cursor.rest.length :=
  Nat.lt_of_le_of_lt (Cursor.length_takeWhile _ _)
    (Cursor.length_skip_lt positive more)

/-- Pass blanks and comments, of which the last is at the head of the list.
There is none if a block comment is not closed.  Comments that begin with an
arrow are recognised at the start of a line only. -/
def gap? (newline : Bool) (comments : List Comment) (cursor : Cursor) : Option Gap :=
  match _rest : cursor.rest with
  | '/' :: '/' :: _ =>
    gap? newline ((lineComment 2 0 cursor).1 :: comments) (lineComment 2 0 cursor).2
  | '/' :: '*' :: _ =>
    match _found : blockComment? (cursor.skip 2) with
    | none => none
    | some (text, after) =>
      gap? (newline || text.toList.any isLineTerminator)
        (⟨text, ⟨cursor.offset, after.offset⟩, false⟩ :: comments) after
  | '<' :: '!' :: '-' :: '-' :: _ =>
    gap? newline ((lineComment 4 1 cursor).1 :: comments) (lineComment 4 1 cursor).2
  | '-' :: '-' :: '>' :: _ =>
    if newline then
      gap? newline ((lineComment 3 3 cursor).1 :: comments) (lineComment 3 3 cursor).2
    else some ⟨newline, comments, cursor⟩
  | c :: _ =>
    if isSpace c then gap? newline comments cursor.bump
    else if isLineTerminator c then gap? true comments cursor.bump
    else some ⟨newline, comments, cursor⟩
  | [] => some ⟨newline, comments, cursor⟩
termination_by cursor.rest.length
decreasing_by
  all_goals have more : cursor.rest ≠ [] := by simp [_rest]
  · exact length_lineComment (by decide) more
  · exact Nat.lt_of_le_of_lt (length_blockComment _found)
      (Cursor.length_skip_lt (by decide) more)
  · exact length_lineComment (by decide) more
  · exact length_lineComment (by decide) more
  · exact Cursor.length_bump_lt more
  · exact Cursor.length_bump_lt more

/-! ## Names -/

/-- The character of an escape in a name, behind its backslash. -/
def nameEscape? : List Char → Option (Char × Nat)
  | 'u' :: '{' :: rest =>
    let digits := rest.takeWhile (· != '}')
    if (rest.drop digits.length).isEmpty then none
    else ((number? 16 digits).bind charOfCode?).map fun c => (c, digits.length + 3)
  | 'u' :: rest =>
    if rest.length < 4 then none
    else ((number? 16 (rest.take 4)).bind charOfCode?).map fun c => (c, 5)
  | _ => none

/-- The characters of a name, how many characters spell them, and whether there
is an escape among them.  There is none if an escape is wrong.  `skipped`
counts characters that belong to an escape. -/
def nameFrom? (first : Bool) : Nat → List Char → Option (List Char × Nat × Bool)
  | skipped + 1, _ :: rest =>
    (nameFrom? first skipped rest).map fun (name, count, escaped) =>
    (name, count + 1, escaped)
  | _, [] => some ([], 0, false)
  | 0, '\\' :: rest =>
    match nameEscape? rest with
    | none => none
    | some (c, length) =>
      if if first then isNameStart c else isNamePart c then
        (nameFrom? false length rest).map fun (name, count, _) =>
          (c :: name, count + 1, true)
      else none
  | 0, c :: rest =>
    if if first then isNameStart c else isNamePart c then
      (nameFrom? false 0 rest).map fun (name, count, escaped) =>
        (c :: name, count + 1, escaped)
    else some ([], 0, false)

/-! ## Numbers -/

/-- The number of characters of digits with underscores among them, each of
which has a digit behind it.  There is none if an underscore has not. -/
def digitsLength? (base : Nat) (text : List Char) : Option Nat :=
  let taken := text.takeWhile fun c => (digitValue? base c).isSome || c == '_'
  if (splitOnChar '_' taken).tail.all (fun part => !part.isEmpty) then
    some taken.length else none

/-- The number of characters of an exponent, none if it has no digits. -/
def exponentLength? : List Char → Option Nat
  | c :: rest =>
    if c == 'e' || c == 'E' then
      let sign :=
        match rest with
        | '+' :: _ => 1
        | '-' :: _ => 1
        | _ => 0
      match digitsLength? 10 (rest.drop sign) with
      | some (count + 1) => some (count + 2 + sign)
      | _ => none
    else some 0
  | [] => some 0

/-- The number of characters of a fraction and an exponent. -/
def fractionLength? (text : List Char) : Option Nat :=
  match text with
  | '.' :: rest => do
    let digits ← digitsLength? 10 rest
    let exponent ← exponentLength? (rest.drop digits)
    return digits + exponent + 1
  | _ => exponentLength? text

/-- The number of characters of a number, and whether it is a big integer. -/
def numberLength? (text : List Char) : Option (Nat × Bool) := do
  let isBig (length : Nat) : Bool := (text.drop length).head? == some 'n'
  let based (base : Nat) : Option (Nat × Bool) := do
    let digits ← digitsLength? base (text.drop 2)
    if digits == 0 then none
    else if isBig (digits + 2) then return (digits + 3, true)
    else return (digits + 2, false)
  match text with
  | '0' :: 'x' :: _ => based 16
  | '0' :: 'X' :: _ => based 16
  | '0' :: 'o' :: _ => based 8
  | '0' :: 'O' :: _ => based 8
  | '0' :: 'b' :: _ => based 2
  | '0' :: 'B' :: _ => based 2
  | '0' :: '_' :: _ => none
  | '0' :: c :: _ =>
    if c.isDigit then
      let digits := (text.takeWhile Char.isDigit).length
      if (text.drop digits).head? == some '_' then none
      else if (text.take digits).all fun c => (digitValue? 8 c).isSome then
        return (digits, false)
      else return (digits + (← fractionLength? (text.drop digits)), false)
    else if c == 'n' then return (2, true)
    else return (1 + (← fractionLength? (text.drop 1)), false)
  | _ =>
    let digits ← digitsLength? 10 text
    if isBig digits && digits != 0 then return (digits + 1, true)
    else return (digits + (← fractionLength? (text.drop digits)), false)

/-! ## Strings, regular expressions and templates -/

/-- The number of characters of the rest of an escape, behind its backslash.
There is none if it is wrong. -/
def escapeLength? : List Char → Option Nat
  | [] => none
  | 'x' :: rest =>
    if 2 ≤ rest.length && (rest.take 2).all (fun c => (digitValue? 16 c).isSome) then
      some 3
    else none
  | 'u' :: '{' :: rest =>
    let digits := rest.takeWhile (· != '}')
    if (rest.drop digits.length).isEmpty then none
    else
      match number? 16 digits with
      | some code => if code < 0x110000 then some (digits.length + 3) else none
      | none => none
  | 'u' :: rest =>
    if 4 ≤ rest.length && (rest.take 4).all (fun c => (digitValue? 16 c).isSome) then
      some 5
    else none
  | '\r' :: '\n' :: _ => some 2
  | _ => some 1

/-- The number of characters of a string up to and with the closing quote.
`skipped` counts characters that belong to an escape. -/
def stringLength? (quote : Char) : Nat → List Char → Option Nat
  | _, [] => none
  | skipped + 1, _ :: rest => (stringLength? quote skipped rest).map (· + 1)
  | 0, c :: rest =>
    if c == quote then some 1
    else if c == '\n' || c == '\r' then none
    else if c == '\\' then do
      let length ← escapeLength? rest
      return (← stringLength? quote length rest) + 1
    else (stringLength? quote 0 rest).map (· + 1)

/-- The number of characters of the body of a regular expression, without its
closing slash. -/
def regexpLength? (inClass escaped : Bool) : List Char → Option Nat
  | [] => none
  | c :: rest =>
    if isLineTerminator c then none
    else if escaped then (regexpLength? inClass false rest).map (· + 1)
    else if c == '\\' then (regexpLength? inClass true rest).map (· + 1)
    else if c == '/' && !inClass then some 0
    else
      (regexpLength? (if c == '[' then true else if c == ']' then false else inClass)
        false rest).map (· + 1)

/-- The number of characters of a chunk of a template, and whether an
expression follows it rather than the end of the template. -/
def chunkLength? (escaped : Bool) : List Char → Option (Nat × Bool)
  | [] => none
  | c :: rest =>
    if escaped then (chunkLength? false rest).map fun (count, more) =>
      (count + 1, more)
    else if c == '`' then some (0, false)
    else if c == '$' && rest.head? == some '\x7b' then some (0, true)
    else (chunkLength? (c == '\\') rest).map fun (count, more) => (count + 1, more)

/-- Take a number of characters. -/
def takeChars (count : Nat) (cursor : Cursor) : String × Cursor :=
  (String.ofList (cursor.rest.take count), cursor.skip count)

/-- The body and the flags of the regular expression whose opening slash is next. -/
def regexp? (cursor : Cursor) : Option (String × String × Cursor) := do
  let inside := cursor.bump
  let (body, rest) := takeChars (← regexpLength? false false inside.rest) inside
  let (flags, rest) := rest.bump.takeWhile isNamePart
  if rest.rest.head? == some '\\' then none
  return (body, String.ofList flags, rest)

/-- The chunk of a template that follows, and whether an expression follows it. -/
def chunk? (cursor : Cursor) : Option (String × Bool × Cursor) := do
  let (count, more) ← chunkLength? false cursor.rest
  let (chunk, rest) := takeChars count cursor
  return (chunk, more, rest.skip (if more then 2 else 1))

/-! ## Tokens -/

/-- The punctuators, the longer before the shorter. -/
def punctuators : List String :=
  [">>>=", "...", "===", "!==", "**=", "<<=", ">>=", ">>>", "&&=", "||=", "??=", "=>",
    "==", "!=", "<=", ">=", "&&", "||", "??", "?.", "++", "--", "+=", "-=", "*=", "/=",
    "%=", "&=", "|=", "^=", "<<", ">>", "**", "\x7b", "\x7d", "(", ")", "[", "]", ";",
    ",", "<", ">", "+", "-", "*", "/",
    "%", "&", "|", "^", "!", "~", "?", ":", "=", ".", "@"]

/-- The punctuator that a text begins with.  A question mark and a dot before a
digit are two. -/
def punctuator? (text : List Char) : Option String :=
  (punctuators.find? fun punctuator =>
    punctuator.toList.isPrefixOf text).map fun found =>
      if found == "?." && ((text.drop 2).head?.any Char.isDigit) then "?" else found

/-- The token that a text begins with, and the text behind it. -/
def tokenAt (cursor : Cursor) : Token × Cursor :=
  let invalid : Token × Cursor := (.invalid, cursor.bump)
  let number : Token × Cursor :=
    match numberLength? cursor.rest with
    | none => invalid
    | some (count, isBig) =>
      let (raw, rest) := takeChars count cursor
      if rest.rest.head?.any fun c => isNameStart c || c.isDigit || c ==
        '\\' then invalid
      else (if isBig then .bigint raw else .number raw, rest)
  match cursor.rest with
  | [] => (.finish, cursor)
  | '`' :: _ => (.backquote, cursor.bump)
  | '#' :: rest =>
    match nameFrom? true 0 rest with
    | some (c :: name, count, _) =>
      (.privateName (String.ofList (c :: name)), cursor.skip (count + 1))
    | _ => invalid
  | c :: rest =>
    if c == '"' || c == '\'' then
      match stringLength? c 0 rest with
      | none => invalid
      | some count =>
        let (raw, rest) := takeChars (count + 1) cursor
        (.string raw, rest)
    else if c.isDigit || (c == '.' && rest.head?.any Char.isDigit) then number
    else if c == '\\' || isNameStart c then
      match nameFrom? true 0 cursor.rest with
      | some (c :: name, count, escaped) =>
        (.word (String.ofList (c :: name)) escaped, cursor.skip count)
      | _ => invalid
    else
      match punctuator? cursor.rest with
      | some found => (.punctuator found, cursor.skip found.length)
      | none => invalid

/-- The first token of a text. -/
def Lexeme.at (startOfLine : Bool) (cursor : Cursor) : Lexeme :=
  match gap? startOfLine [] cursor with
  | none => ⟨.invalid, .empty cursor.offset, false, [], cursor, cursor⟩
  | some gap =>
    let (token, after) := tokenAt gap.after
    ⟨token, ⟨gap.after.offset, after.offset⟩, gap.newline, gap.comments,
      gap.after, after⟩

end VuePrecompiler.Javascript
