import VuePrecompiler.Source.Span
import VuePrecompiler.Text.Cursor

/-!
# Template tokens

`Token.ofText` cuts a template into tokens: start tags, end tags, comments,
declarations, interpolations and texts.  Every text has tokens; what opens
nothing is text.  The tokens follow each other without gaps.
-/

namespace VuePrecompiler.Template

open Source Text

/-- An attribute as a start tag spells it. -/
structure SourceAttribute where
  name : List Char
  /-- The text of the value and its span, without quotes. -/
  value : Option (String × Span)
  span : Span
deriving Repr, Inhabited

inductive Token where
  | startTag (name : String) (attributes : List SourceAttribute) (selfClosing : Bool)
  /-- The `<` of a start tag without a name, and what stands in the
  place of the name. -/
  | nameless (found : String)
  | endTag (name : String)
  | comment (content : String)
  /-- `<!...>`, for instance a document type. -/
  | declaration
  /-- An interpolation, with the text and the span between the braces. -/
  | interpolation (content : String) (inner : Span)
  | text (content : String)
deriving Repr, Inhabited

namespace Token

/-- The characters of tags. -/
def isTagChar (c : Char) : Bool :=
  c.isAlphanum || c == '-' || c == '_' || c == ':'

/-- The characters of attribute names. -/
def isAttributeChar (c : Char) : Bool :=
  c.isAlphanum || ['-', '_', ':', '.', '@', '#', '[', ']', '$'].contains c

/-- Pass everything up to and including the next `>`. -/
def skipTag (cursor : Cursor) : Cursor :=
  (cursor.takeUntil ['>']).2.eat ['>']

def dropSlashes (value : List Char) : List Char :=
  (value.reverse.dropWhile (· == '/')).reverse

/-- A value between two quotes, the first of which is at the cursor; the
second may be missing. -/
def quotedValue (quote : Char) (cursor : Cursor) : (String × Span) × Cursor :=
  let inner := cursor.bump
  let taken := inner.takeWhile (· != quote)
  ((String.ofList taken.1, ⟨inner.offset, taken.2.offset⟩), taken.2.bump)

/-- A value without quotes.  Slashes at its end are left for the end of the tag. -/
def bareValue (cursor : Cursor) : (String × Span) × Cursor :=
  let value := dropSlashes (cursor.takeWhile fun c => !isBlank c && c != '>').1
  let after := cursor.skip value.length
  ((String.ofList value, ⟨cursor.offset, after.offset⟩), after)

/-- The value of an attribute, in quotes or bare. -/
def attributeValue (cursor : Cursor) : (String × Span) × Cursor :=
  match cursor.rest with
  | '"' :: _ => quotedValue '"' cursor
  | '\'' :: _ => quotedValue '\'' cursor
  | _ => bareValue cursor

/-- The value that follows the name of an attribute, if an equals sign does. -/
def valueAfterName (cursor : Cursor) : Option (String × Span) × Cursor :=
  if cursor.skipBlanks.sees ['='] then
    let value := attributeValue cursor.skipBlanks.bump.skipBlanks
    (some value.1, value.2)
  else (none, cursor.skipBlanks)

theorem length_skipTag (cursor : Cursor) :
    (skipTag cursor).rest.length ≤ cursor.rest.length :=
  Nat.le_trans (Cursor.length_eat _ _) (Cursor.length_takeUntil _ _)

theorem length_quotedValue (quote : Char) (cursor : Cursor) :
    (quotedValue quote cursor).2.rest.length ≤ cursor.rest.length :=
  Nat.le_trans (Cursor.length_bump _)
    (Nat.le_trans (Cursor.length_takeWhile _ _) (Cursor.length_bump _))

theorem length_attributeValue (cursor : Cursor) :
    (attributeValue cursor).2.rest.length ≤ cursor.rest.length := by
  unfold attributeValue
  split
  · exact length_quotedValue _ _
  · exact length_quotedValue _ _
  · exact Cursor.length_skip _ _

theorem length_valueAfterName (cursor : Cursor) :
    (valueAfterName cursor).2.rest.length ≤ cursor.rest.length := by
  unfold valueAfterName
  split
  · exact Nat.le_trans (length_attributeValue _)
      (Nat.le_trans (Cursor.length_skipBlanks _)
        (Nat.le_trans (Cursor.length_bump _) (Cursor.length_skipBlanks _)))
  · exact Cursor.length_skipBlanks _

/-- Whether a start tag has no further attributes. -/
def endsAttributes (cursor : Cursor) : Bool :=
  cursor.rest.isEmpty || cursor.sees ['>'] || cursor.sees ['/', '>']

/-- The attributes up to `>`, `/>` or the end.  A character that starts no
name is passed over. -/
def attributes (cursor : Cursor) : List SourceAttribute × Cursor :=
  let here := cursor.skipBlanks
  if endsAttributes here then ([], here)
  else
    let name := here.takeWhile isAttributeChar
    if name.1 = [] then attributes here.bump
    else
      let value := valueAfterName name.2
      let others := attributes value.2
      (⟨name.1, value.1, ⟨here.offset, value.2.offset⟩⟩ :: others.1, others.2)
termination_by cursor.rest.length
decreasing_by
  · next more _ =>
    refine Nat.lt_of_lt_of_le (Cursor.length_bump_lt ?_)
      (Cursor.length_skipBlanks cursor)
    intro none_left
    exact more (by simp only [endsAttributes, here, none_left, List.isEmpty_nil,
      Bool.true_or])
  · next named =>
    exact Nat.lt_of_le_of_lt (length_valueAfterName _)
      (Nat.lt_of_lt_of_le (Cursor.length_takeWhile_lt named)
        (Cursor.length_skipBlanks cursor))

theorem length_attributes (cursor : Cursor) :
    (attributes cursor).2.rest.length ≤ cursor.rest.length := by
  fun_induction attributes cursor with
  | case1 => exact Cursor.length_skipBlanks _
  | case2 cursor here _ name _ ih =>
    exact Nat.le_trans ih (Nat.le_trans (Cursor.length_bump _)
      (Cursor.length_skipBlanks _))
  | case3 cursor here _ name _ value others ih =>
    exact Nat.le_trans ih (Nat.le_trans (length_valueAfterName _)
      (Nat.le_trans (Cursor.length_takeWhile _ _) (Cursor.length_skipBlanks _)))

/-- A start tag; the cursor stands after the `<`. -/
def startTagAt (cursor : Cursor) : Token × Cursor :=
  let name := cursor.takeWhile isTagChar
  let attributes := attributes name.2
  if attributes.2.sees ['/', '>'] then
    (.startTag (String.ofList name.1) attributes.1 true, attributes.2.skip 2)
  else (.startTag (String.ofList name.1) attributes.1 false, attributes.2.eat ['>'])

theorem length_startTagAt (cursor : Cursor) :
    (startTagAt cursor).2.rest.length ≤ cursor.rest.length := by
  have read :
      (attributes (cursor.takeWhile isTagChar).2).2.rest.length ≤ cursor.rest.length :=
    Nat.le_trans (length_attributes _) (Cursor.length_takeWhile _ _)
  unfold startTagAt
  dsimp only
  split
  · exact Nat.le_trans (Cursor.length_skip _ _) read
  · exact Nat.le_trans (Cursor.length_eat _ _) read

/-- A start tag, whose name is checked before its attributes are read; the cursor
stands after the `<`. -/
def tagAt (cursor : Cursor) : Token × Cursor :=
  if (cursor.takeWhile isTagChar).1 = [] then
    (.nameless (cursor.rest.head?.elim "EOF" String.singleton), cursor)
  else startTagAt cursor

theorem length_tagAt (cursor : Cursor) :
    (tagAt cursor).2.rest.length ≤ cursor.rest.length := by
  unfold tagAt
  split
  · exact Nat.le_refl _
  · exact length_startTagAt cursor

/-- Cut a text before the next `<` or interpolation. -/
def textPart : List Char → List Char × List Char
  | [] => ([], [])
  | c :: rest =>
    if c = '<' || ['{', '{'].isPrefixOf (c :: rest) then ([], c :: rest)
    else (c :: (textPart rest).1, (textPart rest).2)

theorem length_textPart (text : List Char) :
    (textPart text).2.length ≤ text.length := by
  induction text with
  | nil => simp [textPart]
  | cons c rest ih =>
    unfold textPart
    split
    · simp
    · simp only [List.length_cons]; omega

/-- Text: one character of any kind, and all up to the next `<` or interpolation. -/
def textAt (cursor : Cursor) : Token × Cursor :=
  let later := textPart cursor.bump.rest
  (.text (String.ofList (cursor.rest.take 1 ++ later.1)),
    ⟨cursor.bump.offset + byteLength later.1, later.2⟩)

/-- A comment; an unclosed one runs to the end. -/
def commentAt (cursor : Cursor) : Token × Cursor :=
  let content := (cursor.skip 4).takeUntil ['-', '-', '>']
  (.comment (String.ofList content.1), content.2.eat ['-', '-', '>'])

/-- An interpolation; an unclosed one runs to the end. -/
def interpolationAt (cursor : Cursor) : Token × Cursor :=
  let inner := cursor.skip 2
  let content := inner.takeUntil ['}', '}']
  (.interpolation (String.ofList content.1) ⟨inner.offset, content.2.offset⟩,
    content.2.eat ['}', '}'])

/-- An end tag: its name ends at a blank or a `>`, and what follows the
name is passed over. -/
def endTagAt (cursor : Cursor) : Token × Cursor :=
  let name := ((cursor.skip 2).takeWhile fun c => !isBlank c && c != '>').1
  (.endTag (String.ofList name), skipTag (cursor.skip 2))

/-- The token at the cursor, and the cursor after it. -/
def next (cursor : Cursor) : Token × Cursor :=
  match cursor.rest with
  | '<' :: '/' :: _ => endTagAt cursor
  | '<' :: '!' :: '-' :: '-' :: _ => commentAt cursor
  | '<' :: '!' :: _ => (.declaration, skipTag (cursor.skip 2))
  | '<' :: c :: _ => if c.isAlpha then tagAt cursor.bump else textAt cursor
  | '{' :: '{' :: _ => interpolationAt cursor
  | _ => textAt cursor

theorem length_skip_lt {count : Nat} {cursor : Cursor} (more : cursor.rest ≠ []) :
    (cursor.skip (count + 1)).rest.length < cursor.rest.length :=
  Nat.lt_of_le_of_lt (Cursor.length_skip count cursor.bump)
    (Cursor.length_bump_lt more)

/-- Every token takes at least one character. -/
theorem length_next {cursor : Cursor} (more : cursor.rest ≠ []) :
    (next cursor).2.rest.length < cursor.rest.length := by
  have text : (textAt cursor).2.rest.length < cursor.rest.length :=
    Nat.lt_of_le_of_lt (length_textPart _) (Cursor.length_bump_lt more)
  unfold next
  split
  · exact Nat.lt_of_le_of_lt (length_skipTag _) (length_skip_lt more)
  · exact Nat.lt_of_le_of_lt (Cursor.length_eat _ _)
      (Nat.lt_of_le_of_lt (Cursor.length_takeUntil _ _) (length_skip_lt more))
  · exact Nat.lt_of_le_of_lt (length_skipTag _) (length_skip_lt more)
  · split
    · exact Nat.lt_of_le_of_lt (length_tagAt _) (Cursor.length_bump_lt more)
    · exact text
  · exact Nat.lt_of_le_of_lt (Cursor.length_eat _ _)
      (Nat.lt_of_le_of_lt (Cursor.length_takeUntil _ _) (length_skip_lt more))
  · exact text

end Token

/-- A token and the bytes it takes. -/
structure Lexeme where
  token : Token
  span : Span
deriving Repr, Inhabited

/-- The tokens from a cursor on, with their spans. -/
def lexemes (cursor : Cursor) : List Lexeme :=
  if _ended : cursor.rest = [] then []
  else
    let next := Token.next cursor
    ⟨next.1, ⟨cursor.offset, next.2.offset⟩⟩ :: lexemes next.2
termination_by cursor.rest.length
decreasing_by exact Token.length_next _ended

end VuePrecompiler.Template
