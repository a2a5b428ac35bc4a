/-!
# Lines and columns

`LineIndex.position` turns a byte position into a line and a column, both
counted from zero and the column in bytes.  A line ends with a line feed.
-/

namespace VuePrecompiler.Source

/-- A line and a byte column, both counted from zero. -/
structure Position where
  line : Nat
  column : Nat
deriving DecidableEq, Repr, Inhabited

/-- The line and the column as messages count them, from one. -/
def Position.display (position : Position) : Nat × Nat :=
  (position.line + 1, position.column + 1)

/-- The byte positions after the line feeds of a text that begins at `offset`. -/
def startsAfterFeeds (offset : Nat) : List Char → List Nat
  | [] => []
  | c :: rest =>
    let next := offset + c.utf8Size
    if c = '\n' then next :: startsAfterFeeds next rest else startsAfterFeeds next rest

/-- Where the lines of a text start, and where the text ends. -/
structure LineIndex where
  /-- The starts of the lines after the first, in increasing order. -/
  laterStarts : List Nat
  size : Nat

namespace LineIndex

def ofText (text : String) : LineIndex where
  laterStarts := startsAfterFeeds 0 text.toList
  size := text.utf8ByteSize

/-- The position of a byte offset; an offset past the end stands for the end. -/
def position (lines : LineIndex) (offset : Nat) : Position :=
  let offset := min offset lines.size
  let passed := lines.laterStarts.takeWhile (· ≤ offset)
  { line := passed.length, column := offset - passed.getLastD 0 }

end LineIndex

end VuePrecompiler.Source
