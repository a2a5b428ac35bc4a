import VuePrecompiler.Text.Blank

/-!
# The marker

A comment marks the template binding behind it if one of its lines consists of
the marker word alone.  The line may begin with an asterisk, as lines of
documentation comments do.
-/

namespace VuePrecompiler.Binding

open Text

/-- The word that marks a binding, in small letters. -/
def marker : List Char := "@coolievue".toList

def isMarkerLine (line : List Char) : Bool :=
  let line := trim line
  let line :=
    match line with
    | '*' :: rest => trimStart rest
    | _ => line
  line.map Char.toLower == marker

/-- Whether some line of a comment consists of the marker. -/
def isMarker (comment : String) : Bool :=
  (splitOnChar '\n' comment.toList).any isMarkerLine

end VuePrecompiler.Binding
