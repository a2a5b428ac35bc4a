import VuePrecompiler.Text.Cut
import VuePrecompiler.Text.Blank

/-!
# Assignments

Code that stores a value in the place a binding names.  The last access of a
path goes through `$set`, so that the store is noticed.
-/

namespace VuePrecompiler.Render

open Text

/-- Find the bracket that the last bracket of a text closes.  The text is
given backwards; `quote` is the quote of the literal the position lies in, and
`depth` the number of brackets still to be opened.  The answer is the text
inside the brackets and the text before them, both forwards.

`depth` has no bounds here.  A 32-bit counter that wraps around, as in a release
build, gives the same answer on every text below 4 GiB. -/
def openingBracket? (quote : Option Char) (depth : Int) (inside : List Char) :
    List Char → Option (List Char × List Char)
  | [] => none
  | c :: before =>
    match quote with
    | some q =>
      if c = q && before.head? ≠ some '\\' then
        openingBracket? none depth (c :: inside) before
      else openingBracket? quote depth (c :: inside) before
    | none =>
      if c = '\'' || c = '"' || c = '\x60' then
        openingBracket? (some c) depth (c :: inside) before
      else if c = ']' then openingBracket? none (depth + 1) (c :: inside) before
      else if c = '[' then
        if depth = 1 then some (inside.dropLast, before.reverse)
        else openingBracket? none (depth - 1) (c :: inside) before
      else openingBracket? none depth (c :: inside) before

/-- Split a path into an object and the key of its last access, if it has one. -/
def splitAccess (path : String) : String × Option String :=
  let path := trim path.toList
  if path.contains '[' && path.getLast? = some ']' then
    match openingBracket? none 0 [] path.reverse with
    | some (key, object) => (String.ofList object, some (String.ofList key))
    | none => (String.ofList path, none)
  else
    match splitLast? '.' path with
    | some (object, key) =>
      (String.ofList object, some ("\"" ++ String.ofList key ++ "\""))
    | none => (String.ofList path, none)

def assignment (path value : String) : String :=
  match splitAccess path with
  | (object, none) => object ++ "=" ++ value
  | (object, some key) => "$set(" ++ object ++ ", " ++ key ++ ", " ++ value ++ ")"

end VuePrecompiler.Render
