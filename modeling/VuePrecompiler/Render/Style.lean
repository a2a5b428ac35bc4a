import VuePrecompiler.Javascript.StringLiteral
import VuePrecompiler.Text.Blank

/-!
# Style attributes

The declarations of a style attribute as an object literal, in source order.
A semicolon inside of parentheses ends no declaration.
-/

namespace VuePrecompiler.Render

open Text Javascript

/-- Cut a text at the semicolons outside of parentheses.  `depth` is the number
of parentheses open at the start; surplus closing ones do not matter.

`depth` has no bounds here.  A 32-bit counter that wraps around, as in a release
build, gives the same cuts in every text below 4 GiB, save one with 2 Gi
parentheses of a kind that are not matched. -/
def splitDeclarations (depth : Int) : List Char → List (List Char)
  | [] => [[]]
  | c :: rest =>
    if c = ';' && depth ≤ 0 then [] :: splitDeclarations depth rest
    else
      let depth := if c = '(' then depth + 1 else if c = ')' then depth - 1 else depth
      match splitDeclarations depth rest with
      | [] => [[c]]
      | first :: others => (c :: first) :: others

/-- The property and the value of a declaration, if it has a property. -/
def declaration? (text : List Char) : Option (String × String) :=
  match splitOnce? [':'] text with
  | some (property, value) =>
    if trim property = [] then none
    else some (String.ofList (trim property), String.ofList (trim value))
  | none => none

def styleObject (text : String) : String :=
  let entries := (splitDeclarations 0 text.toList).filterMap declaration?
  "\x7b" ++ ",".intercalate (entries.map fun (property, value) =>
    literal property ++ ":" ++ literal value) ++ "\x7d"

end VuePrecompiler.Render
