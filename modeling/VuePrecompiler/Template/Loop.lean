import VuePrecompiler.Template.Syntax
import VuePrecompiler.Template.Error
import VuePrecompiler.Text.Cut

/-!
# Loop expressions

`alias in source` and `(value, key, index) of source`, where an alias is a
variable or a destructuring pattern.
-/

namespace VuePrecompiler.Template

open Source Text

/-- Cut a text at the commas outside of braces and brackets.  `depth` is the
number of brackets open at the start.

`depth` has no bounds here.  A 32-bit counter that wraps around, as in a release
build, gives the same cuts in every text below 4 GiB. -/
def splitPatterns (depth : Int) : List Char → List (List Char)
  | [] => [[]]
  | c :: rest =>
    if c = ',' && depth = 0 then [] :: splitPatterns depth rest
    else
      let depth :=
        if c = '{' || c = '[' then depth + 1
        else if c = '}' || c = ']' then depth - 1
        else depth
      match splitPatterns depth rest with
      | [] => [[c]]
      | first :: others => (c :: first) :: others

/-- The two sides of a loop expression, around the first ` in `, or else
the first ` of `. -/
def splitLoop? (text : List Char) : Option (List Char × List Char) :=
  (splitOnce? " in ".toList text).or (splitOnce? " of ".toList text)

/-- Read a loop expression. -/
def LoopHead.ofCode? (code : Code) : Option LoopHead := do
  let (aliases, source) ← splitLoop? (trim code.content.toList)
  let aliases := trim aliases
  let source := trim source
  let aliases := (insideBrackets? '(' ')' aliases).getD aliases
  let pattern (text : List Char) : Pattern := ⟨String.ofList (trim text), code.span⟩
  let build (value : List Char) (key index : Option (List Char)) : Option LoopHead :=
    if trim value = [] || source = [] then none
    else some {
      source := ⟨String.ofList source, code.span⟩
      value := pattern value
      key := key.map pattern
      index := index.map pattern }
  match splitPatterns 0 aliases with
  | [value] => build value none none
  | [value, key] => build value (some key) none
  | [value, key, index] => build value (some key) (some index)
  | _ => none

/-- Read the value of a `v-for` directive. -/
def LoopHead.ofDirective (directive : Directive) : Except CompileError LoopHead :=
  match directive.value with
  | none => .error (.invalidLoop "" directive.span)
  | some code =>
    match LoopHead.ofCode? code with
    | some head => .ok head
    | none => .error (.invalidLoop code.content code.span)

end VuePrecompiler.Template
