import VuePrecompiler.Javascript.Grammar.Program
import VuePrecompiler.Javascript.Validity

/-!
# Programs

A program is a tree without faults, together with the comments of its text.
-/

namespace VuePrecompiler.Javascript

open Source

/-- A program and its comments. -/
structure Program where
  tree : Tree
  /-- The comments, in order. -/
  comments : List Comment

/-- What is said of a text that is no program. -/
def invalidText : String := "unexpected input"

namespace Program

def isModule (program : Program) : Bool := program.tree.kind == .program true

/-- Read a script, or a module where one may stand; otherwise say where the
text is wrong. -/
def ofText (canBeModule : Bool) (text : String) : Except Span Program := do
  let (tree, comments) ← Grammar.programOf canBeModule text
  match tree.fault? with
  | some span => throw span
  | none => pure ()
  let program : Program := ⟨tree, comments⟩
  match comments.find? Comment.isMarkup with
  | some comment => if program.isModule then throw comment.span else return program
  | none => return program

end Program

end VuePrecompiler.Javascript
