import VuePrecompiler.Es5.Lowering
import VuePrecompiler.Render.Code
import VuePrecompiler.Source.Lines

/-!
# The usual tools

Templates are compiled to render functions, and those are lowered to
ECMAScript 5.  What goes wrong is said in one line.
-/

namespace VuePrecompiler.Build

open Template Source

def compileErrorText (template : String) (error : CompileError) : String :=
  let (line, column) := ((LineIndex.ofText template).position error.span.start).display
  s!"{line}:{column}: {error.message} [{error.code}]"

/-- Compile a template to the body of a render function. -/
def compileTemplate (template : String) : Except String String :=
  (Render.compile template).mapError (compileErrorText template)

/-- Lower a script to ECMAScript 5. -/
def lowerScript (script : String) : Except String String :=
  (Es5.lowered script).mapError Es5.LoweringError.message

end VuePrecompiler.Build
