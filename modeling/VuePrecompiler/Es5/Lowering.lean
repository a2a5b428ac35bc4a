import VuePrecompiler.Es5.BlockNames
import VuePrecompiler.Es5.Blocks
import VuePrecompiler.Es5.Brackets
import VuePrecompiler.Es5.Classes
import VuePrecompiler.Es5.Destructuring
import VuePrecompiler.Es5.Functions
import VuePrecompiler.Es5.Generators
import VuePrecompiler.Es5.Helpers
import VuePrecompiler.Es5.Iteration
import VuePrecompiler.Es5.Keys
import VuePrecompiler.Es5.Literals
import VuePrecompiler.Es5.Loops
import VuePrecompiler.Es5.NewTarget
import VuePrecompiler.Es5.ObjectMethods
import VuePrecompiler.Es5.Properties
import VuePrecompiler.Es5.Renaming
import VuePrecompiler.Es5.Scope
import VuePrecompiler.Es5.Sequences
import VuePrecompiler.Es5.Spread
import VuePrecompiler.Es5.TypeTests
import VuePrecompiler.Javascript.Program

/-!
# Lowering a render function

`lowered` reads a script that declares a function `render`, writes it in
ECMAScript 5 and moves all other statements into the function.
-/

namespace VuePrecompiler.Es5

open Javascript

/-- Why a render function cannot be lowered. -/
inductive LoweringError where
  /-- The script is not valid. -/
  | invalid
  /-- The script declares no function `render`. -/
  | noRender
deriving DecidableEq, Repr, Inhabited

def LoweringError.message : LoweringError → String
  | invalid => "generated render function is invalid: " ++ invalidText
  | noRender => "transpiled code lost the render function"

/-- A program without what is newer than ECMAScript 5. -/
def lowerProgram (program : Tree) : Pass Tree := do
  let program ← bound [] program
  let program ← lowerLiterals (withoutBlockFunctions program)
  let program ← lowerClasses false none program
  let program ← withoutTarget .method program
  let program ← withoutSpread program
  let program ← lowerObjectMethods program
  let program ← lowerProperties program
  let program ← lowerIteration program
  let program ← lowerParameters program
  let program ← lowerFunctions program
  let program ← lowerTypeTests program
  let program ← lowerKeys program
  let program ← lowerPatterns program
  let program ← withFunctionVariables (nameBlockVariables program)
  lowerGenerators program

/-- The statements of a program, those that load helpers first, with names that
tell variables apart. -/
def loweredStatements (program : Tree) : List Tree :=
  let lowering : Pass (List Tree) := do
    let program ← lowerProgram program
    let statements ← withHelperFunctions program.children
    return prepend (← loadedHelpers) statements
  let (statements, _) := Id.run (lowering.run ⟨1, []⟩)
  (withFlatSequences (unwrapped (renamed (node (.program false) statements)))).children

/-- Whether a statement declares the function `render`. -/
def isRender : Tree → Bool
  | .node (.functionDeclaration _) _ (.node (.identifier name _) _ _ :: _) =>
    name == "render"
  | _ => false

/-- The last function `render` among statements, and the statements besides it. -/
def splitRender? : List Tree → Option (Tree × List Tree)
  | [] => none
  | first :: rest =>
    match splitRender? rest with
    | some (render, others) => some (render, first :: others)
    | none => if isRender first then some (first, rest) else none

/-- A function whose body begins with statements. -/
def withStatements (statements : List Tree) : Tree → Tree
  | .node kind span [name, parameters, .node .body bodySpan body] =>
    .node kind span [name, parameters, .node .body bodySpan (statements ++ body)]
  | tree => tree

/-- A script in ECMAScript 5 that consists of the function `render`. -/
def lowered (script : String) : Except LoweringError String :=
  match Program.ofText false script with
  | .error _ => .error .invalid
  | .ok program =>
    match splitRender? (loweredStatements program.tree) with
    | some (render, others) => .ok (withStatements others render).text
    | none => .error .noRender

end VuePrecompiler.Es5
