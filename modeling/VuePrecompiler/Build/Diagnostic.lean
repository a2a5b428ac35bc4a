import VuePrecompiler.Files.Path
import VuePrecompiler.Source.Span

/-!
# Diagnostics

What is reported about a module without stopping the build.
-/

namespace VuePrecompiler.Build

open Files Source

inductive Severity where
  /-- The module could not be processed. -/
  | error
  /-- A binding was left as it is. -/
  | warning
deriving DecidableEq, Repr, Inhabited

inductive Reason where
  /-- The module is not valid JavaScript. -/
  | parseFailure
  /-- The value of a binding is no `require` of one or two string literals. -/
  | unsupportedShape
  /-- The required module is not a template taken as text. -/
  | unsupportedPipeline
  /-- The template could not be compiled. -/
  | compileFailure
deriving DecidableEq, Repr, Inhabited

def Severity.text : Severity → String
  | .error => "error"
  | .warning => "warning"

def Reason.text : Reason → String
  | .parseFailure => "parse-failure"
  | .unsupportedShape => "unsupported-require-shape"
  | .unsupportedPipeline => "unsupported-pipeline-type"
  | .compileFailure => "template-compile-failure"

/-- A report on a module. -/
structure Diagnostic where
  severity : Severity
  reason : Reason
  file : Path
  message : String
  /-- The bytes of the module it is about, if they are known. -/
  span : Option Span
deriving Repr, Inhabited

namespace Diagnostic

def isError (diagnostic : Diagnostic) : Bool :=
  diagnostic.severity == .error

/-- A diagnostic on one line. -/
def text (diagnostic : Diagnostic) : String :=
  diagnostic.file.text ++ ": " ++ diagnostic.severity.text ++ " ["
    ++ diagnostic.reason.text ++ "] "
    ++ diagnostic.message

end Diagnostic

end VuePrecompiler.Build
