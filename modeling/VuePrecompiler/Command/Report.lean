import VuePrecompiler.Build.Diagnostic
import VuePrecompiler.Command.Arguments
import VuePrecompiler.Javascript.StringLiteral
import VuePrecompiler.Source.Lines

/-!
# Reports

How diagnostics and the summary of a run are printed: for people, as JSON, or
with colons between the fields.
-/

namespace VuePrecompiler.Command

open Build Files Source Javascript

/-- What a run came to. -/
structure Summary where
  /-- The number of modules. -/
  modules : Nat
  /-- The number of modules that changed. -/
  rewritten : Nat
  renderModules : Nat
  /-- Which build of the framework a dependency on it means, if it is installed. -/
  runtimeBuild : Option Path
  errors : Nat
  warnings : Nat
  milliseconds : Nat
deriving Repr, Inhabited

/-- A text in a color, which is given by its code. -/
def colored (color : Nat) (text : String) : String :=
  s!"\x1b[{color}m{text}\x1b[0m"

def red (text : String) : String := colored 31 text

def green (text : String) : String := colored 32 text

def yellow (text : String) : String := colored 33 text

/-- The line and the column of a diagnostic, in its module if that is known. -/
def place (diagnostic : Diagnostic) (source : Option String) : Nat × Nat :=
  match diagnostic.span, source with
  | some span, some source => ((LineIndex.ofText source).position span.start).display
  | _, _ => (1, 1)

/-- An object whose members are written already. -/
def jsonObject (members : List (String × String)) : String :=
  let member (key value : String) := jsonQuoted key ++ ":" ++ value
  "\x7b" ++ String.intercalate "," (members.map fun (key, value) =>
    member key value) ++ "\x7d"

def withMarkedColons (text : String) : String :=
  String.ofList (text.toList.flatMap fun c => if c == ':' then ['\\', ':'] else [c])

/-- A severity for people. -/
def severityLabel : Severity → String
  | .error => red "error"
  | .warning => yellow "warning"

def diagnosticText (format : OutputFormat) (diagnostic : Diagnostic)
    (source : Option String) :
    String :=
  let (line, column) := place diagnostic source
  let file := diagnostic.file.text
  match format with
  | .human =>
    s!"{file}:{line}:{column}: " ++ severityLabel diagnostic.severity
      ++ s!"[{diagnostic.reason.text}]: {diagnostic.message}"
  | .json =>
    let span := diagnostic.span.elim "null" fun span =>
      jsonObject [("end", toString span.stop), ("start", toString span.start)]
    jsonObject
      [("code", jsonQuoted diagnostic.reason.text), ("column", toString column),
        ("file", jsonQuoted file), ("line", toString line),
        ("message", jsonQuoted diagnostic.message),
        ("severity", jsonQuoted diagnostic.severity.text), ("span", span),
        ("type", jsonQuoted "diagnostic")]
  | .machine =>
    String.intercalate ":"
      [file, toString line, toString column, diagnostic.severity.text,
        diagnostic.reason.text, withMarkedColons diagnostic.message]

def counted (count : Nat) (noun : String) : String :=
  s!"{count} {noun}" ++ if count == 1 then "" else "s"

/-- A summary for people. -/
def summaryLines (summary : Summary) : List String :=
  let head :=
    s!"Rewrote {summary.rewritten} of " ++ counted summary.modules "module" ++ ", "
      ++ counted summary.renderModules "render module"
  let runtime :=
    summary.runtimeBuild.toList.map fun path => "vue resolves to " ++ path.text
  let time := s!"{summary.milliseconds}ms"
  let issues :=
    (if summary.errors == 0 then []
      else [red "✗" ++ " Found " ++ counted summary.errors "error"])
      ++ if summary.warnings == 0 then []
        else [yellow "⚠" ++ " Found " ++ counted summary.warnings "warning"]
  let last :=
    if issues.isEmpty then [green "✓" ++ " No issues found (" ++ time ++ ")"]
    else issues ++ ["Time: " ++ time]
  "" :: head :: runtime ++ last

/-- A summary in a format; between colons there is none. -/
def summaryText? (format : OutputFormat) (summary : Summary) : Option String :=
  match format with
  | .human => some (String.intercalate "\n" (summaryLines summary))
  | .json =>
    some (jsonObject
      [("duration_ms", toString summary.milliseconds),
        ("errors", toString summary.errors),
        ("files", toString summary.modules), ("rewritten", toString summary.rewritten),
        ("runtimeBuild", summary.runtimeBuild.elim "null" fun path =>
          jsonQuoted path.text),
        ("type", jsonQuoted "summary"),
        ("virtualFiles", toString summary.renderModules),
        ("warnings", toString summary.warnings)])
  | .machine => none

end VuePrecompiler.Command
