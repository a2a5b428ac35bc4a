import VuePrecompiler.Build.RuntimeBuilds
import VuePrecompiler.Build.Templates

/-!
# The pipeline

A build hands each task to two stages, one after the other: the first takes
care of the framework's runtime build, the second of the templates.
-/

namespace VuePrecompiler.Build

/-- The state of a build. -/
structure Pipeline where
  replacements : Replacements
  templates : TemplateState
deriving Inhabited

namespace Pipeline

def start : Pipeline := ⟨.empty, .start⟩

/-- Act on a task.  When it fails, the task stays as it is. -/
def perform (shop : Workshop) (pipeline : Pipeline) (task : Task) :
    Except TaskError (Task × Outcome) × Pipeline :=
  let (replacements, afterFirst, first) := pipeline.replacements.perform task
  match (convertTemplates shop afterFirst).run.run pipeline.templates with
  | (.ok (done, second), templates) =>
    (.ok (done, first.or second), ⟨replacements, templates⟩)
  | (.error error, templates) => (.error error, ⟨replacements, templates⟩)

/-- The diagnostics so far, and the pipeline without them. -/
def takeDiagnostics (pipeline : Pipeline) : List Diagnostic × Pipeline :=
  (pipeline.templates.diagnostics,
    { pipeline with templates := { pipeline.templates with diagnostics := [] } })

end Pipeline

end VuePrecompiler.Build
