import VuePrecompiler.Build.Task
import VuePrecompiler.Files.Normal

/-!
# Runtime builds

Compiled templates need no compiler at run time.  A dependency on the full
build of the framework is therefore replaced by one on its runtime build.
-/

namespace VuePrecompiler.Build

open Files

/-- Where the full builds and the runtime builds stand, below a source root. -/
def runtimeBuilds : List (Path × Path) :=
  [(⟨"node_modules/vue/dist/vue.common.js"⟩,
    ⟨"node_modules/vue/dist/vue.runtime.common.js"⟩)]

/-- The full builds known so far, with the runtime builds that replace them. -/
structure Replacements where
  builds : List (Path × Path)
deriving Repr, Inhabited

namespace Replacements

/-- The state before a source root is known. -/
def empty : Replacements := ⟨[]⟩

/-- Take account of the builds below a source root. -/
def learn (replacements : Replacements) (root : Path) : Replacements :=
  let found := runtimeBuilds.map fun (full, runtime) =>
    ((root.join full).normalized, (root.join runtime).normalized)
  ⟨found ++ replacements.builds⟩

/-- What replaces a file, if it is a full build. -/
def runtimeBuild? (replacements : Replacements) (file : Path) : Option Path :=
  replacements.builds.lookup file.normalized

/-- Act on a task. -/
def perform (replacements : Replacements) (task : Task) :
    Replacements × Task × Outcome :=
  match task.phase with
  | .configured =>
    (task.sourceRoot.elim replacements replacements.learn, task, .handled)
  | .built =>
    if task.isDependency then
      (replacements,
        { task with file := (replacements.runtimeBuild? task.file).getD task.file },
        .handled)
    else (replacements, task, .ignored)
  | _ => (replacements, task, .ignored)

end Replacements

end VuePrecompiler.Build
