import VuePrecompiler.Files.Path

/-!
# Tasks

A build passes through phases.  In each, it hands over a task: the module that
is being built, or the configuration of the build.
-/

namespace VuePrecompiler.Build

open Files

inductive Phase where
  /-- The configuration is known. -/
  | configured
  /-- A module has been read. -/
  | read
  /-- A module has been built. -/
  | built
  | other (name : String)
deriving DecidableEq, Repr, Inhabited

namespace Phase

/-- The phase with a name. -/
def ofText : String → Phase
  | "post-config" => configured
  | "pre-module" => read
  | "post-module" => built
  | name => other name

/-- The name of a phase. -/
def text : Phase → String
  | configured => "post-config"
  | read => "pre-module"
  | built => "post-module"
  | other name => name

end Phase

/-- What a build hands over. -/
structure Task where
  phase : Phase
  file : Path
  code : String
  /-- Whether the module belongs to a dependency. -/
  isDependency : Bool
  /-- The source root, in a task that tells it. -/
  sourceRoot : Option Path
deriving DecidableEq, Repr, Inhabited

def Task.configuration (sourceRoot : Path) : Task :=
  ⟨.configured, ⟨""⟩, "", false, some sourceRoot⟩

/-- Whether a task was acted upon. -/
inductive Outcome where
  | handled
  | ignored
deriving DecidableEq, Repr, Inhabited

/-- A task is ignored by two stages together if it is ignored by both. -/
def Outcome.or : Outcome → Outcome → Outcome
  | ignored, ignored => ignored
  | _, _ => handled

end VuePrecompiler.Build
