import VuePrecompiler.Build.Pipeline
import VuePrecompiler.Build.Toolchain
import VuePrecompiler.Command.Report
import VuePrecompiler.Settings.Resolved

/-!
# Runs

A run hands all modules of a source tree to the pipeline, writes them and the
render modules to the output folder, and reports.
-/

namespace VuePrecompiler.Command

open Build Files Settings

/-- Why a run fails. -/
inductive RunError where
  | noSource (folder : Path)
  | unreadable (file : Path) (cause : String)
  | failed (file : Path) (error : TaskError)
  | noFolder (folder : Path) (cause : String)
  | unwritable (file : Path) (cause : String)
deriving DecidableEq, Repr

namespace RunError

def message : RunError → String
  | noSource folder => "source directory " ++ folder.text ++ " does not exist"
  | unreadable file _ => "Failed to read " ++ file.text
  | failed file _ => "Failed to process " ++ file.text
  | noFolder folder _ => "Failed to create " ++ folder.text
  | unwritable file _ => "Failed to write " ++ file.text

/-- What made the run fail, if there is more to say than the message. -/
def cause? : RunError → Option String
  | noSource _ => none
  | unreadable _ cause => some cause
  | failed _ error => some error.message
  | noFolder _ cause => some cause
  | unwritable _ cause => some cause

end RunError

/-- A module before and after its conversion. -/
structure ModuleResult where
  file : Path
  source : String
  code : String
deriving Repr, Inhabited

/-! ## Finding modules -/

/-- Whether a file or folder of a source tree is passed over because of its name. -/
def isPassedOver : Part → Bool
  | .named name => name == "node_modules" || name.startsWith "."
  | _ => false

/-- Whether a file of the source tree stands under a folder that is passed over,
or under the output folder; all are given by their parts. -/
def isReached (source : List Part) (output : Option (List Part))
    (file : List Part) : Bool :=
  source.isPrefixOf file && source != file
    && !(file.drop source.length).any isPassedOver
    && !output.any fun output =>
      source.isPrefixOf output && output != source && output.isPrefixOf file

/-- Whether a text stands before another or is the same, in the order
of the code points. -/
def isUpTo : List Char → List Char → Bool
  | [], _ => true
  | _ :: _, [] => false
  | c :: left, d :: right => c.toNat < d.toNat || (c == d && isUpTo left right)

/-- The order in which a source tree is walked: by the names on the way. -/
def walksBefore : List Part → List Part → Bool
  | [], _ => true
  | _ :: _, [] => false
  | left :: lefts, right :: rights =>
    if left.text = right.text then walksBefore lefts rights
    else isUpTo left.text right.text

/-- The modules of a source tree in the order of their processing. -/
def moduleFiles (disk : Snapshot) (settings : Settings) : List Path :=
  let source := settings.source.parts
  let reached :=
    (disk.files.map Prod.fst).filter
      (isReached source (settings.output.map Path.parts))
  ((reached.mergeSort walksBefore).map Path.ofParts).filter settings.includes

/-! ## Processing -/

/-- Convert a module: once it is read, and once it is built. -/
def convert (shop : Workshop) (pipeline : Pipeline) (file : Path) :
    Except RunError (ModuleResult × Pipeline) := do
  match shop.disk.read file with
  | .error cause => throw (.unreadable file cause)
  | .ok source =>
    let (read, pipeline) := pipeline.perform shop ⟨.read, file, source, false, none⟩
    let (task, _) ← read.mapError (.failed file)
    let (built, pipeline) := pipeline.perform shop { task with phase := .built }
    let (task, _) ← built.mapError (.failed file)
    return (⟨file, source, task.code⟩, pipeline)

/-- Convert modules one after the other. -/
def convertEach (shop : Workshop) (pipeline : Pipeline) :
    List Path → Except RunError (List ModuleResult × Pipeline)
  | [] => return ([], pipeline)
  | file :: rest => do
    let (first, pipeline) ← convert shop pipeline file
    let (others, pipeline) ← convertEach shop pipeline rest
    return (first :: others, pipeline)

/-- Which build of the framework a dependency on it means, if it is installed. -/
def frameworkBuild (shop : Workshop) (pipeline : Pipeline) (source : Path) :
    Except RunError (Option Path) := do
  match runtimeBuilds.head? with
  | none => return none
  | some (full, _) =>
    let file := source.join full
    if shop.disk.isFile file then
      let (built, _) := pipeline.perform shop ⟨.built, file, "", true, none⟩
      let (task, _) ← built.mapError (.failed file)
      return some task.file
    else return none

/-! ## Writing -/

/-- Write a file of the source tree to the output folder; what stands outside of
the source tree is not written. -/
def writeOutput (settings : Settings) (disk : Snapshot) (file : Path) (text : String) :
    Except RunError Snapshot := do
  match settings.outputPath? file with
  | none => return disk
  | some target =>
    let disk ← (disk.makeFolder target.folder).mapError (.noFolder target.folder)
    (disk.write target text).mapError (.unwritable target)

/-- Write files as long as that succeeds. -/
def writeOutputs (settings : Settings) (disk : Snapshot) :
    List (Path × String) → Except RunError Unit × Snapshot
  | [] => (.ok (), disk)
  | (file, text) :: rest =>
    match writeOutput settings disk file text with
    | .ok disk => writeOutputs settings disk rest
    | .error error => (.error error, disk)

/-! ## Running -/

/-- What a run found out before it writes anything. -/
structure Conversion where
  modules : List ModuleResult
  registry : Registry
  diagnostics : List Diagnostic
  runtimeBuild : Option Path

/-- Convert a source tree. -/
def conversion (shop : Workshop) (settings : Settings) :
    Except RunError Conversion := do
  if !shop.disk.isFolder settings.source then throw (.noSource settings.source)
  let (_, pipeline) := Pipeline.start.perform shop (.configuration settings.source)
  let (modules, pipeline) ← convertEach shop pipeline (moduleFiles shop.disk settings)
  let runtimeBuild ← frameworkBuild shop pipeline settings.source
  let templates := pipeline.templates
  return ⟨modules, templates.registry, templates.diagnostics, runtimeBuild⟩

namespace Conversion

/-- The files to be written: the modules, and the render modules behind them. -/
def files (found : Conversion) : List (Path × String) :=
  found.modules.map (fun module => (module.file, module.code))
    ++ found.registry.modules.map fun module => (module.path, module.content)

def summary (found : Conversion) (milliseconds : Nat) : Summary where
  modules := found.modules.length
  rewritten := (found.modules.filter fun module => module.code != module.source).length
  renderModules := found.registry.size
  runtimeBuild := found.runtimeBuild
  errors := (found.diagnostics.filter Diagnostic.isError).length
  warnings := (found.diagnostics.filter fun diagnostic => !diagnostic.isError).length
  milliseconds := milliseconds

/-- The text of the module that a diagnostic is about. -/
def sourceOf? (found : Conversion) (diagnostic : Diagnostic) : Option String :=
  (found.modules.find? fun module => module.file.sameAs diagnostic.file).map (·.source)

/-- The lines that are printed: the diagnostics, and the summary behind them. -/
def report (found : Conversion) (format : OutputFormat) (milliseconds : Nat) :
    List String :=
  let line (diagnostic : Diagnostic) :=
    diagnosticText format diagnostic (found.sourceOf? diagnostic)
  found.diagnostics.map line ++
    (summaryText? format (found.summary milliseconds)).toList

end Conversion

/-- Convert a source tree and write it; the disk is as far as the run got. -/
def run (shop : Workshop) (settings : Settings) :
    Except RunError Conversion × Snapshot :=
  match conversion shop settings with
  | .error error => (.error error, shop.disk)
  | .ok found =>
    let files := if settings.output.isSome then found.files else []
    let (written, disk) := writeOutputs settings shop.disk files
    (written.map fun _ => found, disk)

end VuePrecompiler.Command
