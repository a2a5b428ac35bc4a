import VuePrecompiler.Build.RenderModule
import VuePrecompiler.Command.Arguments
import VuePrecompiler.Files.Snapshot
import VuePrecompiler.Settings.File
import VuePrecompiler.Settings.Glob

/-!
# Settings

The settings of a run come from a settings file and from the command line,
which goes first.  Paths in the file start from its folder, those on the command
line from the working folder.
-/

namespace VuePrecompiler

open Files Command Settings

/-- The settings of a run. -/
structure Settings where
  /-- The settings file, if there is one. -/
  file : Option Path
  /-- The source root. -/
  source : Path
  /-- The output folder, unless nothing is written. -/
  output : Option Path
  /-- The globs of modules to leave out, as they are written. -/
  ignorePatterns : List String
  ignore : List Glob
deriving Repr, Inhabited

namespace Settings

def settingsFileName : String := "coolie.config.json"

/-- Why there are no settings. -/
inductive SettingsError where
  | unreadable (file : Path) (cause : String)
  | invalidFile (file : Path)
  | noOutput
  /-- The output folder is the source root. -/
  | outputIsSource (folder : Path)
  | invalidPattern (pattern : String)
deriving DecidableEq, Repr

def SettingsError.message : SettingsError → String
  | unreadable file _ => "Failed to read " ++ file.text
  | invalidFile file => "Failed to parse " ++ file.text
  | noOutput => "no output directory configured"
  | outputIsSource folder =>
    "output directory " ++ folder.text ++ " is the source directory"
  | invalidPattern pattern => "Invalid ignore pattern '" ++ pattern ++ "'"

/-- The normal absolute path that a path of the command line denotes. -/
def absolute (disk : Snapshot) (path : Path) : Path :=
  (disk.workingFolder.join path).normalized

/-- The places where the settings file of a workspace may stand. -/
def settingsFilePlaces (workspace : Path) : List Path :=
  workspace.ancestors.map fun folder => folder.join ⟨settingsFileName⟩

def readSettingsFile (disk : Snapshot) (file : Path) :
    Except SettingsError SettingsFile :=
  match disk.read file with
  | .error cause => throw (.unreadable file cause)
  | .ok text =>
    match SettingsFile.ofText? text with
    | some settings => return settings
    | none => throw (.invalidFile file)

/-- The output folder that the command line or the settings file name. -/
def outputFolder (disk : Snapshot) (arguments : Arguments) (settings : SettingsFile)
    (base source : Path) : Except SettingsError (Option Path) := do
  if arguments.dryRun then return none
  let folder ←
    match arguments.outDir, settings.output with
    | some folder, _ => pure (absolute disk folder)
    | none, some folder => pure (base.join ⟨folder⟩).normalized
    | none, none => throw .noOutput
  if folder.sameAs source then throw (.outputIsSource folder) else return some folder

/-- The globs that some patterns spell. -/
def globs : List String → Except SettingsError (List Glob)
  | [] => return []
  | pattern :: rest =>
    match Glob.ofText? pattern with
    | some glob => return glob :: (← globs rest)
    | none => throw (.invalidPattern pattern)

def load (disk : Snapshot) (workspace : Path) (arguments : Arguments) :
    Except SettingsError Settings := do
  let workspace := absolute disk workspace
  let file :=
    match arguments.config with
    | some file => some (absolute disk file)
    | none => (settingsFilePlaces workspace).find? disk.isFile
  let settings ← file.elim (pure .empty) (readSettingsFile disk)
  let base := file.elim workspace fun file => file.parent?.getD workspace
  let source := (base.join ⟨settings.source.getD "."⟩).normalized
  let output ← outputFolder disk arguments settings base source
  let patterns := settings.ignore ++ arguments.ignore
  return ⟨file, source, output, patterns, ← globs patterns⟩

/-- The path as seen from the source root, if it is in there. -/
def relative? (settings : Settings) (path : Path) : Option Path :=
  settings.source.relativeTo? path

/-- Whether a file is a module to be processed. -/
def includes (settings : Settings) (path : Path) : Bool :=
  path.extension? == some "js" && !Build.isRenderModule path
    && !settings.ignore.any fun glob =>
      glob.matches ((settings.relative? path).getD path).text

/-- Where a file of the source tree is written. -/
def outputPath? (settings : Settings) (path : Path) : Option Path := do
  return (← settings.output).join (← settings.relative? path)

end Settings

end VuePrecompiler
