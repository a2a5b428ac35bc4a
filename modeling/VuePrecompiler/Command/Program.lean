import VuePrecompiler.Command.Help
import VuePrecompiler.Command.Run

/-!
# The program

What a call of the program does: what it prints, what it writes, and with which
exit code it ends.
-/

namespace VuePrecompiler.Command

open Build Files Settings

/-- How a call ends. -/
structure Finish where
  exitCode : Nat
  /-- The lines on standard output, given the milliseconds that the call took. -/
  printed : Nat → List String
  /-- What is said on standard error. -/
  complaint : Option String
  /-- The disk afterwards. -/
  disk : Snapshot

/-- A failure and its cause on one line. -/
def RunError.text (error : RunError) : String :=
  match error.cause? with
  | none => error.message
  | some cause => error.message ++ ": " ++ cause

/-- Why arguments are refused, in a few words; help and the version
are no complaints. -/
def Refusal.complaint? : Refusal → Option String
  | unknownArgument => some "unexpected argument found"
  | invalidValue => some "invalid value for an option"
  | argumentConflict => some "an option cannot be used multiple times"
  | tooManyValues => some "unexpected value for an option"
  | help _ => none
  | version => none

/-- How a call ends whose arguments are not carried out. -/
def refused (disk : Snapshot) (refusal : Refusal) : Finish :=
  match refusal with
  | .help true => ⟨0, fun _ => longHelp, none, disk⟩
  | .help false => ⟨0, fun _ => shortHelp, none, disk⟩
  | .version => ⟨0, fun _ => [versionLine], none, disk⟩
  | _ => ⟨2, fun _ => [], refusal.complaint?, disk⟩

/-- The folder where the settings file is looked for. -/
def workspaceOf (disk : Snapshot) (arguments : Arguments) : Path :=
  arguments.workspace.getD disk.workingFolder

/-- Whether a run counts as failed. -/
def isFailure (arguments : Arguments) (summary : Summary) : Bool :=
  0 < summary.errors || (arguments.failOnWarning && 0 < summary.warnings)

/-- Carry out a call with some arguments. -/
def perform (shop : Workshop) (given : List String) : Finish :=
  let disk := shop.disk
  match Arguments.ofList given with
  | .error refusal => refused disk refusal
  | .ok arguments =>
    match Settings.load disk (workspaceOf disk arguments) arguments with
    | .error error => ⟨1, fun _ => [], some error.message, disk⟩
    | .ok settings =>
      match run shop settings with
      | (.error error, disk) => ⟨1, fun _ => [], some error.text, disk⟩
      | (.ok found, disk) =>
        let code := if isFailure arguments (found.summary 0) then 1 else 0
        ⟨code, found.report arguments.output, none, disk⟩

/-! ## What a call looks at

The disk as a whole is too large to be read before a call.  These are the files
that a call may look at; no others matter. -/

/-- The files among which the settings file is looked for. -/
def settingsFiles (disk : Snapshot) (arguments : Arguments) : List Path :=
  match arguments.config with
  | some file => [absolute disk file]
  | none => settingsFilePlaces (absolute disk (workspaceOf disk arguments))

/-- The files that a module requires as templates. -/
def requiredFiles (settings : Settings) (file : Path) (code : String) : List Path :=
  match Javascript.Program.ofText true code with
  | .error _ => []
  | .ok program =>
    (Binding.Found.all program code.toList).filterMap fun found =>
      found.require.map fun call => locate call.specifier.value ⟨file, settings.source⟩

/-- The full builds of the framework, where they are installed. -/
def frameworkFiles (settings : Settings) : List Path :=
  runtimeBuilds.map fun (full, _) => settings.source.join full

end VuePrecompiler.Command
