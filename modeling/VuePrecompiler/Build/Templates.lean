import VuePrecompiler.Binding.Found
import VuePrecompiler.Build.Diagnostic
import VuePrecompiler.Build.Registry
import VuePrecompiler.Build.RenderModule
import VuePrecompiler.Build.Resolution
import VuePrecompiler.Build.Task
import VuePrecompiler.Source.Edits

/-!
# Templates

`rewritten` replaces the marked template bindings of a module: each requires
the render module of its template instead.  A template is compiled when it is
first met, and its render module is registered.
-/

namespace VuePrecompiler.Build

open Files Source Binding Javascript

/-- What a build works with. -/
structure Workshop where
  disk : Snapshot
  /-- Read a module, or say where it is no module. -/
  parse : String → Except Span Program := Program.ofText true
  /-- Compile a template to the body of a render function, or say what is wrong. -/
  compile : String → Except String String
  /-- Make a script fit for the browsers in question, or say what is wrong. -/
  adapt : String → Except String String
  /-- Texts that tell render modules apart. -/
  id : Nat → String

/-- Why a task fails. -/
inductive TaskError where
  | unresolved (error : ResolveError)
  | unreadable (template : Path) (cause : String)
  /-- No source root is known. -/
  | unconfigured (file : Path)
  | conflicting (file : Path) (error : EditError)
deriving DecidableEq, Repr

def TaskError.message : TaskError → String
  | unresolved error => error.message
  | unreadable template cause =>
    "failed to read template " ++ template.text ++ ": " ++ cause
  | unconfigured file =>
    "no build configuration captured before transforming " ++ file.text
  | conflicting file error =>
    "failed to rewrite " ++ file.text ++ ": " ++ error.message

/-- What a build knows about templates. -/
structure TemplateState where
  sourceRoot : Option Path
  registry : Registry
  /-- The templates compiled so far, with the paths of their render modules. -/
  compiled : List (Path × Path)
  diagnostics : List Diagnostic
  /-- All modules handed to the registry so far, in order.  One handed over again is
  listed again. -/
  registrations : List RegisteredModule
deriving Inhabited

def TemplateState.start : TemplateState := ⟨none, .empty, [], [], []⟩

/-- A step of a task.  What it registered and reported before it failed stays. -/
abbrev Step := ExceptT TaskError (StateM TemplateState)

def report (diagnostic : Diagnostic) : Step Unit :=
  modify fun state => { state with diagnostics := state.diagnostics ++ [diagnostic] }

/-- Warn about a binding of a file. -/
def warn (file : Path) (found : Found) (reason : Reason)
    (message : String) : Step Unit :=
  report ⟨.warning, reason, file, message, some found.value⟩

def renderFunction (shop : Workshop) (template : String) : Except String String := do
  shop.adapt (renderScript (← shop.compile template))

/-- Hand a module to the registry. -/
def enroll (added : RegisteredModule) : Step Unit :=
  modify fun state => { state with
    registry := state.registry.insert added
    registrations := state.registrations ++ [added] }

/-- Register the render module of a template and give its path. -/
def register (shop : Workshop) (template : Path) (function : String) : Step Path := do
  let path := renderModulePath template (shop.id (← get).compiled.length)
  enroll ⟨path, "utf8", renderModuleText function⟩
  modify fun state => { state with compiled := state.compiled ++ [(template, path)] }
  return path

/-- The path of the render module of a template, unless the template cannot be
compiled. -/
def renderModule? (shop : Workshop) (site : RequireSite) (found : Found)
    (template : Path) : Step (Option Path) := do
  match (← get).compiled.lookup template with
  | some path => return some path
  | none =>
    match shop.disk.read template with
    | .error cause => throw (.unreadable template cause)
    | .ok text =>
      match renderFunction shop text with
      | .ok function => return some (← register shop template function)
      | .error message =>
        warn site.file found .compileFailure (template.text ++ ": " ++ message)
        return none

/-- The text that requires a render module in the place of a binding. -/
def renderBinding (form : Form) (file render : Path) (quote : Char) : String :=
  "render" ++ form.operator ++ "require("
    ++ Javascript.quote (Path.specifierFrom file.folder render) quote ++ ")"

/-- What is written in the place of a binding, if it can be converted. -/
def replacement? (shop : Workshop) (site : RequireSite) (found : Found) :
    Step (Option Edit) := do
  match found.require with
  | none =>
    warn site.file found .unsupportedShape
      "template must be bound to require() with one or two string arguments"
    return none
  | some call =>
    match resolve shop.disk call.specifier.value
      (call.qualifier.map (·.value)) site with
    | .error error => throw (.unresolved error)
    | .ok resolved =>
      if !resolved.isTemplate then
        warn site.file found .unsupportedPipeline
          ("template require pipeline only supports html|text, found " ++
            resolved.sourceType ++ "|" ++ resolved.exposedType)
        return none
      else
        let render ← renderModule? shop site found resolved.path
        return render.map fun render =>
          ⟨found.replaced, renderBinding found.form site.file render
            call.specifier.quote⟩

/-- The edits for some bindings. -/
def replacements (shop : Workshop) (site : RequireSite) : List Found → Step (List Edit)
  | [] => return []
  | first :: rest => do
    let edit ← replacement? shop site first
    return edit.toList ++ (← replacements shop site rest)

/-- The code of a module with its bindings converted. -/
def rewritten (shop : Workshop) (file : Path) (code : String) : Step String := do
  match shop.parse code with
  | .error span =>
    report ⟨.error, .parseFailure, file,
      "module cannot be parsed, please check its syntax: " ++ invalidText, some span⟩
    return code
  | .ok program =>
    match Found.all program code.toList with
    | [] => return code
    | found =>
      match (← get).sourceRoot with
      | none => throw (.unconfigured file)
      | some root =>
        let edits ← replacements shop ⟨file, root⟩ found
        match Edit.applyAll edits code with
        | .ok code => return code
        | .error error => throw (.conflicting file error)

/-- Act on a task. -/
def convertTemplates (shop : Workshop) (task : Task) : Step (Task × Outcome) := do
  match task.phase with
  | .configured =>
    modify fun state => { state with sourceRoot := task.sourceRoot }
    return (task, .handled)
  | .read =>
    if task.isDependency then return (task, .ignored)
    else return ({ task with code := ← rewritten shop task.file task.code }, .handled)
  | _ => return (task, .ignored)

end VuePrecompiler.Build
