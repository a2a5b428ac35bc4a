import VuePrecompiler.Files.Snapshot
import VuePrecompiler.Text.Blank

/-!
# Resolution of required modules

`locate` says which path a specifier means, and `resolve` which module that
is: a file, together with the type it is read as and the type it is exposed as.
-/

namespace VuePrecompiler.Build

open Files Text

structure RequireSite where
  file : Path
  sourceRoot : Path
deriving Repr, Inhabited

/-- A module found on disk, and its types. -/
structure ResolvedModule where
  path : Path
  sourceType : String
  exposedType : String
deriving DecidableEq, Repr, Inhabited

/-- Why a specifier cannot be resolved. -/
inductive ResolveError where
  | notFound (specifier : String) (file : Path)
  | invalidSpecifier (specifier : String)
deriving DecidableEq, Repr

def ResolveError.message : ResolveError → String
  | .notFound specifier file =>
    "cannot find module '" ++ specifier ++ "' from " ++ file.text
  | .invalidSpecifier specifier => "invalid module specifier '" ++ specifier ++ "'"

/-- Whether a template can be taken from a module. -/
def ResolvedModule.isTemplate (resolved : ResolvedModule) : Bool :=
  resolved.sourceType == "html" && resolved.exposedType == "text"

/-- Whether a specifier is relative to the folder of the requiring file. -/
def isRelative (specifier : String) : Bool :=
  let text := specifier.toList
  text == ['.'] || text == ['.', '.'] || ['.', '/'].isPrefixOf text
    || ['.', '.', '/'].isPrefixOf text

/-- The path that a specifier means.  A relative one starts from the folder of
the requiring file, one with a leading slash from the source root, and any
other from the dependencies in the source root. -/
def locate (specifier : String) (site : RequireSite) : Path :=
  let path :=
    if isRelative specifier then site.file.folder.join ⟨specifier⟩
    else
      match specifier.toList with
      | '/' :: rooted => site.sourceRoot.join ⟨String.ofList rooted⟩
      | _ => (site.sourceRoot.join ⟨"node_modules"⟩).join ⟨specifier⟩
  path.normalized

/-- A text with its ASCII letters small. -/
def lowered (text : String) : String :=
  String.ofList (text.toList.map Char.toLower)

/-- The type that a file is read as, by its extension. -/
def sourceTypeOf (path : Path) : String :=
  match lowered (path.extension?.getD "") with
  | "htm" => "html"
  | "mjs" => "js"
  | "cjs" => "js"
  | "" => "file"
  | other => other

/-- The types of a module.  A qualifier `in|out` or `out` overrides what the
extension says. -/
def moduleTypes (path : Path) (qualifier : Option String) : String × String :=
  let sourceType := sourceTypeOf path
  let exposedType := if sourceType == "js" then "js" else "text"
  match (qualifier.map trimmed).filter (fun qualifier => qualifier != "") with
  | none => (sourceType, exposedType)
  | some qualifier =>
    match splitOnce? ['|'] qualifier.toList with
    | none => (sourceType, lowered qualifier)
    | some (input, output) =>
      let input := lowered (String.ofList (trim input))
      let output := lowered (String.ofList (trim output))
      (if input == "" then sourceType else input,
        if output == "" then exposedType else output)

/-- The module that a `require` means. -/
def resolve (disk : Snapshot) (specifier : String) (qualifier : Option String)
    (site : RequireSite) : Except ResolveError ResolvedModule :=
  if isBlankText specifier then .error (.invalidSpecifier specifier)
  else
    let path := locate specifier site
    if disk.isFile path then
      let (sourceType, exposedType) := moduleTypes path qualifier
      .ok ⟨path, sourceType, exposedType⟩
    else .error (.notFound specifier site.file)

end VuePrecompiler.Build
