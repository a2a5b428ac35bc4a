import VuePrecompiler.Settings.Comments
import VuePrecompiler.Settings.Json

/-!
# Settings files

A settings file is an object with some known members, or a list of their values
in order.  Members that are not known do not matter.
-/

namespace VuePrecompiler.Settings

/-- The settings of a file, as they are written. -/
structure SettingsFile where
  /-- The source root, from the folder of the file on. -/
  source : Option String
  /-- The output folder, from the folder of the file on. -/
  output : Option String
  /-- Globs of modules to leave out. -/
  ignore : List String
deriving Repr, Inhabited

namespace SettingsFile

def empty : SettingsFile := ⟨none, none, []⟩

/-- A setting that is a text or missing. -/
def textSetting? : Json → Option (Option String)
  | .null => some none
  | .string (some text) => some (some text)
  | _ => none

/-- A setting that is a list of texts. -/
def textsSetting? : Json → Option (List String)
  | .array items => items.mapM fun item => (textSetting? item).bind id
  | _ => none

/-- The value of a member that must not repeat, or what stands for it. -/
def member? (members : List (String × Json)) (key : String) (missing : α)
    (read? : Json → Option α) : Option α :=
  match members.filter (fun (name, _) => name == key) with
  | [] => some missing
  | [(_, value)] => read? value
  | _ => none

/-- The settings that a value holds. -/
def ofJson? : Json → Option SettingsFile
  | .object members => do
    return ⟨← member? members "srcDirname" none textSetting?,
      ← member? members "destDirname" none textSetting?,
      ← member? members "ignore" [] textsSetting?⟩
  | .array [] => some empty
  | .array [source] => do return ⟨← textSetting? source, none, []⟩
  | .array [source, output] => do
    return ⟨← textSetting? source, ← textSetting? output, []⟩
  | .array [source, output, ignore] => do
    return ⟨← textSetting? source, ← textSetting? output, ← textsSetting? ignore⟩
  | _ => none

def ofText? (text : String) : Option SettingsFile :=
  (Json.ofText? (withoutComments text)).bind ofJson?

end SettingsFile

end VuePrecompiler.Settings
