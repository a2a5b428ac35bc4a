import VuePrecompiler.Files.Normal

/-!
# Render modules

A compiled template becomes a module of its own, in the folder of the template
and under a name that no file of the user bears.
-/

namespace VuePrecompiler.Build

open Files

/-- What the name of a render module begins with. -/
def renderModulePrefix : String := "[coolie-mid-vue-virtual-file]"

/-- The path of the render module of a template.  `id` tells render modules apart. -/
def renderModulePath (template : Path) (id : String) : Path :=
  template.folder.join ⟨renderModulePrefix ++ "-" ++ id ++ ".js"⟩

def isRenderModule (path : Path) : Bool :=
  path.name?.any fun name =>
    renderModulePrefix.toList.isPrefixOf name.toList &&
      ".js".toList.isSuffixOf name.toList

/-- The script of the render function whose body a template compiles to. -/
def renderScript (body : String) :
    String := "function render () \x7b" ++ body ++ "\x7d"

def renderModuleText (function : String) : String :=
  "module.exports = " ++ function ++ ";"

end VuePrecompiler.Build
