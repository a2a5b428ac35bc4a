import VuePrecompiler.Files.Path

/-!
# Registered modules

The modules that exist in memory only.  A registry keeps the order in which
paths were first registered; a module registered again under the same path
takes the place of the former one.
-/

namespace VuePrecompiler.Build

open Files

/-- A module in memory. -/
structure RegisteredModule where
  path : Path
  encoding : String
  content : String
deriving DecidableEq, Repr, Inhabited

/-- The modules in memory, in the order of their registration. -/
structure Registry where
  modules : List RegisteredModule
deriving Repr, Inhabited

namespace Registry

/-- The registry without modules. -/
def empty : Registry := ⟨[]⟩

/-- Put a module in the place of the one at the same path, or at the end. -/
def place (added : RegisteredModule) : List RegisteredModule → List RegisteredModule
  | [] => [added]
  | first :: rest =>
    if first.path.sameAs added.path then added :: rest else first :: place added rest

def insert (registry : Registry) (added : RegisteredModule) : Registry :=
  ⟨place added registry.modules⟩

def get? (registry : Registry) (path : Path) : Option RegisteredModule :=
  registry.modules.find? fun found => found.path.sameAs path

/-- The number of modules. -/
def size (registry : Registry) : Nat := registry.modules.length

def isEmpty (registry : Registry) : Bool := registry.modules.isEmpty

end Registry

end VuePrecompiler.Build
