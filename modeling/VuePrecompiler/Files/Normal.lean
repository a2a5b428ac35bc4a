import VuePrecompiler.Files.Path

/-!
# Normal paths and specifiers

`Path.normalized` cancels the parts of a path against each other, without a
look at any disk.  `specifierFrom` writes a path as a module in a folder has to
require it.
-/

namespace VuePrecompiler.Files

/-- Add a part to the parts of a normal path, which are given from the last to
the first.  A parent part cancels a name; above the root there is nothing. -/
def settle (settled : List Part) : Part → List Part
  | .current => settled
  | .parent =>
    match settled with
    | .named _ :: before => before
    | _ => if settled.contains .root then settled else .parent :: settled
  | part => part :: settled

/-- The parts of a path with what can be cancelled cancelled. -/
def normalParts (parts : List Part) : List Part :=
  (parts.foldl settle []).reverse

namespace Path

/-- The normal path that a path denotes lexically. -/
def normalized (path : Path) : Path :=
  ofParts (normalParts path.parts)

/-- The number of parts that two paths have in common at the start. -/
def commonCount : List Part → List Part → Nat
  | left :: lefts, right :: rights =>
    if left = right then commonCount lefts rights + 1 else 0
  | _, _ => 0

/-- The way from a folder to a path: up to where they part, and down again. -/
def wayFrom (folder target : Path) : List (List Char) :=
  let folder := normalParts folder.parts
  let target := normalParts target.parts
  let common := commonCount folder target
  List.replicate (folder.length - common) ['.', '.'] ++
    (target.drop common).map Part.text

/-- The specifier with which a module in a folder requires a path.  It is
relative, and says so. -/
def specifierFrom (folder target : Path) : String :=
  let way := joinSlash (wayFrom folder target)
  if ['.', '.', '/'].isPrefixOf way then String.ofList way
  else String.ofList ('.' :: '/' :: way)

end Path

end VuePrecompiler.Files
