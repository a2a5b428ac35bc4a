import VuePrecompiler.Text.Cut

/-!
# Paths

A path is a text.  What it denotes is read off its parts: slashes that repeat
or stand at the end, and dots other than a leading one, are no parts.  A path
is `normal` once no part of it can be cancelled.
-/

namespace VuePrecompiler.Files

open Text

inductive Part where
  /-- The slash that an absolute path begins with. -/
  | root
  /-- The dot that a relative path may begin with. -/
  | current
  | parent
  | named (name : String)
deriving DecidableEq, Repr, Inhabited

namespace Part

/-- The part that a text between slashes denotes, unless it denotes nothing. -/
def ofSegment? : List Char → Option Part
  | [] => none
  | ['.'] => none
  | ['.', '.'] => some .parent
  | name => some (.named (String.ofList name))

def text : Part → List Char
  | .root => ['/']
  | .current => ['.']
  | .parent => ['.', '.']
  | .named name => name.toList

end Part

/-- A path as it is written. -/
structure Path where
  text : String
deriving DecidableEq, Repr, Inhabited

namespace Path

/-- The texts between the slashes. -/
def segments (path : Path) : List (List Char) :=
  splitOnChar '/' path.text.toList

/-- Whether the path begins with a slash. -/
def isAbsolute (path : Path) : Bool :=
  path.text.toList.head? == some '/'

def parts (path : Path) : List Part :=
  match path.segments with
  | [] => []
  | first :: later =>
    let later := later.filterMap Part.ofSegment?
    if path.isAbsolute then .root :: later
    else if first = ['.'] then .current :: later
    else (Part.ofSegment? first).toList ++ later

/-- Texts with slashes between them. -/
def joinSlash : List (List Char) → List Char
  | [] => []
  | [segment] => segment
  | segment :: rest => segment ++ '/' :: joinSlash rest

def ofParts : List Part → Path
  | .root :: parts => ⟨String.ofList ('/' :: joinSlash (parts.map Part.text))⟩
  | parts => ⟨String.ofList (joinSlash (parts.map Part.text))⟩

/-- Whether two paths have the same parts. -/
def sameAs (left right : Path) : Bool :=
  left.parts == right.parts

/-- Continue a path with another; an absolute path is not continued from anywhere. -/
def join (base tail : Path) : Path :=
  if tail.isAbsolute then tail
  else if base.text.isEmpty || base.text.toList.getLast? == some '/' then
    ⟨base.text ++ tail.text⟩
  else ⟨base.text ++ "/" ++ tail.text⟩

/-- Drop the texts at the end that denote nothing.  The first text of a path
always denotes something, be it the root. -/
def dropSilent (segments : List (List Char)) : List (List Char) :=
  match segments with
  | [] => []
  | first :: later =>
    first :: (later.reverse.dropWhile fun segment =>
      (Part.ofSegment? segment).isNone).reverse

/-- The path whose texts between slashes are given; one empty text is the root
if the path is absolute. -/
def ofSegments (absolute : Bool) (segments : List (List Char)) : Path :=
  if absolute && segments.length == 1 then ⟨"/"⟩
  else ⟨String.ofList (joinSlash segments)⟩

/-- The path without its last part.  The root and the empty path have none. -/
def parent? (path : Path) : Option Path :=
  match dropSilent path.segments with
  | [] => none
  | [only] => if only = [] then none else some ⟨""⟩
  | several => some (ofSegments path.isAbsolute (dropSilent several.dropLast))

/-- The folder that a file stands in. -/
def folder (path : Path) : Path :=
  path.parent?.getD ⟨""⟩

/-- The last part of a path, if it is a name. -/
def name? (path : Path) : Option String :=
  match path.parts.getLast? with
  | some (.named name) => some name
  | _ => none

/-- What follows the last dot of the name; a dot at the start of a name does
not count. -/
def extension? (path : Path) : Option String := do
  let (stem, extension) ← splitLast? '.' (← path.name?).toList
  if stem.isEmpty then none else some (String.ofList extension)

/-- The path as seen from one that its parts begin with. -/
def relativeTo? (base path : Path) : Option Path :=
  if base.parts.isPrefixOf path.parts then
    if base.parts.isEmpty then
      some (ofSegments path.isAbsolute (dropSilent path.segments))
    else
      some ⟨String.ofList (joinSlash (after base.parts.length path))⟩
  else none
where
  /-- The texts between slashes behind the first `count` parts. -/
  after (count : Nat) (path : Path) : List (List Char) :=
    match dropSilent path.segments with
    | [] => []
    | _ :: later => dropParts (count - 1) later
  /-- Drop texts until `count` of them denoted something, and the silent ones then. -/
  dropParts : Nat → List (List Char) → List (List Char)
    | _, [] => []
    | count, segment :: rest =>
      if (Part.ofSegment? segment).isNone then dropParts count rest
      else
        match count with
        | 0 => segment :: rest
        | count + 1 => dropParts count rest

/-- The path itself, its folder, the folder of that, and so on. -/
def ancestors (path : Path) : List Path :=
  go path.parts.length path
where
  go : Nat → Path → List Path
    | 0, path => [path]
    | count + 1, path =>
      match path.parent? with
      | some parent => path :: go count parent
      | none => [path]

end Path

end VuePrecompiler.Files
