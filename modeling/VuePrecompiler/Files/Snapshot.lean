import VuePrecompiler.Files.Normal

/-!
# Snapshots of a disk

A snapshot holds the files and folders that a build may look at.  Everything
the build decides, it decides on a snapshot; what it writes is a list of files
that is applied to the disk afterwards.
-/

namespace VuePrecompiler.Files

/-- What a file holds. -/
inductive FileContent where
  | text (text : String)
  /-- Bytes that are no text. -/
  | binary
deriving DecidableEq, Repr, Inhabited

/-- Files and folders, by the parts of their normal absolute paths. -/
structure Snapshot where
  /-- Where relative paths start. -/
  workingFolder : Path
  files : List (List Part × FileContent)
  /-- Folders that exist even without a file in them. -/
  folders : List (List Part)
deriving Repr, Inhabited

namespace Snapshot

/-- The parts of the normal absolute path that a path denotes. -/
def partsOf (disk : Snapshot) (path : Path) : List Part :=
  normalParts (disk.workingFolder.join path).parts

/-- What the file at a path holds, if there is one. -/
def content? (disk : Snapshot) (path : Path) : Option FileContent :=
  disk.files.lookup (disk.partsOf path)

def isFile (disk : Snapshot) (path : Path) : Bool :=
  (disk.content? path).isSome

def isFolder (disk : Snapshot) (path : Path) : Bool :=
  let parts := disk.partsOf path
  disk.folders.any (fun folder => parts.isPrefixOf folder)
    || disk.files.any (fun (file, _) => parts.isPrefixOf file && parts != file)

/-- The text of a file, or the reason why there is none. -/
def read (disk : Snapshot) (path : Path) : Except String String :=
  match disk.content? path with
  | some (.text text) => .ok text
  | some .binary => .error "stream did not contain valid UTF-8"
  | none =>
    if disk.isFolder path then .error "Is a directory (os error 21)"
    else .error "No such file or directory (os error 2)"

/-- The snapshot after a folder was made, with the folders that it stands in. -/
def makeFolder (disk : Snapshot) (folder : Path) : Except String Snapshot :=
  let parts := disk.partsOf folder
  if disk.files.any fun (file, _) =>
    file == parts then .error "File exists (os error 17)"
  else if disk.files.any fun (file, _) => file.isPrefixOf parts then
    .error "Not a directory (os error 20)"
  else .ok { disk with folders := disk.folders ++ [parts] }

/-- The snapshot after a text was written to a path whose folder exists. -/
def write (disk : Snapshot) (path : Path) (text : String) : Except String Snapshot :=
  let parts := disk.partsOf path
  if disk.isFolder path then .error "Is a directory (os error 21)"
  else
    .ok { disk with
      files :=
        (parts, .text text) :: disk.files.filter fun (file, _) => file != parts }

/-- The text files that are new or changed in comparison with a snapshot before. -/
def changesSince (before after : Snapshot) : List (List Part × String) :=
  after.files.filterMap fun (parts, content) =>
    match content with
    | .text text =>
      if before.files.lookup parts == some content then none else some (parts, text)
    | .binary => none

end Snapshot

end VuePrecompiler.Files
