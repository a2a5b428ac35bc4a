import VuePrecompiler.Command.Program

/-!
# Calling the program

The outer layer: it reads from the disk what a call looks at, and writes and
prints what the call came to.
-/

namespace VuePrecompiler.Main

open Build Files Settings Command

/-- Read a file into a snapshot; what cannot be read is left out. -/
def addFile (disk : Snapshot) (file : Path) : IO Snapshot := do
  try
    let bytes ← IO.FS.readBinFile file.text
    let content := (String.fromUTF8? bytes).elim .binary .text
    return { disk with files := (disk.partsOf file, content) :: disk.files }
  catch _ => return disk

def addFiles (disk : Snapshot) (files : List Path) : IO Snapshot :=
  files.foldlM addFile disk

/-- Read the modules below a folder into a snapshot. -/
partial def addModules (settings : Settings) (disk : Snapshot) (folder : Path) :
  IO Snapshot := do
  let mut disk := { disk with folders := disk.partsOf folder :: disk.folders }
  let place ← IO.FS.realPath folder.text
  for entry in ← place.readDir do
    let path := folder.join ⟨entry.fileName⟩
    if isReached settings.source.parts (settings.output.map Path.parts) path.parts then
      if ← entry.path.isDir then disk ← addModules settings disk path
      else if settings.includes path then disk ← addFile disk path
  return disk

/-- The files that the modules of a snapshot require as templates. -/
def templates (settings : Settings) (disk : Snapshot) : List Path :=
  (moduleFiles disk settings).flatMap fun file =>
    match disk.content? file with
    | some (.text code) => requiredFiles settings file code
    | _ => []

/-- The files and folders that a call with some arguments looks at. -/
def snapshot (given : List String) : IO Snapshot := do
  let folder ← IO.currentDir
  let disk : Snapshot := ⟨⟨folder.toString⟩, [], []⟩
  match Arguments.ofList given with
  | .error _ => return disk
  | .ok arguments =>
    let disk ← addFiles disk (settingsFiles disk arguments)
    match Settings.load disk (workspaceOf disk arguments) arguments with
    | .error _ => return disk
    | .ok settings =>
      let disk ← try addModules settings disk settings.source catch _ => pure disk
      let disk ← addFiles disk (frameworkFiles settings)
      addFiles disk (templates settings disk)

/-- Write a file and the folders that it stands in. -/
def writeFile (file : Path) (text : String) : IO Unit := do
  IO.FS.createDirAll file.folder.text
  IO.FS.writeFile file.text text

/-- The number of ids of 32 digits in base sixteen. -/
def idCount : Nat := 0x100000000000000000000000000000000

/-- The tools of a run; `seed` makes the names of its render modules differ from
those of other runs. -/
def workshop (disk : Snapshot) (seed : Nat) : Workshop where
  disk := disk
  compile := compileTemplate
  adapt := lowerScript
  id := fun index => String.ofList (Text.hexDigits 32 ((seed + index) % idCount))

def numberOfBytes (bytes : ByteArray) : Nat :=
  bytes.toList.foldl (fun number byte => 256 * number + byte.toNat) 0

/-- Carry out a call, and give its exit code. -/
def call (given : List String) : IO UInt32 := do
  let start ← IO.monoMsNow
  let disk ← snapshot given
  let seed := numberOfBytes (← IO.getRandomBytes 16)
  let finish := perform (workshop disk seed) given
  for (parts, text) in disk.changesSince finish.disk do
    writeFile (.ofParts parts) text
  let stop ← IO.monoMsNow
  for line in finish.printed (stop - start) do
    IO.println line
  for complaint in finish.complaint do
    IO.eprintln ("Error: " ++ complaint)
  return finish.exitCode.toUInt32

end VuePrecompiler.Main

/-- Carry out a call; a disk that cannot be written makes it fail. -/
def main (given : List String) : IO UInt32 := do
  try VuePrecompiler.Main.call given
  catch error =>
    IO.eprintln s!"Error: {error}"
    return 1
