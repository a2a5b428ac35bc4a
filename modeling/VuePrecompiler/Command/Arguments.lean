import VuePrecompiler.Files.Path

/-!
# Arguments

`Arguments.ofList` reads the arguments of the command line.  Arguments that it
refuses are refused for the first reason met from left to right.
-/

namespace VuePrecompiler.Command

open Files

/-- The formats of what is printed. -/
inductive OutputFormat where
  | human
  | json
  | machine
deriving DecidableEq, Repr, Inhabited

/-- The format with a name. -/
def OutputFormat.ofText? : String → Option OutputFormat
  | "human" => some human
  | "json" => some json
  | "machine" => some machine
  | _ => none

/-- What the command line asks for. -/
structure Arguments where
  /-- Where to look for the settings file. -/
  workspace : Option Path
  /-- The settings file. -/
  config : Option Path
  outDir : Option Path
  output : OutputFormat
  ignore : List String
  dryRun : Bool
  failOnWarning : Bool
  verbose : Bool
deriving Repr, Inhabited

/-- What is asked for without arguments. -/
def Arguments.default : Arguments :=
  ⟨none, none, none, .human, [], false, false, false⟩

/-- Why arguments are not carried out. -/
inductive Refusal where
  | unknownArgument
  /-- A value is missing or wrong. -/
  | invalidValue
  /-- An option is given twice. -/
  | argumentConflict
  /-- A value is given to an option that takes none. -/
  | tooManyValues
  /-- Help is asked for. -/
  | help (isLong : Bool)
  /-- The version is asked for. -/
  | version
deriving DecidableEq, Repr, Inhabited

/-- The options that take no value. -/
inductive Switch where
  | dryRun
  | failOnWarning
  | verbose
  | help (isLong : Bool)
  | version
deriving DecidableEq, Repr, Inhabited

/-- The options that take a value. -/
inductive Field where
  | workspace
  | config
  | outDir
  | output
  | ignore
deriving DecidableEq, Repr, Inhabited

/-- The options of the command line. -/
inductive Flag where
  | alone (switch : Switch)
  | withValue (field : Field)
deriving DecidableEq, Repr, Inhabited

/-- The option with a name behind two hyphens. -/
def Flag.ofName? : String → Option Flag
  | "workspace" => some (withValue .workspace)
  | "config" => some (withValue .config)
  | "out-dir" => some (withValue .outDir)
  | "output" => some (withValue .output)
  | "ignore" => some (withValue .ignore)
  | "dry-run" => some (alone .dryRun)
  | "fail-on-warning" => some (alone .failOnWarning)
  | "verbose" => some (alone .verbose)
  | "help" => some (alone (.help true))
  | "version" => some (alone .version)
  | _ => none

/-- The option with a letter behind one hyphen. -/
def Flag.ofLetter? : Char → Option Flag
  | 'w' => some (withValue .workspace)
  | 'c' => some (withValue .config)
  | 'o' => some (withValue .outDir)
  | 'v' => some (alone .verbose)
  | 'h' => some (alone (.help false))
  | 'V' => some (alone .version)
  | _ => none

structure ArgumentsRead where
  arguments : Arguments
  /-- The options read, but those that may repeat. -/
  given : List Flag
  /-- An option whose value is not taken yet, and the value if it was read. -/
  pending : Option (Field × Option String)

namespace ArgumentsRead

/-- Take an option that must not repeat. -/
def once (read : ArgumentsRead) (flag : Flag) : Except Refusal ArgumentsRead :=
  if read.given.contains flag then throw .argumentConflict
  else return { read with given := flag :: read.given }

/-- A path given as a value. -/
def pathValue (value : String) : Except Refusal (Option Path) :=
  if value.isEmpty then throw .invalidValue else return some ⟨value⟩

/-- Take the value of an option. -/
def setField (read : ArgumentsRead) (field : Field) (value : String) :
    Except Refusal ArgumentsRead := do
  let arguments := read.arguments
  match field with
  | .workspace =>
    let read ← read.once (.withValue field)
    return { read with arguments := { arguments with workspace := ← pathValue value } }
  | .config =>
    let read ← read.once (.withValue field)
    return { read with arguments := { arguments with config := ← pathValue value } }
  | .outDir =>
    let read ← read.once (.withValue field)
    return { read with arguments := { arguments with outDir := ← pathValue value } }
  | .output =>
    let read ← read.once (.withValue field)
    match OutputFormat.ofText? value with
    | some format =>
      return { read with arguments := { arguments with output := format } }
    | none => throw .invalidValue
  | .ignore =>
    return { read with arguments := { arguments with
      ignore := arguments.ignore ++ [value] } }

/-- Take the value of the option that waits for one. -/
def settle (read : ArgumentsRead) : Except Refusal ArgumentsRead :=
  match read.pending with
  | none => return read
  | some (_, none) => throw .invalidValue
  | some (field, some value) => setField { read with pending := none } field value

/-- Take an option without a value. -/
def setSwitch (read : ArgumentsRead) (switch : Switch) :
    Except Refusal ArgumentsRead := do
  let read ← read.settle
  let arguments := read.arguments
  match switch with
  | .help isLong => throw (.help isLong)
  | .version => throw .version
  | .dryRun =>
    let read ← read.once (.alone switch)
    return { read with arguments := { arguments with dryRun := true } }
  | .failOnWarning =>
    let read ← read.once (.alone switch)
    return { read with arguments := { arguments with failOnWarning := true } }
  | .verbose =>
    let read ← read.once (.alone switch)
    return { read with arguments := { arguments with verbose := true } }

/-- Read an option whose value, if there is one, follows. -/
def await (read : ArgumentsRead) (field : Field) : Except Refusal ArgumentsRead := do
  return { (← read.settle) with pending := some (field, none) }

def attach (read : ArgumentsRead) (field : Field) (value : List Char) :
    Except Refusal ArgumentsRead := do
  setField (← read.settle) field (String.ofList value)

/-- Read what follows two hyphens. -/
def readName (read : ArgumentsRead) (text : List Char) :
    Except Refusal ArgumentsRead :=
  let name := String.ofList (text.takeWhile (· != '='))
  let value? := (text.dropWhile (· != '=')).tail?
  match Flag.ofName? name, value? with
  | none, _ => throw .unknownArgument
  | some (.alone _), some _ => throw .tooManyValues
  | some (.alone switch), none => read.setSwitch switch
  | some (.withValue field), some value => read.attach field value
  | some (.withValue field), none => read.await field

/-- Read the letters behind one hyphen.  What follows a letter that takes a
value is the value. -/
def readLetters (read : ArgumentsRead) : List Char → Except Refusal ArgumentsRead
  | [] => return read
  | letter :: rest =>
    match Flag.ofLetter? letter with
    | none => throw .unknownArgument
    | some (.alone switch) => do readLetters (← read.setSwitch switch) rest
    | some (.withValue field) =>
      match rest with
      | [] => read.await field
      | '=' :: value => read.attach field value
      | value => read.attach field value

/-- Read an argument that is no option: the value that an option waits for. -/
def readValue (read : ArgumentsRead) (text : String) : Except Refusal ArgumentsRead :=
  match read.pending with
  | some (field, none) => return { read with pending := some (field, some text) }
  | _ => throw .unknownArgument

/-- Read arguments to the last.  Behind two hyphens alone, nothing may follow. -/
def readAll (read : ArgumentsRead) : List String → Except Refusal ArgumentsRead
  | [] => read.settle
  | first :: rest =>
    match first.toList with
    | ['-', '-'] => if rest.isEmpty then read.settle else throw .unknownArgument
    | '-' :: '-' :: text => do readAll (← read.readName text) rest
    | ['-'] => do readAll (← read.readValue first) rest
    | '-' :: text => do readAll (← read.readLetters text) rest
    | _ => do readAll (← read.readValue first) rest

end ArgumentsRead

/-- Read the arguments of the command line. -/
def Arguments.ofList (arguments : List String) : Except Refusal Arguments := do
  return (← ArgumentsRead.readAll ⟨.default, [], none⟩ arguments).arguments

end VuePrecompiler.Command
