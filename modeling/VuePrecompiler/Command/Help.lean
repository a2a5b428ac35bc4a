/-!
# Help

What is printed for the version, for the short help and for the long help.
-/

namespace VuePrecompiler.Command

def programName : String := "coolie-vue"

def versionLine : String := programName ++ " 0.1.0"

structure OptionHelp where
  /-- The letter of the option, if it has one. -/
  letter : Option Char
  /-- The name of the option, and the name of its value. -/
  usage : String
  description : String
  /-- What the short help adds. -/
  note : String
  /-- The lines that the long help adds. -/
  details : List String

/-- The options, in order.  `help` describes the help option itself. -/
def optionHelps (help : String) : List OptionHelp :=
  [⟨some 'w', "--workspace <WORKSPACE>",
    "Workspace directory to search for coolie.config.json", "", []⟩,
    ⟨some 'c', "--config <CONFIG>", "Path to coolie.config.json", "", []⟩,
    ⟨some 'o', "--out-dir <OUT_DIR>",
      "Directory to write rewritten modules and render modules to", "", []⟩,
    ⟨none, "--output <OUTPUT>", "Output format",
      " [default: human] [possible values: human, json, machine]",
      ["          ", "          [default: human]", "", "          Possible values:",
        "          - human:   Human-readable output",
        "          - json:    JSON output, one object per line",
        "          - machine: Machine-readable output"]⟩,
    ⟨none, "--ignore <IGNORE>",
      "Ignore patterns (glob), relative to the source directory", "", []⟩,
    ⟨none, "--dry-run", "Report what would change without writing anything", "", []⟩,
    ⟨none, "--fail-on-warning", "Fail on warnings", "", []⟩,
    ⟨some 'v', "--verbose", "Verbose output", "", []⟩,
    ⟨some 'h', "--help", help, "", []⟩,
    ⟨some 'V', "--version", "Print version", "", []⟩]

/-- An option with its letter, indented. -/
def OptionHelp.label (option : OptionHelp) : String :=
  option.letter.elim "      " (fun letter => s!"  -{letter}, ") ++ option.usage

/-- A text and blanks up to a width. -/
def padded (width : Nat) (text : String) : String :=
  text ++ String.ofList (List.replicate (width - text.length) ' ')

/-- The lines that help begins with. -/
def helpHead : List String :=
  ["Run the coolie-mid-vue middleware over a source tree", "",
    "Usage: coolie-vue [OPTIONS]", "", "Options:"]

/-- Help with one line for each option. -/
def shortHelp : List String :=
  let options := optionHelps "Print help (see more with '--help')"
  let width := (options.map fun option => option.label.length).foldl max 0
  helpHead ++ options.map fun option =>
    padded (width + 2) option.label ++ option.description ++ option.note

/-- Help with a paragraph for each option. -/
def longHelp : List String :=
  let options := optionHelps "Print help (see a summary with '-h')"
  let paragraph (option : OptionHelp) :=
    option.label :: ("          " ++ option.description) :: option.details
  helpHead ++ ((options.map paragraph).intersperse [""]).flatten

end VuePrecompiler.Command
