import Stylesheet.CommandLine.Options
import Stylesheet.CommandLine.Program

/-!
# Usage

The program has two commands, and takes some options before the name of the command and others
after it. This is what it says about itself, and about arguments that it cannot use.
-/

namespace Stylesheet

namespace CommandLine

namespace Command

def name : Command → String
  | print => "show"
  | check => "check"

def ofName? (name : String) : Option Command :=
  [print, check].find? fun c => c.name = name

end Command

/-- Where the arguments are being looked at: before the command, or behind it. -/
abbrev Scope := Option Command

namespace Scope

def path : Scope → String
  | none => "minicss"
  | some c => "minicss " ++ c.name

def usage : Scope → String
  | none => "Usage: minicss [OPTIONS] COMMAND [ARGS]...\n"
  | some c => "Usage: minicss " ++ c.name ++ " [OPTIONS] CSSFILE\n"

def options : Scope → List OptionSpec
  | none => [⟨"--version", false⟩, ⟨"--log-level", true⟩, ⟨"--help", false⟩]
  | some _ => [⟨"--encoding", true⟩, ⟨"--help", false⟩]

def about : Scope → List String
  | none =>
    ["  minicss - parse a small subset of CSS and report syntax errors.",
      "",
      "Options:",
      "  --version                       Show the version and exit.",
      "  --log-level [DEBUG|INFO|WARNING|ERROR]",
      "                                  Logging level",
      "  --help                          Show this message and exit.",
      "",
      "Commands:",
      "  check  Parse a stylesheet without printing it.",
      "  show   Parse a stylesheet and print each rule with its declarations."]
  | some .print =>
    ["  Parse a stylesheet and print each rule with its declarations."] ++ fileOptions
  | some .check =>
    ["  Parse a stylesheet without printing it.",
      "",
      "  Exits with code 0 if the file parses, or code 1 after printing the diagnostics",
      "  if it does not."] ++ fileOptions
where
  fileOptions : List String :=
    ["",
      "Options:",
      "  --encoding TEXT  Source file encoding",
      "  --help           Show this message and exit."]

def help (s : Scope) : String :=
  s.usage ++ "\n" ++ String.join (s.about.map fun line => line ++ "\n")

end Scope

inductive UsageFault where
  | option (f : OptionFault)
  | badLevel (value : String)
  | missingCommand
  | unknownCommand (name : String)
  | missingFile
  | noSuchFile (path : String)
  | directory (path : String)
  | extraArguments (first : String) (others : List String)
deriving DecidableEq

def logLevels : List Level := [.debug, .info, .warning, .error]

namespace UsageFault

def quote (s : String) : String :=
  String.ofList (quoted s.toList)

def optionMessage : OptionFault → String
  | .unknown name [] => "No such option: " ++ name
  | .unknown name [similar] => "No such option: " ++ name ++ " Did you mean " ++ similar ++ "?"
  | .unknown name similar =>
    "No such option: " ++ name ++ " (Possible options: " ++ ", ".intercalate similar ++ ")"
  | .missingValue name => "Option " ++ quote name ++ " requires an argument."
  | .unwantedValue name => "Option " ++ quote name ++ " does not take a value."

def message : UsageFault → String
  | option f => optionMessage f
  | badLevel value =>
    "Invalid value for '--log-level': " ++ quote value ++ " is not one of "
      ++ ", ".intercalate (logLevels.map fun l => quote l.name) ++ "."
  | missingCommand => "Missing command."
  | unknownCommand name => "No such command " ++ quote name ++ "."
  | missingFile => "Missing argument 'CSSFILE'."
  | noSuchFile path => "Invalid value for 'CSSFILE': File " ++ quote path ++ " does not exist."
  | directory path => "Invalid value for 'CSSFILE': File " ++ quote path ++ " is a directory."
  | extraArguments argument [] => "Got unexpected extra argument (" ++ argument ++ ")"
  | extraArguments argument arguments =>
    "Got unexpected extra arguments (" ++ " ".intercalate (argument :: arguments) ++ ")"

/-- A fault in the value of an option is told without the usage of the scope. -/
def showsUsage : UsageFault → Bool
  | option (.missingValue _) => false
  | option (.unwantedValue _) => false
  | _ => true

def complaint (s : Scope) (f : UsageFault) : String :=
  (if f.showsUsage then
    s.usage ++ "Try '" ++ s.path ++ " --help' for help.\n\n"
  else "") ++ "Error: " ++ f.message ++ "\n"

end UsageFault

end CommandLine

end Stylesheet
