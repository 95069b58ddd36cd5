import Stylesheet.CommandLine.Usage
import Stylesheet.Settings
import Stylesheet.Text.Alphanumeric

/-!
# Arguments

The arguments are understood in two steps, those up to the command first. In each step the faults
of options come before everything else, then a wish for help or the version, then the values of
options, and last the other arguments.
-/

namespace Stylesheet

namespace CommandLine

namespace Outcome

def success (output : String) : Outcome :=
  ⟨0, plainText output, "", none⟩

def refusal (s : Scope) (f : UsageFault) : Outcome :=
  ⟨2, "", plainText (f.complaint s), none⟩

end Outcome

def wish? (s : Scope) (g : Given) : Option Outcome :=
  g.options.findSome? fun o =>
    if o.1 = "--help" then some (.success s.help)
    else if o.1 = "--version" then some (.success ("minicss, version " ++ version ++ "\n"))
    else none

/-- The arguments of a scope, unless there is a fault or a wish among the options. -/
def parseScope (s : Scope) (mixed : Bool) (arguments : List String) : Except Outcome Given := do
  let g ← (parseOptions s.options mixed arguments).mapError fun f => .refusal s (.option f)
  match wish? s g with
  | some o => throw o
  | none => return g

/-- The level of this name, in any case. -/
def parseLevel (value : String) : Except Outcome Level :=
  match logLevels.find? fun l => l.name = value.map Char.toUpper with
  | some l => .ok l
  | none => .error (.refusal none (.badLevel value))

/-- The command of this name. A name that starts like an option asks for help. -/
def parseName (name : String) : Except Outcome Command :=
  match Command.ofName? name with
  | some c => .ok c
  | none =>
    if name.toList.head?.any fun c => !isAlphanumeric c then .error (.success (Scope.help none))
    else .error (.refusal none (.unknownCommand name))

/-- The arguments up to the command: the level of the log, the command, and what follows. -/
def parseStart (arguments : List String) : Except Outcome (Level × Command × List String) := do
  if arguments.isEmpty then throw (.success (Scope.help none))
  let g ← parseScope none false arguments
  let settings : Settings := {}
  let l ← parseLevel ((g.value? "--log-level").getD settings.logLevel)
  match g.arguments with
  | [] => throw (.refusal none .missingCommand)
  | name :: rest => return (l, ← parseName name, rest)

def parseCommand (files : Files) (c : Command) (arguments : List String) :
    Except Outcome (String × String) := do
  let g ← parseScope (some c) true arguments
  let settings : Settings := {}
  match g.arguments with
  | [] => throw (.refusal (some c) .missingFile)
  | path :: extra =>
    if hasNull path then throw ⟨1, "", "", some (.unreadable .nullInPath)⟩
    match files path with
    | .file _ => pure ()
    | .directory => throw (.refusal (some c) (.directory path))
    | _ => throw (.refusal (some c) (.noSuchFile path))
    match extra with
    | [] => return (path, (g.value? "--encoding").getD settings.encoding)
    | e :: es => throw (.refusal (some c) (.extraArguments e es))

/-- The call that the arguments ask for, if they can be used and the file exists. -/
def understand (files : Files) : Dispatch := fun arguments => do
  let (l, c, rest) ← parseStart arguments
  let (path, encoding) ← parseCommand files c rest
  return ⟨l, c, path, encoding⟩

end CommandLine

end Stylesheet
