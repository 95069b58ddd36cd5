import Stylesheet.Log
import Stylesheet.Source
import Stylesheet.Text.Terminal

/-!
# The program

The program is asked for one of two commands on a file, or for nothing that it has to run. The file
is read, and the run over it is shown: what it logs and what it sends on goes to the error output in
the order in which it happens, and the result to the output only if the whole file is a sheet. What
is written, records of the log apart, is written without terminal sequences.

How the arguments are understood is left open here: it is a function from them to a call, or to an
outcome if there is nothing to call.
-/

namespace Stylesheet

namespace CommandLine

inductive Command where
  /-- Prints the sheet. -/
  | print
  /-- Only says that there is one. -/
  | check
deriving DecidableEq

inductive Crash where
  | unreadable (u : Unreadable)
  | outside (o : Outside)
  | template (f : Template.Fault)
deriving DecidableEq

def Crash.message : Crash → String
  | unreadable u => u.message
  | outside o => o.message
  | template f => f.message

structure Outcome where
  exitCode : Nat
  output : String
  errors : String
  crash : Option Crash
deriving DecidableEq

/-- What the arguments ask for. -/
structure Call where
  /-- The level of the logger above all others. -/
  level : Level
  command : Command
  path : String
  encoding : String

/-- Understands the arguments. -/
abbrev Dispatch := List String → Except Outcome Call

def showEvent (l : Level) (e : Event) : String :=
  match e with
  | .sent text => plainText text ++ "\n"
  | e =>
    let r := Record.ofEvent e
    match r.message with
    | .ok message =>
      if r.isKept [.notSet, l] then r.level.name ++ " " ++ r.logger ++ ": " ++ message ++ "\n"
      else ""
    | .error _ => ""

def answer (c : Command) (path : String) (s : Sheet) : String :=
  match c with
  | .print => s.toText
  | .check =>
    "OK: " ++ Path.lastName path ++ " (" ++ String.ofList (decimal s.rules.length)
      ++ " rule(s), " ++ String.ofList (decimal s.declarations.length) ++ " declaration(s))\n"

def execute (files : Files) (call : Call) : Outcome :=
  match Sheet.runFile files call.path call.encoding with
  | .error u => ⟨1, "", "", some (.unreadable u)⟩
  | .ok run =>
    let errors := String.join (run.events.map (showEvent call.level))
    match run.outcome with
    | .ok s => ⟨0, plainText (answer call.command call.path s), errors, none⟩
    | .error (.failed _) => ⟨1, "", errors, none⟩
    | .error (.outside o) => ⟨1, "", errors, some (.outside o)⟩
    | .error (.template f) => ⟨1, "", errors, some (.template f)⟩

def run (dispatch : Dispatch) (files : Files) (arguments : List String) : Outcome :=
  match dispatch arguments with
  | .error o => o
  | .ok call => execute files call

end CommandLine

end Stylesheet
