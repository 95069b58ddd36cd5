import Stylesheet.Run

/-!
# The log

What a run does can be followed in a log. Each completed rule and the completed sheet are worth a
record for debugging, and each text sent is an error. The message of a record is made from a
template and arguments. A logger keeps the records of its level and above; if it has no level of
its own, its level is that of the nearest logger above it that has one.
-/

namespace Stylesheet

/-- How much a record matters. Every integer is a level, and some have names. -/
abbrev Level := Int

namespace Level

/-- A logger at this level has none of its own. -/
def notSet : Level := 0

def debug : Level := 10

def info : Level := 20

def warning : Level := 30

def error : Level := 40

def critical : Level := 50

def names : List (Level × String) :=
  [(notSet, "NOTSET"), (debug, "DEBUG"), (info, "INFO"), (warning, "WARNING"), (error, "ERROR"),
    (critical, "CRITICAL")]

def name (l : Level) : String :=
  (names.lookup l).getD ("Level " ++ String.ofList (decimal l))

def ofName? (name : String) : Option Level :=
  (names.find? fun l => l.2 = name).map Prod.fst

/-- The level of a logger, from its own level and those of the loggers above it, the nearest
first. -/
def effective (levels : List Level) : Level :=
  (levels.find? (· ≠ notSet)).getD notSet

end Level

def ownLogger : String := "minicss"

structure Record where
  level : Level
  logger : String
  message : Except Template.Fault String

namespace Record

/-- The record of a text that was sent on; the text is taken as it is. A logger without a name is
the root of all. -/
def ofText (logger text : String) : Record :=
  ⟨.error, if logger = "" then "root" else logger, Template.fill none "%s" [.text text]⟩

def ofRule (r : Rule) : Record :=
  ⟨.debug, ownLogger, Template.fill none "Parsed rule %r with %d declaration(s)"
    [.text r.selector, .number r.declarations.length]⟩

def ofSheet (s : Sheet) : Record :=
  ⟨.debug, ownLogger, Template.fill none "Parsed sheet with %d rule(s)"
    [.number s.rules.length]⟩

def ofEvent : Event → Record
  | .rule r => ofRule r
  | .sheet s => ofSheet s
  | .sent text => ofText ownLogger text

def isKept (levels : List Level) (r : Record) : Bool :=
  Level.effective levels ≤ r.level

end Record

def Run.log (levels : List Level) (r : Run) : List Record :=
  (r.events.map Record.ofEvent).filter (Record.isKept levels)

def logTexts (logger : String) (levels : List Level) (texts : List String) : List Record :=
  (texts.map (Record.ofText logger)).filter (Record.isKept levels)

end Stylesheet
