import Stylesheet.Text.Similarity

/-!
# Options

Arguments that start with a hyphen are options, unless they are nothing but the hyphen. An option
may take a value, behind an equals sign or as the next argument. All options have long names; an
unknown one with a single hyphen is called by its first letter. Two hyphens end the options. The
other arguments may stand between the options, or else the first of them ends the options.
-/

namespace Stylesheet

namespace CommandLine

structure OptionSpec where
  name : String
  takesValue : Bool
deriving DecidableEq

inductive OptionFault where
  /-- An option that does not exist, and the names that are similar to it. -/
  | unknown (name : String) (similar : List String)
  | missingValue (name : String)
  | unwantedValue (name : String)
deriving DecidableEq

/-- The options that were given, with their values, and the other arguments, in order. -/
structure Given where
  options : List (String × Option String)
  arguments : List String

/-- The last value that was given for an option. -/
def Given.value? (g : Given) (name : String) : Option String :=
  (g.options.reverse.find? fun o => o.1 = name).bind fun o => o.2

def Given.addOption (g : Given) (name : String) (value : Option String) : Given :=
  { g with options := (name, value) :: g.options }

def Given.addArgument (g : Given) (argument : String) : Given :=
  { g with arguments := argument :: g.arguments }

def isOption (argument : String) : Bool :=
  match argument.toList with
  | '-' :: _ :: _ => true
  | _ => false

/-- The name of an option, and the value behind the first equals sign. -/
def splitValue (argument : String) : String × Option String :=
  let name := argument.toList.takeWhile (· ≠ '=')
  (String.ofList name,
    if argument.toList.contains '=' then
      some (String.ofList (argument.toList.drop (name.length + 1)))
    else none)

def unknownOption (specs : List OptionSpec) (argument : String) : OptionFault :=
  match argument.toList with
  | '-' :: '-' :: _ =>
    let name := (splitValue argument).1
    .unknown name
      (((specs.map OptionSpec.name).filter fun n => isSimilar n name).mergeSort
        fun a b => !(b < a))
  | cs => .unknown (String.ofList (cs.take 2)) []

/-- Sorts arguments into options and others; `mixed` says whether others may come between. -/
def parseOptions (specs : List OptionSpec) (mixed : Bool) :
    List String → Except OptionFault Given
  | [] => .ok ⟨[], []⟩
  | argument :: rest =>
    if argument = "--" then .ok ⟨[], rest⟩
    else if isOption argument then
      let (name, value) := splitValue argument
      match specs.find? fun s => s.name = name, value with
      | none, _ => .error (unknownOption specs argument)
      | some ⟨_, true⟩, some v => (parseOptions specs mixed rest).map (·.addOption name (some v))
      | some ⟨_, true⟩, none =>
        match rest with
        | [] => .error (.missingValue name)
        | v :: rest => (parseOptions specs mixed rest).map (·.addOption name (some v))
      | some ⟨_, false⟩, some _ => .error (.unwantedValue name)
      | some ⟨_, false⟩, none => (parseOptions specs mixed rest).map (·.addOption name none)
    else if mixed then (parseOptions specs mixed rest).map (·.addArgument argument)
    else .ok ⟨[], argument :: rest⟩

end CommandLine

end Stylesheet
