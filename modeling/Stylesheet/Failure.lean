import Stylesheet.Text.Template

/-!
# Failures

Reading stops at the first thing that is wrong. A failure says what was wrong and at which offset
of the text. It is announced on its way out: whoever it passes may take a step for that, which
points at an offset with a message or only adds a note. A failure that nobody took a step for is
never heard of.
-/

namespace Stylesheet

inductive Cause where
  /-- Anything that has no form of its own. -/
  | other (message : String)
  /-- A word was needed, and no letter stands here. -/
  | noWord
  /-- This one character was needed. -/
  | missing (expected : String)
  /-- A declaration sets a property that does not exist. -/
  | unknownProperty (name : String)
deriving DecidableEq

def Cause.message : Cause → String
  | other message => message
  | noWord => "Expected valid identifier."
  | missing expected => "Expected syntax: '" ++ expected ++ "'."
  | unknownProperty name => "Unknown property: '" ++ name ++ "'."

/-- The two words of a declaration. -/
inductive Part where
  | name
  | value
deriving DecidableEq

/-- What is added to the notice when this word could not be read. -/
def Part.note : Part → String
  | name => "Could not parse property name."
  | value => "Could not parse property value."

/-- A step that points somewhere has a template for its message, and arguments for that. -/
inductive Step (α : Type) where
  | point (offset : Int) (template : String) (arguments : List α)
  | note (text : String)
deriving DecidableEq

structure Failure where
  cause : Cause
  offset : Int
  /-- The steps taken to announce it, first to last. -/
  steps : List (Step Template.Argument)
deriving DecidableEq

namespace Failure

/-- The failure pointed at where it was met, with its message as it is. -/
def pointed (f : Failure) : Failure :=
  { f with steps := f.steps ++ [.point f.offset f.cause.message []] }

/-- The failure met while reading this word of a declaration. -/
def within (part : Part) (f : Failure) : Failure :=
  { f with steps := f.steps ++ [.note part.note] }

/-- A failure pointed at with a message that the name is filled into. -/
def unknownProperty (name : String) (offset : Int) : Failure :=
  ⟨.unknownProperty name, offset, [.point offset "Unknown property: '%s'." [.text name]]⟩

end Failure

end Stylesheet
