import Stylesheet.Sheet
import Stylesheet.Text.Quoted

/-!
# Building sheets from plain names

A sheet can be put together without a text to read, from selectors, names of properties and
values. Selectors and values may be any text at all, but every name has to be one of a property.
-/

namespace Stylesheet

structure BadName where
  name : String
deriving DecidableEq

def BadName.message (b : BadName) : String :=
  String.ofList (quoted b.name.toList) ++ " is not a valid PropertyName"

def Property.ofName (name : String) : Except BadName Property :=
  match Property.ofName? name with
  | some p => .ok p
  | none => .error ⟨name⟩

def Declaration.build (d : String × String) : Except BadName Declaration :=
  (Property.ofName d.1).map fun p => ⟨p, d.2⟩

def Rule.build (r : String × List (String × String)) : Except BadName Rule :=
  (r.2.mapM Declaration.build).map fun ds => ⟨r.1, ds⟩

/-- The first bad name, in the order of the rules, is the one that is complained of. -/
def Sheet.build (rules : List (String × List (String × String))) : Except BadName Sheet :=
  (rules.mapM Rule.build).map Sheet.mk

end Stylesheet
