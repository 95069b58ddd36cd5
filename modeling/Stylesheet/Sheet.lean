/-!
# Sheets

A sheet is a list of rules, and a rule is a selector with a list of declarations. Everything is
kept in the order of the source, and repeated selectors or declarations stay repeated. A selector
or a value is carried as the text it was read from; only the name of a property is looked at.
-/

namespace Stylesheet

/-- The properties that a declaration can set. -/
inductive Property where
  | color
  | background
deriving DecidableEq

namespace Property

def name : Property → String
  | color => "color"
  | background => "background"

def all : List Property := [color, background]

/-- The property of this name, compared as it stands, case included. -/
def ofName? (name : String) : Option Property :=
  all.find? fun p => p.name = name

theorem ofName?_name : ∀ p : Property, ofName? p.name = some p
  | color => by decide
  | background => by decide

theorem ofName?_eq_some {name : String} {p : Property} :
    ofName? name = some p ↔ p.name = name := by
  refine ⟨fun h => ?_, fun h => h ▸ ofName?_name p⟩
  simpa using List.find?_some h

end Property

structure Declaration where
  property : Property
  value : String
deriving DecidableEq

def Declaration.toText (d : Declaration) : String :=
  d.property.name ++ ": " ++ d.value

structure Rule where
  selector : String
  declarations : List Declaration
deriving DecidableEq

/-- The selector on a line of its own, an indented line for each declaration, and an empty line. -/
def Rule.toText (r : Rule) : String :=
  "selector: " ++ r.selector ++ "\n"
    ++ String.join (r.declarations.map fun d => "  " ++ d.toText ++ "\n") ++ "\n"

structure Sheet where
  rules : List Rule
deriving DecidableEq

namespace Sheet

def toText (s : Sheet) : String :=
  String.join (s.rules.map Rule.toText)

/-- All declarations of the sheet, rule after rule. -/
def declarations (s : Sheet) : List Declaration :=
  s.rules.flatMap Rule.declarations

end Sheet

end Stylesheet
