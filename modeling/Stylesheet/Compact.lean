import Stylesheet.Sheet

/-!
# Compact texts

The text of a sheet that has no blanks at all.
-/

namespace Stylesheet

def Declaration.compact (d : Declaration) : List Char :=
  d.property.name.toList ++ ':' :: d.value.toList ++ [';']

def Rule.compact (r : Rule) : List Char :=
  r.selector.toList ++ '\x7b' :: r.declarations.flatMap Declaration.compact ++ ['\x7d']

def Sheet.compact (s : Sheet) : List Char :=
  s.rules.flatMap Rule.compact

end Stylesheet
