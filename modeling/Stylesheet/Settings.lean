/-!
# Settings

What the program takes where it is told nothing else.
-/

namespace Stylesheet

/-- The version of the program. -/
def version : String := "0.1.0"

structure Settings where
  encoding : String := "utf-8"
  logLevel : String := "WARNING"

end Stylesheet
