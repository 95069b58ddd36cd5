/-!
# Shortened texts

A text that may only take some number of bytes in UTF-8 is cut there. A character that is cut
through has lost its last bytes and is replaced.
-/

namespace Stylesheet

/-- What stands for a character that is cut through. -/
def replacement : Char := '\uFFFD'

/-- The first `n` bytes of a text. -/
def shortened (n : Nat) : List Char → List Char
  | [] => []
  | c :: cs =>
    if c.utf8Size ≤ n then c :: shortened (n - c.utf8Size) cs
    else if n = 0 then [] else [replacement]

end Stylesheet
