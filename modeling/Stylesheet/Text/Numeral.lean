/-!
# Numerals

Integers are written in decimal digits, with a hyphen in front of those below zero. A numeral has
4300 digits at most where there is a limit to them.
-/

namespace Stylesheet

def decimal (n : Int) : List Char :=
  if n < 0 then '-' :: Nat.toDigits 10 n.natAbs else Nat.toDigits 10 n.natAbs

/-- The integer has more digits than the limit. -/
def isTooLong (n : Int) : Bool :=
  4300 < (Nat.toDigits 10 n.natAbs).length

end Stylesheet
