/-!
# Rounding

A number is rounded to its first digits in some base, so to a multiple of a power of the base. It
goes to the nearest one, and from the middle between two to the one whose last digit is even.
-/

namespace Stylesheet

def nearestQuotient (n d : Nat) : Nat :=
  let q := n / d
  let r := n % d
  if 2 * r < d || (2 * r = d && q % 2 = 0) then q else q + 1

/-- The power of the base that a number is a rounded multiple of when so many digits are kept. -/
def roundingUnit (base places n : Nat) : Nat :=
  Nat.pow base ((Nat.toDigits base n).length - places)

/-- The number with all but its first digits rounded away. -/
def roundDigits (base places n : Nat) : Nat :=
  nearestQuotient n (roundingUnit base places n) * roundingUnit base places n

end Stylesheet
