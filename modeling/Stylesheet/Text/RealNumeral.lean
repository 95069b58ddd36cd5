import Stylesheet.Text.Filler
import Stylesheet.Text.Rounding

/-!
# Whole numbers as real numbers

A whole number can be written as a real number in three ways: with places behind the point, as one
digit and places with an exponent of ten, or in the shorter of these for the digits that are to be
shown. It is first taken for the nearest real number of 53 binary digits; from 2 ^ 1024 on there is
none. A point with nothing behind it is left out, unless the number is marked as real. A number that
there is no room for is not written.
-/

namespace Stylesheet

namespace RealNumeral

/-- The real number that a whole number is taken for. -/
def nearest? (n : Nat) : Option Nat :=
  let r := roundDigits 2 53 n
  if r < Nat.pow 2 1024 then some r else none

def fraction (marked : Bool) (places : List Char) : List Char :=
  if places.isEmpty && !marked then [] else '.' :: places

def fixed (room : Room) (marked : Bool) (places n : Nat) : Option (List Char) :=
  (copies? room places '0').map fun zeros => Nat.toDigits 10 n ++ fraction marked zeros

/-- Digits with the point behind the first one and an exponent of two digits or more. -/
def withExponent (letter : Char) (marked : Bool) (digits : List Char) (exponent : Nat) :
    List Char :=
  let e := Nat.toDigits 10 exponent
  digits.take 1 ++ fraction marked (digits.drop 1)
    ++ [letter, '+'] ++ (if e.length < 2 then '0' :: e else e)

/-- A number of so many digits with an exponent. -/
def scientific (room : Room) (letter : Char) (marked : Bool) (count n : Nat) :
    Option (List Char) :=
  let digits := Nat.toDigits 10 (roundDigits 10 count n)
  (copies? room (count - digits.length) '0').map fun zeros =>
    withExponent letter marked (digits.take count ++ zeros) (digits.length - 1)

/-- A number of at most so many digits, with an exponent if it would need more before the point.
Zeros at the end are shown only if the number is marked. -/
def shorter (room : Room) (letter : Char) (marked : Bool) (count n : Nat) :
    Option (List Char) :=
  let digits := Nat.toDigits 10 (roundDigits 10 count n)
  if count < digits.length then
    let kept := if marked then digits.take count
      else (digits.reverse.dropWhile (· = '0')).reverse
    some (withExponent letter marked kept (digits.length - 1))
  else
    (if marked then copies? room (count - digits.length) '0' else some []).map fun zeros =>
      digits ++ fraction marked zeros

end RealNumeral

end Stylesheet
