/-!
# Locations

An offset into a text is shown as a line and a column. Lines are counted from one and columns
from zero, both in characters, and only a line feed ends a line. An offset outside the text
counts as the nearer end of the text.
-/

namespace Stylesheet

structure Location where
  line : Nat
  column : Nat
deriving DecidableEq

namespace Location

def before (text : List Char) (offset : Int) : List Char :=
  text.take offset.toNat

def after (text : List Char) (offset : Int) : List Char :=
  text.drop offset.toNat

def lineBefore (text : List Char) (offset : Int) : List Char :=
  ((before text offset).reverse.takeWhile (· ≠ '\n')).reverse

def lineAfter (text : List Char) (offset : Int) : List Char :=
  (after text offset).takeWhile (· ≠ '\n')

def ofOffset (text : List Char) (offset : Int) : Location :=
  ⟨(before text offset).count '\n' + 1, (lineBefore text offset).length⟩

end Location

/-- The text without the carriage returns that it ends in. -/
def dropFinalReturns (line : List Char) : List Char :=
  (line.reverse.dropWhile (· = '\r')).reverse

/-- The whole line of the offset, without its end. -/
def lineAt (text : List Char) (offset : Int) : List Char :=
  dropFinalReturns (Location.lineBefore text offset ++ Location.lineAfter text offset)

end Stylesheet
