/-!
# Blanks and letters

The two classes of characters that the language of sheets is made of, beside its punctuation.
Both are classes of ASCII characters: no other space is a blank, and no accented letter a letter.
-/

namespace Stylesheet

/-- Space, tab, line feed, carriage return, vertical tab and form feed. -/
def isBlank (c : Char) : Bool :=
  c = ' ' || c = '\t' || c = '\n' || c = '\r' || c = '\x0b' || c = '\x0c'

/-- The letters `A` to `Z` and `a` to `z`. -/
def isLetter (c : Char) : Bool :=
  c.isAlpha

theorem isLetter_eq_false_of_isBlank {c : Char} (h : isBlank c = true) : isLetter c = false := by
  simp only [isBlank, Bool.or_eq_true, decide_eq_true_eq] at h
  rcases h with ((((h | h) | h) | h) | h) | h <;> subst h <;> decide

end Stylesheet
