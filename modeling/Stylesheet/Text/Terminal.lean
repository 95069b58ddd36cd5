import Stylesheet.Text.Alphabet

/-!
# Terminal sequences

A terminal takes an escape, an opening bracket, parameters and a letter as one command, such as a
change of colour. Text that does not go to a terminal is written without these sequences.
-/

namespace Stylesheet

/-- The characters that may stand between the bracket and the letter. -/
def isParameter (c : Char) : Bool :=
  c.isDigit || c = ';' || c = '?'

def dropSequences (text : List Char) : List Char :=
  match text with
  | [] => []
  | '\x1b' :: '[' :: rest =>
    match _h : rest.dropWhile isParameter with
    | c :: rest' =>
      if isLetter c then dropSequences rest' else '\x1b' :: dropSequences ('[' :: rest)
    | [] => '\x1b' :: dropSequences ('[' :: rest)
  | c :: rest => c :: dropSequences rest
termination_by text.length
decreasing_by
  · have := (List.dropWhile_suffix (l := rest) isParameter).length_le
    rw [_h] at this
    simp only [List.length_cons] at this ⊢
    omega
  all_goals simp

/-- A text as it is written where there is no terminal. -/
def plainText (s : String) : String :=
  String.ofList (dropSequences s.toList)

end Stylesheet
