import Stylesheet.Text.Alphabet

/-!
# Spacing

What blanks do in a text: where they stand parts words, and nothing else about them matters. A text
can be laid out anew with one space for each run of blanks, or be stripped of all of them.
-/

namespace Stylesheet

/-- One space for each run of blanks; `parted` says that a run of blanks is going on. -/
def collapseFrom (parted : Bool) : List Char → List Char
  | [] => []
  | c :: cs =>
    if isBlank c then
      if parted then collapseFrom true cs else ' ' :: collapseFrom true cs
    else c :: collapseFrom false cs

def collapse (text : List Char) : List Char :=
  collapseFrom false text

def stripBlanks (text : List Char) : List Char :=
  text.filter fun c => !isBlank c

end Stylesheet
