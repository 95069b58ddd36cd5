/-!
# Parts of a text

A text is parted at every place of one character, such as into lines at its line feeds. There is
one part more than there are such places, so the empty text is one empty part.
-/

namespace Stylesheet

/-- The parts between the places of `c`. -/
def partsAt (c : Char) : List Char → List (List Char)
  | [] => [[]]
  | d :: ds =>
    if d = c then [] :: partsAt c ds
    else
      match partsAt c ds with
      | [] => [[d]]
      | part :: parts => (d :: part) :: parts

end Stylesheet
