/-!
# Classes of characters

A class of characters of all scripts is given by the ranges of its code points, in order. Each
range holds its first member, but not its second.
-/

namespace Stylesheet

def inRanges (ranges : List (Nat × Nat)) (n : Nat) : Bool :=
  ranges.any fun (first, stop) => first ≤ n && n < stop

end Stylesheet
