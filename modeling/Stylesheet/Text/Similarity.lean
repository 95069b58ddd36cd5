/-!
# Similar words

How much two words have in common is measured by the blocks that they share: the longest block
that is in both, and then, in the same way, what is shared before it and after it. Of several
longest blocks the one counts that comes first in the first word, and in the second word if there
is a choice. Two words are similar if they share at least three fifths of their letters.
-/

namespace Stylesheet

namespace Similarity

def commonLength : List Char → List Char → Nat
  | a :: as, b :: bs => if a = b then commonLength as bs + 1 else 0
  | _, _ => 0

/-- A block of characters that two words share. -/
structure Block where
  first : Nat
  second : Nat
  length : Nat

/-- The better of two blocks, where the earlier one is given first. -/
def Block.better (b b' : Block) : Block :=
  if b.length < b'.length then b' else b

def longestBlock (a b : List Char) : Block :=
  let blocks := (List.range a.length).flatMap fun i =>
    (List.range b.length).map fun j => ⟨i, j, commonLength (a.drop i) (b.drop j)⟩
  blocks.foldl Block.better ⟨0, 0, 0⟩

/-- The characters in shared blocks; `depth` bounds how often a word is parted. -/
def sharedWithin : (depth : Nat) → List Char → List Char → Nat
  | 0, _, _ => 0
  | depth + 1, a, b =>
    let k := longestBlock a b
    if k.length = 0 then 0
    else
      sharedWithin depth (a.take k.first) (b.take k.second) + k.length
        + sharedWithin depth (a.drop (k.first + k.length)) (b.drop (k.second + k.length))

/-- The characters in blocks that two words share. A word is parted at most once a character. -/
def shared (a b : List Char) : Nat :=
  sharedWithin a.length a b

end Similarity

/-- Words of which one is far longer than the other are not similar, whatever they share. -/
def isSimilar (a b : String) : Bool :=
  let enough := 3 * (a.length + b.length)
  enough ≤ 10 * min a.length b.length && enough ≤ 10 * Similarity.shared a.toList b.toList

end Stylesheet
