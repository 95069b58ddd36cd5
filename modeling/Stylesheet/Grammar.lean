import Stylesheet.Sheet
import Stylesheet.Text.Alphabet

/-!
# The grammar

Which texts a sheet can be written as, said without reading them. A text is put together from
words, blanks and punctuation, and the relations say which sheet it stands for. Blanks are free
wherever they may stand at all, so a sheet has many texts.
-/

namespace Stylesheet

/-- A run of blanks, which may be empty. -/
def IsBlanks (w : List Char) : Prop :=
  ∀ c ∈ w, isBlank c = true

/-- A run of letters, which may not be empty. -/
def IsWord (w : List Char) : Prop :=
  w ≠ [] ∧ ∀ c ∈ w, isLetter c = true

instance (w : List Char) : Decidable (IsBlanks w) :=
  decidable_of_iff (w.all isBlank = true) List.all_eq_true

instance (w : List Char) : Decidable (IsWord w) :=
  decidable_of_iff ((!w.isEmpty && w.all isLetter) = true) (by simp [IsWord])

/-- The texts of a declaration. -/
inductive Declaration.Derives : List Char → Declaration → Prop where
  | mk (p : Property) {w₁ w₂ value : List Char} :
    IsBlanks w₁ → IsBlanks w₂ → IsWord value →
      Derives (p.name.toList ++ w₁ ++ ':' :: w₂ ++ value ++ [';']) ⟨p, String.ofList value⟩

/-- The texts of declarations in a block, each with the blanks behind it. -/
inductive Declaration.DerivesAll : List Char → List Declaration → Prop where
  | nil : DerivesAll [] []
  | cons {s w t : List Char} {d : Declaration} {ds : List Declaration} :
    Declaration.Derives s d → IsBlanks w → DerivesAll t ds → DerivesAll (s ++ w ++ t) (d :: ds)

/-- The texts of a rule. -/
inductive Rule.Derives : List Char → Rule → Prop where
  | mk {selector w₁ w₂ block : List Char} {ds : List Declaration} :
    IsWord selector → IsBlanks w₁ → IsBlanks w₂ → Declaration.DerivesAll block ds →
      Derives (selector ++ w₁ ++ '\x7b' :: w₂ ++ block ++ ['\x7d']) ⟨String.ofList selector, ds⟩

/-- The texts of rules, each with the blanks behind it. -/
inductive Rule.DerivesAll : List Char → List Rule → Prop where
  | nil : DerivesAll [] []
  | cons {s w t : List Char} {r : Rule} {rs : List Rule} :
    Rule.Derives s r → IsBlanks w → DerivesAll t rs → DerivesAll (s ++ w ++ t) (r :: rs)

/-- The texts of a sheet. -/
inductive Sheet.Derives : List Char → Sheet → Prop where
  | mk {w s : List Char} {rs : List Rule} :
    IsBlanks w → Rule.DerivesAll s rs → Derives (w ++ s) ⟨rs⟩

/-- The texts that come before a declaration, or before the end of its block. -/
inductive OpenBlock : List Char → Prop where
  | mk {v selector w₁ w₂ block : List Char} {s : Sheet} {ds : List Declaration} :
    Sheet.Derives v s → IsWord selector → IsBlanks w₁ → IsBlanks w₂ →
      Declaration.DerivesAll block ds → OpenBlock (v ++ selector ++ w₁ ++ '\x7b' :: w₂ ++ block)

end Stylesheet
