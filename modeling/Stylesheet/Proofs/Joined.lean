import Stylesheet.Proofs.Steps

/-!
# Joined texts

Derived texts can be put together: declarations behind those of a block, rules behind those of a
sheet, and a whole sheet behind another one. What a sheet starts with are blanks, and in front of
them stands a rule or nothing but blanks, so blanks may follow any sheet
(`Sheet.Derives.append_blanks`).
-/

namespace Stylesheet

/-- A declaration may stand right in front of others. -/
theorem Declaration.Derives.cons {s t : List Char} {d : Declaration} {ds : List Declaration}
    (h : Declaration.Derives s d) (hds : Declaration.DerivesAll t ds) :
    Declaration.DerivesAll (s ++ t) (d :: ds) := by
  have hall := Declaration.DerivesAll.cons h isBlanks_nil hds
  rwa [List.append_nil] at hall

/-- So may a rule. -/
theorem Rule.Derives.cons {s t : List Char} {r : Rule} {rs : List Rule}
    (h : Rule.Derives s r) (hrs : Rule.DerivesAll t rs) :
    Rule.DerivesAll (s ++ t) (r :: rs) := by
  have hall := Rule.DerivesAll.cons h isBlanks_nil hrs
  rwa [List.append_nil] at hall

theorem Declaration.DerivesAll.append {s t : List Char} {ds es : List Declaration}
    (h : Declaration.DerivesAll s ds) (h' : Declaration.DerivesAll t es) :
    Declaration.DerivesAll (s ++ t) (ds ++ es) := by
  induction h with
  | nil => exact h'
  | cons hd hw _ ih => simpa using Declaration.DerivesAll.cons hd hw ih

theorem Rule.DerivesAll.append {s t : List Char} {rs qs : List Rule}
    (h : Rule.DerivesAll s rs) (h' : Rule.DerivesAll t qs) :
    Rule.DerivesAll (s ++ t) (rs ++ qs) := by
  induction h with
  | nil => exact h'
  | cons hr hw _ ih => simpa using Rule.DerivesAll.cons hr hw ih

theorem Rule.DerivesAll.append_blanks {s w : List Char} {rs : List Rule}
    (h : Rule.DerivesAll s rs) (hw : IsBlanks w) :
    s = [] ∧ rs = [] ∨ Rule.DerivesAll (s ++ w) rs := by
  induction h with
  | nil => exact .inl ⟨rfl, rfl⟩
  | @cons s w' t r rs hr hw' hrs ih =>
    refine .inr ?_
    rcases ih with ⟨rfl, rfl⟩ | ih
    · -- This is the last rule, and the blanks go on those behind it.
      have hlast := Rule.DerivesAll.cons hr (hw'.append hw) .nil
      simpa using hlast
    · rw [List.append_assoc]
      exact .cons hr hw' ih

theorem Sheet.Derives.append_blanks {v w : List Char} {s : Sheet} (h : Sheet.Derives v s)
    (hw : IsBlanks w) : Sheet.Derives (v ++ w) s := by
  obtain ⟨hw', hs⟩ := h
  rcases hs.append_blanks hw with ⟨rfl, rfl⟩ | hs
  · have hall := Sheet.Derives.mk (hw'.append hw) .nil
    simpa using hall
  · rw [List.append_assoc]
    exact .mk hw' hs

theorem Sheet.Derives.append {v t : List Char} {s s' : Sheet} (h : Sheet.Derives v s)
    (h' : Sheet.Derives t s') : Sheet.Derives (v ++ t) ⟨s.rules ++ s'.rules⟩ := by
  obtain ⟨hw, hs'⟩ := h'
  have hv := h.append_blanks hw
  rw [← List.append_assoc]
  generalize v ++ _ = v' at hv
  obtain ⟨hw', hs⟩ := hv
  rw [List.append_assoc]
  exact .mk hw' (hs.append hs')

theorem Sheet.Derives.append_rule {v t : List Char} {s : Sheet} {r : Rule}
    (hv : Sheet.Derives v s) (hr : Rule.Derives t r) :
    Sheet.Derives (v ++ t) ⟨s.rules ++ [r]⟩ := by
  have hlast := hr.cons .nil
  rw [List.append_nil] at hlast
  exact hv.append (.mk isBlanks_nil hlast)

theorem OpenBlock.append_declaration {u t : List Char} {d : Declaration} (hu : OpenBlock u)
    (hd : Declaration.Derives t d) : OpenBlock (u ++ t) := by
  obtain ⟨hv, hsel, h₁, h₂, hds⟩ := hu
  have hlast := hd.cons .nil
  rw [List.append_nil] at hlast
  rw [List.append_assoc]
  exact .mk hv hsel h₁ h₂ (hds.append hlast)

end Stylesheet
