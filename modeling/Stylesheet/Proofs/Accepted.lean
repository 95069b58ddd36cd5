import Stylesheet.Proofs.Breach
import Stylesheet.Run

/-!
# The accepted texts

A text is accepted exactly if the grammar derives it, and the sheet that comes out is the one it is
derived for: reading loses nothing of a derived text, and what the grammar does not derive breaks
it and is refused. So the grammar derives no text for two sheets, however the blanks are laid out.
-/

namespace Stylesheet

theorem Sheet.read_eq_ok {text : List Char} {s : Sheet} :
    Sheet.read text = .ok s ↔ Sheet.Derives text s := by
  refine ⟨fun h => ?_, Sheet.read_derives⟩
  rcases Sheet.derives_or_breaks text with ⟨s', hs⟩ | ⟨b, k, hb⟩
  · rw [Sheet.read_derives hs] at h
    cases h
    exact hs
  · rw [Sheet.read_breaks hb] at h
    cases h

theorem Sheet.Derives.unique {text : List Char} {s s' : Sheet} (h : Sheet.Derives text s)
    (h' : Sheet.Derives text s') : s = s' := by
  have := Sheet.read_derives h
  rw [Sheet.read_derives h'] at this
  exact (Except.ok.inj this).symm

/-- Reading accepts what the grammar derives, as the sheet that it derives it for, and nothing
else; and the grammar derives it for no other. -/
theorem Sheet.parse_eq_ok (text : List Char) :
    (∀ s, Sheet.parse text = .ok s ↔ Sheet.Derives text s) ∧
      ∀ s s', Sheet.Derives text s → Sheet.Derives text s' → s = s' := by
  refine ⟨fun s => ?_, fun s s' h h' => h.unique h'⟩
  rw [Sheet.parse, mapError_eq_ok]
  exact Sheet.read_eq_ok

end Stylesheet
