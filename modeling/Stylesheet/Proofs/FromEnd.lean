import Stylesheet.Proofs.Local
import Stylesheet.Proofs.Places

/-!
# Positions counted from the end

A position below zero counts from the end of the text, and a cursor placed there meets the end of
the text and then the whole text from its start. So it meets what a cursor meets at the position
that is counted to, and more. A production that only looks at the part that both meet cannot tell
the one from the other (`LocalOn`): it does the same, at positions that are less by the length of
the text.

A word is cut out of the text between two positions, and that goes wrong where the second one is
not below zero any more. Behind every word that is kept, another character of the same production
is still looked at, so the cursor only comes to zero behind the last character that it takes.
-/

namespace Stylesheet

/-- What comes of parsing at this position, which counts from the end of the text, is what comes of
it at the position that is counted to, as far as the end of the text does not matter. A failure is
then placed at the start of the text, as its offset is below zero. -/
def FromEnd {α : Type} (text : List Char) (start : Int)
    (parse : List Char → Int → Except Trouble (α × Cursor)) : Prop :=
  match parse text (start + text.length) with
  | .ok (x, c) => ∃ c', parse text start = .ok (x, c') ∧ c'.pos = c.pos - text.length
  | .error (.failed a) => a.report.decided text < text.length → ∃ a',
      parse text start = .error (.failed a')
        ∧ a'.report.cause = a.report.cause
        ∧ a'.report.texts.length = a.report.texts.length
        ∧ a'.report.offset = a.report.offset - text.length
        ∧ a'.report.place = some ⟨1, 0⟩
  | .error _ => False

section FromEnd

variable {α : Type} {text : List Char} {start : Int}
  {read : Cursor → Except Failure (α × Cursor)}

theorem Announcement.Tells.length_texts {a a' : Announcement} {part : Option Part}
    (h : a.Tells text part) (h' : a'.Tells text part) :
    a'.report.texts.length = a.report.texts.length := by
  rw [h.texts, h'.texts, List.length_cons, List.length_cons]

theorem fromEnd_of_localAt {i : Nat} (hi : start + text.length = i) (hneg : start < 0)
    (h : LocalAt read text i) : FromEnd text start fun text start => parseAt text start read := by
  dsimp only [FromEnd]
  have hbelow : Cursor.place text start = .ok ⟨text.length, start, text.drop i ++ text⟩ :=
    Cursor.place_below (by omega) (by omega)
  have hlen : (text.drop i).length = text.length - i := List.length_drop
  rw [hi]
  rcases h with @⟨u, r, x, hs, hok, hread⟩ | @⟨b, k, a, ha, hcause, hoffset, htells, hcut⟩
  · rw [hs, List.length_append] at hlen
    rw [hs, List.append_assoc] at hbelow
    rw [hok]
    refine ⟨_, parseAt_ok hbelow (hread _ start _ (.inr (by omega))), ?_⟩
    dsimp only
    omega
  · rw [ha]
    intro hdecided
    obtain ⟨u, c, r, hs, hd, hk, hread⟩ := hcut hdecided
    rw [hs, List.append_assoc, List.cons_append] at hbelow
    obtain ⟨a', ha', hcause', hoffset', htells'⟩ :=
      parseAt_breach hbelow (hread _ start _ (.inr (by omega)))
    refine ⟨a', ha', by rw [hcause', hcause], htells.length_texts htells', ?_, ?_⟩
    · rw [hoffset', hoffset]
      omega
    · rw [htells'.place, Location.ofOffset_of_nonpos (by omega)]

end FromEnd

/-- A declaration and a rule are read from a position below zero as they are from the position that
it counts to, up to the end of the text. -/
theorem parse_fromEnd (text : List Char) (start : Int) (hlow : -(text.length : Int) ≤ start)
    (hneg : start < 0) :
    FromEnd text start Declaration.parseAt ∧ FromEnd text start Rule.parseAt := by
  obtain ⟨i, hi⟩ := Int.eq_ofNat_of_zero_le (show 0 ≤ start + text.length by omega)
  exact ⟨fromEnd_of_localAt hi hneg (Declaration.localOn _).localAt,
    fromEnd_of_localAt hi hneg (Rule.localOn _).localAt⟩

/-- The declaration is the last of the text, and behind it the cursor is at zero. -/
theorem parse_fromEnd_color :
    ∃ c, Declaration.parseAt ['p', '\x7b', 'c', 'o', 'l', 'o', 'r', ':', 'x', ';'] (-8)
        = .ok (⟨.color, "x"⟩, c) ∧ c.pos = 0 := by
  have hup : Declaration.parseAt ['p', '\x7b', 'c', 'o', 'l', 'o', 'r', ':', 'x', ';'] 2
      = .ok (⟨.color, "x"⟩, ⟨10, 10, []⟩) := rfl
  have h := (parse_fromEnd ['p', '\x7b', 'c', 'o', 'l', 'o', 'r', ':', 'x', ';'] (-8)
    (by decide) (by decide)).1
  unfold FromEnd at h
  rw [show (-8 : Int) + (['p', '\x7b', 'c', 'o', 'l', 'o', 'r', ':', 'x', ';'].length : Nat) = 2
    from rfl, hup] at h
  exact h

end Stylesheet
