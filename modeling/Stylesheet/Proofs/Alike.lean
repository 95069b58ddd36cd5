import Stylesheet.Proofs.Accepted
import Stylesheet.Proofs.Rejected

/-!
# Two texts that fare alike

Two texts fare alike if both are accepted or both are rejected, and then for the same cause and
with as much said about it. How the two sheets are related, and the places of the two failures, is
left open: it depends on what the two texts have to do with each other.

What a text is rejected with is decided by its breach (`Breach.At.parse_eq`), so two texts fare
alike as soon as the grammar derives both or both break it in the same way (`Sheet.alike`). The
breach cuts the text in two, but never inside a run of blanks (`Breach.At.exists_parted`).
-/

namespace Stylesheet

inductive Alike (sheets : Sheet → Sheet → Prop) (reports : Report → Report → Prop) :
    Except Trouble Sheet → Except Trouble Sheet → Prop where
  | accepted {s s' : Sheet} : sheets s s' → Alike sheets reports (.ok s) (.ok s')
  | rejected {a a' : Announcement} :
    a'.report.cause = a.report.cause → a'.report.texts.length = a.report.texts.length →
      reports a.report a'.report →
      Alike sheets reports (.error (.failed a)) (.error (.failed a'))

/-! ## Where a breach is -/

/-- No run of blanks goes on from the one text into the other. -/
def Parted (u v : List Char) : Prop :=
  EndsRun isBlank u.reverse ∨ EndsRun isBlank v

theorem parted_singleton {c : Char} (hc : isBlank c = false) (u v : List Char) :
    Parted (u ++ [c]) v := by
  refine .inl ?_
  rw [List.reverse_append]
  exact endsRun_cons.2 hc

theorem IsWord.parted {w : List Char} (hw : IsWord w) (u v : List Char) : Parted (u ++ w) v := by
  refine .inl ?_
  rw [List.reverse_append]
  exact hw.reverse.endsRun _

theorem Breach.At.exists_parted {text : List Char} {b : Breach} {k : Nat} (h : b.At text k) :
    ∃ u v, text = u ++ v ∧ k = u.length ∧ Parted u v := by
  cases h with
  | selector _ hc _ => exact ⟨_, _, rfl, rfl, .inr (endsRun_cons.2 hc)⟩
  | opening _ _ _ _ hs _ => exact ⟨_, _, rfl, rfl, .inr hs⟩
  | closing _ => exact ⟨_, _, (List.append_nil _).symm, rfl, .inr (endsRun_nil _)⟩
  | name _ hc _ _ => exact ⟨_, _, rfl, rfl, .inr (endsRun_cons.2 hc)⟩
  | property _ hn _ _ => exact ⟨_, _, List.append_assoc _ _ _, rfl, .inr (hn.endsRun _)⟩
  | colon _ _ _ _ hs _ => exact ⟨_, _, rfl, rfl, .inr hs⟩
  | value _ _ _ _ hs _ => exact ⟨_, _, rfl, rfl, .inr hs⟩
  -- Blanks may come next here, but what stands before them is a word.
  | semicolon _ _ _ _ hv _ _ => exact ⟨_, _, rfl, rfl, hv.parted _ _⟩

/-! ## What a breach is rejected with -/

/-- All that is reported of a breach. -/
def Breach.report (text : List Char) (b : Breach) (k : Nat) : Report :=
  ⟨b.cause, k, some (Location.ofOffset text k).line, some (Location.ofOffset text k).column,
    (Notice.point text k b.cause.message).toText :: (b.part.map Part.note).toList⟩

def Breach.announcement (text : List Char) (b : Breach) (k : Nat) : Announcement :=
  ⟨b.report text k, (b.report text k).texts⟩

section

variable {text text' : List Char} {b : Breach} {k k' : Nat}
variable {sheets : Sheet → Sheet → Prop} {reports : Report → Report → Prop}

theorem Breach.At.parse_eq (h : b.At text k) :
    Sheet.parse text = .error (.failed (b.announcement text k)) := by
  obtain ⟨⟨⟨cause, offset, line, column, texts⟩, sent⟩, ha, rfl, rfl, ht⟩ := h.exists_announcement
  obtain ⟨hplace, htexts, hsent⟩ := ht
  obtain ⟨hline, hcolumn⟩ := Report.place_eq_some.1 hplace
  dsimp only at hline hcolumn htexts hsent
  rw [ha, hsent, htexts, hline, hcolumn]
  rfl

theorem Breach.length_texts :
    (b.report text' k').texts.length = (b.report text k).texts.length := by
  simp only [report, List.length_cons]

theorem Sheet.exists_at_of_parse {a : Announcement}
    (ha : Sheet.parse text = .error (.failed a)) :
    ∃ b k, Breach.At b text k ∧ a = b.announcement text k := by
  rcases Sheet.exists_at text with ⟨s, hs⟩ | ⟨b, k, h⟩
  · rw [hs] at ha
    cases ha
  · rw [h.parse_eq] at ha
    cases ha
    exact ⟨b, k, h, rfl⟩

theorem Sheet.derives_of_parse {s : Sheet} (h : Sheet.parse text = .ok s) :
    Sheet.Derives text s :=
  Sheet.read_eq_ok.1 (mapError_eq_ok.1 h)

theorem Breach.At.alike (h : b.At text k) (h' : b.At text' k')
    (hr : reports (b.report text k) (b.report text' k')) :
    Alike sheets reports (Sheet.parse text) (Sheet.parse text') := by
  rw [h.parse_eq, h'.parse_eq]
  exact .rejected rfl Breach.length_texts hr

theorem Sheet.alike
    (hs : ∀ s, Sheet.Derives text s → ∃ s', Sheet.Derives text' s' ∧ sheets s s')
    (hb : ∀ b k, Breach.At b text k →
      ∃ k', Breach.At b text' k' ∧ reports (b.report text k) (b.report text' k')) :
    Alike sheets reports (Sheet.parse text) (Sheet.parse text') := by
  rcases Sheet.exists_at text with ⟨s, hp⟩ | ⟨b, k, h⟩
  · obtain ⟨s', h', hsheets⟩ := hs s (Sheet.derives_of_parse hp)
    rw [hp, Sheet.parse_derives h']
    exact .accepted hsheets
  · obtain ⟨k', h', hr⟩ := hb b k h
    exact h.alike h' hr

end

end Stylesheet
