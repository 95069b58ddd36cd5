import Stylesheet.Proofs.Places
import Stylesheet.Text.Parts

/-!
# Lines of a text

A text is parted at its line feeds into lines, and what holds of texts of one line and is kept by
putting a line in front holds of every text (`lines_induction`). The line that is shown with an
offset has no line feed in it, and it is without the carriage returns that the line ends in. Where
an offset is outside the text, all this is that of the nearer end.
-/

namespace Stylesheet

/-! ## Parts -/

theorem partsAt_eq_splitOn (c : Char) (s : List Char) : partsAt c s = s.splitOn c := by
  induction s with
  | nil => rfl
  | cons d s ih =>
    rw [partsAt, ih, List.splitOn_cons_eq_if_modifyHead]
    by_cases h : d = c
    · simp [h]
    · rcases hs : s.splitOn c with _ | ⟨part, parts⟩
      · exact absurd hs (List.splitOn_ne_nil c s)
      · simp [h]

theorem partsAt_of_notMem {c : Char} {u : List Char} (h : c ∉ u) : partsAt c u = [u] := by
  rw [partsAt_eq_splitOn, List.splitOn_eq_singleton h]

theorem partsAt_append_cons {c : Char} {u : List Char} (h : c ∉ u) (v : List Char) :
    partsAt c (u ++ c :: v) = u :: partsAt c v := by
  rw [partsAt_eq_splitOn, partsAt_eq_splitOn, List.splitOn_append_cons_self_of_not_mem h]

theorem append_cons_inj {c : Char} {u u' s s' : List Char} (hu : c ∉ u) (hu' : c ∉ u')
    (h : u ++ c :: s = u' ++ c :: s') : u = u' ∧ s = s' := by
  have hparts := congrArg (partsAt c) h
  rw [partsAt_append_cons hu, partsAt_append_cons hu'] at hparts
  obtain ⟨rfl, -⟩ := List.cons.inj hparts
  exact ⟨rfl, (List.cons.inj (List.append_cancel_left h)).2⟩

/-! ## One line after the other -/

/-- A text is one line, or a line and the text behind it. -/
@[elab_as_elim]
theorem lines_induction {motive : List Char → Prop} (last : ∀ s, '\n' ∉ s → motive s)
    (more : ∀ s t, '\n' ∉ s → motive t → motive (s ++ '\n' :: t)) (text : List Char) :
    motive text := by
  induction hn : text.length using Nat.strongRecOn generalizing text with | ind n ih =>
  by_cases h : '\n' ∈ text
  · obtain ⟨s, t, rfl, hs⟩ := List.eq_append_cons_of_mem h
    refine more s t hs (ih t.length ?_ t rfl)
    rw [← hn, List.length_append, List.length_cons]
    omega
  · exact last text h

theorem length_partsAt_newline (text : List Char) :
    (partsAt '\n' text).length = text.count '\n' + 1 := by
  induction text using lines_induction with
  | last s hs => simp [partsAt_of_notMem hs, List.count_eq_zero.2 hs]
  | more s t hs ih => simp [partsAt_append_cons hs, ih, List.count_eq_zero.2 hs]

theorem newline_notMem_of_mem_partsAt {text line : List Char} (h : line ∈ partsAt '\n' text) :
    '\n' ∉ line := by
  induction text using lines_induction with
  | last s hs =>
    rw [partsAt_of_notMem hs, List.mem_singleton] at h
    exact h ▸ hs
  | more s t hs ih =>
    rw [partsAt_append_cons hs] at h
    rcases List.mem_cons.1 h with rfl | h
    · exact hs
    · exact ih h

/-- The first line of the second text goes on with the last line of the first. -/
theorem exists_partsAt_append {u : List Char} (hu : '\n' ∉ u) (v : List Char) :
    ∃ behind, partsAt '\n' (u ++ v) = (u ++ firstLine v) :: behind := by
  by_cases h : '\n' ∈ v
  · obtain ⟨s, t, rfl, hs⟩ := List.eq_append_cons_of_mem h
    have hus : '\n' ∉ u ++ s := by simp [hu, hs]
    exact ⟨partsAt '\n' t, by
      rw [firstLine_newline hs, ← List.append_assoc, partsAt_append_cons hus]⟩
  · have huv : '\n' ∉ u ++ v := by simp [hu, h]
    exact ⟨[], by rw [firstLine_of_notMem h, partsAt_of_notMem huv]⟩

/-! ## The line shown -/

theorem exists_dropFinalReturns (line : List Char) :
    ∃ n, line = dropFinalReturns line ++ List.replicate n '\r' := by
  let w := line.reverse.takeWhile (· = '\r')
  have hw : w = List.replicate w.length '\r' :=
    List.eq_replicate_iff.2 ⟨rfl, fun c hc => by
      simpa using List.all_eq_true.1 List.all_takeWhile c hc⟩
  refine ⟨w.length, ?_⟩
  rw [dropFinalReturns, ← List.reverse_replicate, ← hw, ← List.reverse_append,
    List.takeWhile_append_dropWhile, List.reverse_reverse]

theorem getLast?_dropFinalReturns_ne (line : List Char) :
    (dropFinalReturns line).getLast? ≠ some '\r' := by
  intro h
  rw [dropFinalReturns, List.getLast?_reverse] at h
  have hfirst := List.head?_dropWhile_not (· = '\r') line.reverse
  rw [h] at hfirst
  simp at hfirst

theorem newline_notMem_lineAt (u v : List Char) : '\n' ∉ lineAt (u ++ v) u.length := by
  obtain ⟨n, hn⟩ := exists_dropFinalReturns (lastLine u ++ firstLine v)
  rw [lineAt_append]
  intro h
  have hmem : '\n' ∈ lastLine u ++ firstLine v := by
    rw [hn]
    exact List.mem_append_left _ h
  rcases List.mem_append.1 hmem with h | h
  · exact newline_notMem_lastLine u h
  · exact newline_notMem_firstLine v h

/-! ## Offsets outside the text -/

namespace Location

/-- The nearer end of the text, if the offset is outside. -/
def clamp (text : List Char) (offset : Int) : Int :=
  max 0 (min offset text.length)

theorem clamp_clamp (text : List Char) (offset : Int) :
    clamp text (clamp text offset) = clamp text offset := by
  unfold clamp
  omega

theorem before_clamp (text : List Char) (offset : Int) :
    before text (clamp text offset) = before text offset := by
  unfold before clamp
  rw [List.take_eq_take_iff]
  omega

theorem after_clamp (text : List Char) (offset : Int) :
    after text (clamp text offset) = after text offset := by
  unfold after clamp
  by_cases h : offset ≤ text.length
  · congr 1
    omega
  · rw [List.drop_eq_nil_of_le (by omega), List.drop_eq_nil_of_le (by omega)]

theorem ofOffset_clamp (text : List Char) (offset : Int) :
    ofOffset text (clamp text offset) = ofOffset text offset := by
  unfold ofOffset lineBefore
  rw [before_clamp]

theorem lineAt_clamp (text : List Char) (offset : Int) :
    lineAt text (clamp text offset) = lineAt text offset := by
  unfold lineAt lineBefore lineAfter
  rw [before_clamp, after_clamp]

theorem exists_cut (text : List Char) (offset : Int) :
    ∃ u v, text = u ++ v ∧ clamp text offset = u.length := by
  refine ⟨before text offset, after text offset, (List.take_append_drop _ _).symm, ?_⟩
  unfold before clamp
  rw [List.length_take]
  omega

end Location

end Stylesheet
