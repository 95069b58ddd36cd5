import Mathlib
import Stylesheet.Proofs.Lines

/-!
# Places in lines

The line and the column of an offset are said by counting what stands before it. The same place is
found in the lines that the text is parted into: an offset is what the lines before it and its own
column take up (`Location.Marks`). So the offsets of a text are the places in its lines, in their
order, and no place is lost or met twice (`Location.ofOffset_lines`).
-/

namespace Stylesheet

/-- How much of a text these lines take up, each with its line feed. -/
def lengthOfLines (lines : List (List Char)) : Nat :=
  (lines.map fun line => line.length + 1).sum

theorem partsAt_append (u v : List Char) :
    ∃ before behind, partsAt '\n' (u ++ v) = before ++ (lastLine u ++ firstLine v) :: behind ∧
      before.length = u.count '\n' ∧ lengthOfLines before + (lastLine u).length = u.length := by
  induction u using lines_induction with
  | last s hs =>
    obtain ⟨behind, h⟩ := exists_partsAt_append hs v
    exact ⟨[], behind, by rw [h, lastLine_of_notMem hs]; rfl, by simp [List.count_eq_zero.2 hs],
      by simp [lengthOfLines, lastLine_of_notMem hs]⟩
  | more s t hs ih =>
    obtain ⟨before, behind, h, hcount, hlength⟩ := ih
    refine ⟨s :: before, behind, ?_, ?_, ?_⟩
    · rw [lastLine_newline, List.append_assoc, List.cons_append, partsAt_append_cons hs, h]
      rfl
    · simp [List.count_eq_zero.2 hs, hcount]
    · unfold lengthOfLines at hlength ⊢
      rw [lastLine_newline, List.length_append, List.length_cons, List.map_cons, List.sum_cons]
      omega

namespace Location

theorem clamp_of_mem {text : List Char} {offset : Int}
    (h : offset ∈ Set.Icc 0 (text.length : Int)) : clamp text offset = offset := by
  obtain ⟨h₀, h₁⟩ := h
  unfold clamp
  omega

/-- Places in their order, the line first. -/
def order (l : Location) : ℕ ×ₗ ℕ :=
  toLex (l.line, l.column)

/-- The lines have this place, in one of them or at its end. -/
structure IsIn (lines : List (List Char)) (l : Location) : Prop where
  line_pos : 1 ≤ l.line
  line_le : l.line ≤ lines.length
  column_le : ∃ line, lines[l.line - 1]? = some line ∧ l.column ≤ line.length

/-- The offset of a place, counted in the lines. -/
def offsetIn (lines : List (List Char)) (l : Location) : Nat :=
  l.column + lengthOfLines (lines.take (l.line - 1))

/-- The place is that of the offset in the lines of the text, and the line shown is the one that it
is in. -/
structure Marks (text : List Char) (offset : Int) (l : Location) : Prop where
  isIn : l.IsIn (partsAt '\n' text)
  offset_eq : clamp text offset = l.offsetIn (partsAt '\n' text)
  line_eq : ∃ n, (partsAt '\n' text)[l.line - 1]?
    = some (lineAt text offset ++ List.replicate n '\r')
  line_end : (lineAt text offset).getLast? ≠ some '\r'
  char_eq : ∀ h : l.column < (lineAt text offset).length,
    text[(clamp text offset).toNat]? = some (lineAt text offset)[l.column]

variable (u v : List Char)

theorem char_append (h : (lastLine u).length < (lineAt (u ++ v) u.length).length) :
    (u ++ v)[u.length]? = some (lineAt (u ++ v) u.length)[(lastLine u).length] := by
  obtain ⟨n, hn⟩ := exists_dropFinalReturns (lastLine u ++ firstLine v)
  rw [← lineAt_append] at hn
  have hkept : (lineAt (u ++ v) u.length ++ List.replicate n '\r')[(lastLine u).length]?
      = (lineAt (u ++ v) u.length)[(lastLine u).length]? := List.getElem?_append_left h
  have hshown : (firstLine v)[0]? = some (lineAt (u ++ v) u.length)[(lastLine u).length] := by
    rw [← List.getElem?_eq_getElem h, ← hkept, ← hn, List.getElem?_append_right (Nat.le_refl _),
      Nat.sub_self]
  rw [List.getElem?_append_right (Nat.le_refl _), Nat.sub_self, ← hshown]
  -- Something of the line comes at the place, so the text goes on with it.
  obtain ⟨rest, hrest⟩ := exists_firstLine v
  rcases hv : firstLine v with _ | ⟨c, line⟩
  · simp [hv] at hshown
  · rw [hrest, hv]
    rfl

theorem marks_append : Marks (u ++ v) u.length (ofOffset (u ++ v) u.length) := by
  obtain ⟨before, behind, hparts, hcount, hlength⟩ := partsAt_append u v
  obtain ⟨n, hn⟩ := exists_dropFinalReturns (lastLine u ++ firstLine v)
  have hclamp : clamp (u ++ v) u.length = u.length := by
    unfold clamp
    rw [List.length_append]
    omega
  rw [ofOffset_append, ← hcount]
  have hline : (partsAt '\n' (u ++ v))[before.length + 1 - 1]?
      = some (lastLine u ++ firstLine v) := by
    simp [hparts]
  refine ⟨⟨by simp, ?_, lastLine u ++ firstLine v, hline, by simp⟩, ?_, ⟨n, ?_⟩, ?_, ?_⟩
  · simp [hparts]
  · rw [hclamp, offsetIn, hparts, Nat.add_sub_cancel, List.take_left, Nat.add_comm, hlength]
  · rw [hline, lineAt_append, ← hn]
  · rw [lineAt_append]
    exact getLast?_dropFinalReturns_ne _
  · rw [hclamp]
    exact char_append u v

theorem marks_ofOffset (text : List Char) (offset : Int) :
    Marks text offset (ofOffset text offset) := by
  obtain ⟨u, v, rfl, hclamp⟩ := exists_cut text offset
  obtain ⟨hin, hoffset, hline, hend, hchar⟩ := marks_append u v
  simp only [← hclamp, ofOffset_clamp, lineAt_clamp, clamp_clamp] at hin hoffset hline hend hchar
  exact ⟨hin, hoffset, hline, hend, hchar⟩

/-! ## Every place is that of one offset -/

variable {text : List Char} {l : Location}

theorem exists_column {s : List Char} {column : Nat} (hs : '\n' ∉ s) (hc : column ≤ s.length)
    (t : List Char) :
    ∃ u v, s ++ t = u ++ v ∧ u.count '\n' = 0 ∧ (lastLine u).length = column := by
  have hu : '\n' ∉ s.take column := fun h => hs (List.mem_of_mem_take h)
  refine ⟨s.take column, s.drop column ++ t, ?_, List.count_eq_zero.2 hu, ?_⟩
  · rw [← List.append_assoc, List.take_append_drop]
  · rw [lastLine_of_notMem hu, List.length_take, Nat.min_eq_left hc]

theorem exists_cut_of_getElem? {line : List Char} {k column : Nat}
    (h : (partsAt '\n' text)[k]? = some line) (hc : column ≤ line.length) :
    ∃ u v, text = u ++ v ∧ u.count '\n' = k ∧ (lastLine u).length = column := by
  induction text using lines_induction generalizing k with
  | last s hs =>
    rw [partsAt_of_notMem hs, List.getElem?_singleton] at h
    split at h
    · rename_i hk
      obtain rfl := Option.some.inj h
      simpa [hk] using exists_column hs hc []
    · cases h
  | more s t hs ih =>
    rw [partsAt_append_cons hs] at h
    rcases k with _ | k
    · obtain rfl : s = line := by simpa using h
      exact exists_column hs hc ('\n' :: t)
    · obtain ⟨u, v, rfl, hcount, hlength⟩ := ih h
      refine ⟨s ++ '\n' :: u, v, by simp, ?_, by rw [lastLine_newline, hlength]⟩
      simp [List.count_eq_zero.2 hs, hcount]

theorem IsIn.exists_cut (h : l.IsIn (partsAt '\n' text)) :
    ∃ u v, text = u ++ v ∧ ofOffset text u.length = l := by
  obtain ⟨hpos, -, line, hline, hcolumn⟩ := h
  obtain ⟨u, v, rfl, hcount, hlength⟩ := exists_cut_of_getElem? hline hcolumn
  refine ⟨u, v, rfl, ?_⟩
  rw [ofOffset_append, hcount, hlength, Nat.sub_add_cancel hpos]

theorem line_ofOffset_mono {a b : Int} (h : a ≤ b) :
    (ofOffset text a).line ≤ (ofOffset text b).line := by
  have hle : before text a <+: before text b :=
    List.take_prefix_take_left (Int.toNat_le_toNat h)
  exact Nat.succ_le_succ (hle.sublist.count_le '\n')

theorem strictMonoOn_ofOffset (text : List Char) :
    StrictMonoOn (fun offset => (ofOffset text offset).order) (Set.Icc 0 text.length) := by
  intro a ha b hb hab
  have hoffset := (marks_ofOffset text a).offset_eq
  have hoffset' := (marks_ofOffset text b).offset_eq
  rw [clamp_of_mem ha, offsetIn] at hoffset
  rw [clamp_of_mem hb, offsetIn] at hoffset'
  refine Prod.Lex.toLex_lt_toLex'.2 ⟨line_ofOffset_mono hab.le, fun hline => ?_⟩
  dsimp only at hline ⊢
  rw [hline] at hoffset
  omega

/-- The places of the offsets of a text are the places in its lines, each met once and in order, and
what is shown with a place is its line. -/
theorem ofOffset_lines (text : List Char) :
    ['\n'].intercalate (partsAt '\n' text) = text ∧
      (∀ line ∈ partsAt '\n' text, '\n' ∉ line) ∧
      (partsAt '\n' text).length = text.count '\n' + 1 ∧
      (∀ offset, Marks text offset (ofOffset text offset)) ∧
      Set.BijOn (ofOffset text) (Set.Icc 0 text.length) {l | l.IsIn (partsAt '\n' text)} ∧
      StrictMonoOn (fun offset => (ofOffset text offset).order) (Set.Icc 0 text.length) := by
  refine ⟨?_, fun line => newline_notMem_of_mem_partsAt, length_partsAt_newline text,
    marks_ofOffset text, ⟨?_, ?_, ?_⟩, strictMonoOn_ofOffset text⟩
  · rw [partsAt_eq_splitOn, List.intercalate_splitOn]
  · intro offset _
    exact (marks_ofOffset text offset).isIn
  · intro a ha b hb hab
    rw [← clamp_of_mem ha, ← clamp_of_mem hb, (marks_ofOffset text a).offset_eq, hab,
      (marks_ofOffset text b).offset_eq]
  · intro l hl
    obtain ⟨u, v, rfl, h⟩ := IsIn.exists_cut hl
    exact ⟨u.length, ⟨by omega, by rw [List.length_append]; omega⟩, h⟩

end Location

end Stylesheet
