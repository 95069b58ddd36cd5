import Stylesheet.Text.Location

/-!
# Places in a text

An offset cuts a text in two. The line and the column there are those of the end of the first part,
and the line that is shown is put together from the end of the first part and the start of the
second. So a place only moves with what is put in front of the text (`Location.ofOffset_behind`),
and nothing that comes behind the line is ever looked at.
-/

namespace Stylesheet

def firstLine (v : List Char) : List Char :=
  v.takeWhile (· ≠ '\n')

/-- What stands behind the last line feed. -/
def lastLine (u : List Char) : List Char :=
  (firstLine u.reverse).reverse

theorem lastLine_newline (s t : List Char) : lastLine (s ++ '\n' :: t) = lastLine t := by
  unfold lastLine firstLine
  rw [List.reverse_append, List.reverse_cons, List.append_assoc, List.singleton_append,
    List.takeWhile_append, List.takeWhile_cons_of_neg (by simp), List.append_nil]
  split
  · rename_i h
    have htake := (List.takeWhile_prefix (fun c : Char => decide (c ≠ '\n'))).eq_of_length h
    rw [htake]
  · rfl

theorem lastLine_append {u : List Char} (h : '\n' ∉ u) (front : List Char) :
    lastLine (front ++ u) = lastLine front ++ u := by
  have hu : ∀ c ∈ u.reverse, decide (c ≠ '\n') = true := by
    intro c hc
    simpa using fun hn : c = '\n' => h (hn ▸ List.mem_reverse.1 hc)
  unfold lastLine firstLine
  rw [List.reverse_append, List.takeWhile_append_of_pos hu, List.reverse_append,
    List.reverse_reverse]

theorem lastLine_of_notMem {u : List Char} (h : '\n' ∉ u) : lastLine u = u :=
  lastLine_append h []

theorem firstLine_append_of_notMem {u : List Char} (h : '\n' ∉ u) (v : List Char) :
    firstLine (u ++ v) = u ++ firstLine v := by
  refine List.takeWhile_append_of_pos fun c hc => ?_
  simpa using fun hn : c = '\n' => h (hn ▸ hc)

theorem firstLine_of_notMem {u : List Char} (h : '\n' ∉ u) : firstLine u = u := by
  simpa [firstLine] using firstLine_append_of_notMem h []

theorem firstLine_newline {u : List Char} (h : '\n' ∉ u) (t : List Char) :
    firstLine (u ++ '\n' :: t) = u := by
  simpa [firstLine] using firstLine_append_of_notMem h ('\n' :: t)

theorem firstLine_append {v : List Char} (h : '\n' ∈ v) (t : List Char) :
    firstLine (v ++ t) = firstLine v := by
  obtain ⟨s, s', rfl⟩ := List.append_of_mem h
  unfold firstLine
  simp [List.takeWhile_append]

/-- The column of an offset moves only if it is still on the first line. -/
theorem length_lastLine_append (front u : List Char) :
    (lastLine (front ++ u)).length = if 1 < u.count '\n' + 1 then (lastLine u).length
      else (lastLine u).length + (lastLine front).length := by
  by_cases h : '\n' ∈ u
  · have hcount := List.count_pos_iff.2 h
    obtain ⟨s, t, rfl⟩ := List.append_of_mem h
    rw [if_pos (by omega), ← List.append_assoc, lastLine_newline, lastLine_newline]
  · have hcount := List.count_eq_zero.2 h
    rw [if_neg (by omega), lastLine_append h, lastLine_of_notMem h, List.length_append,
      Nat.add_comm]

theorem exists_firstLine (v : List Char) : ∃ rest, v = firstLine v ++ rest :=
  ⟨_, List.takeWhile_append_dropWhile.symm⟩

theorem exists_lastLine (u : List Char) : ∃ front, u = front ++ lastLine u := by
  obtain ⟨rest, h⟩ := exists_firstLine u.reverse
  exact ⟨rest.reverse, by rw [lastLine, ← List.reverse_append, ← h, List.reverse_reverse]⟩

theorem newline_notMem_firstLine (v : List Char) : '\n' ∉ firstLine v := by
  intro h
  have hall := List.all_eq_true.1 (List.all_takeWhile (p := fun c : Char => decide (c ≠ '\n'))) _ h
  simp at hall

theorem newline_notMem_lastLine (u : List Char) : '\n' ∉ lastLine u :=
  fun h => newline_notMem_firstLine _ (List.mem_reverse.1 h)

namespace Location

variable (u v : List Char)

theorem lineBefore_append : lineBefore (u ++ v) u.length = lastLine u := by
  simp [lineBefore, before, lastLine, firstLine]

theorem lineAfter_append : lineAfter (u ++ v) u.length = firstLine v := by
  simp [lineAfter, after, firstLine]

theorem ofOffset_append :
    ofOffset (u ++ v) u.length = ⟨u.count '\n' + 1, (lastLine u).length⟩ := by
  simp [ofOffset, lineBefore_append, before]

/-- An offset in front of the text counts as its start. -/
theorem ofOffset_of_nonpos {offset : Int} (h : offset ≤ 0) (text : List Char) :
    ofOffset text offset = ⟨1, 0⟩ := by
  have hnat : offset.toNat = 0 := by omega
  simp [ofOffset, lineBefore, before, hnat]

/-- The place of the same character when all of this comes in front of the text. -/
def behind (front : List Char) (l : Location) : Location :=
  ⟨l.line + front.count '\n', if 1 < l.line then l.column else l.column + (lastLine front).length⟩

theorem ofOffset_behind (front : List Char) :
    ofOffset (front ++ (u ++ v)) (front.length + u.length : Nat)
      = (ofOffset (u ++ v) u.length).behind front := by
  have hline : (front ++ u).count '\n' + 1 = u.count '\n' + 1 + front.count '\n' := by
    rw [List.count_append]
    omega
  rw [← List.append_assoc, ← List.length_append, ofOffset_append, ofOffset_append, hline,
    length_lastLine_append]
  rfl

end Location

theorem lineAt_append (u v : List Char) :
    lineAt (u ++ v) u.length = dropFinalReturns (lastLine u ++ firstLine v) := by
  rw [lineAt, Location.lineBefore_append, Location.lineAfter_append]

end Stylesheet
