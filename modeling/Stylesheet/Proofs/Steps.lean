import Stylesheet.Grammar
import Stylesheet.Reading

/-!
# Steps over a text

What a cursor does is decided by the text ahead of it. It skips a run of blanks up to where the
run ends, reads a word up to where its letters end, and takes one character if it is the right
one. A text is cut at the end of a run in one way only (`exists_run`), so these are all the steps
there are.
-/

namespace Stylesheet

/-! ## Runs -/

/-- A run of such characters does not go on into this text. -/
def EndsRun (p : Char → Bool) (s : List Char) : Prop :=
  ∀ c ∈ s.head?, p c = false

theorem endsRun_nil (p : Char → Bool) : EndsRun p [] := by
  intro c hc
  cases hc

theorem endsRun_cons {p : Char → Bool} {c : Char} {s : List Char} :
    EndsRun p (c :: s) ↔ p c = false := by
  simp [EndsRun]

theorem EndsRun.append {p : Char → Bool} {s : List Char} (hs : EndsRun p s) (hne : s ≠ [])
    (t : List Char) : EndsRun p (s ++ t) := by
  rcases s with _ | ⟨c, s⟩
  · exact absurd rfl hne
  · exact endsRun_cons.2 (endsRun_cons.1 hs)

theorem EndsRun.of_append {p : Char → Bool} {s t : List Char} (h : EndsRun p (s ++ t)) :
    EndsRun p s := by
  rcases s with _ | ⟨c, s⟩
  · exact endsRun_nil p
  · exact endsRun_cons.2 (endsRun_cons.1 h)

/-- Only the first character behind a run decides whether it ends. -/
theorem EndsRun.cut {p : Char → Bool} {w s : List Char} {c : Char} (h : EndsRun p (w ++ c :: s))
    (t : List Char) : EndsRun p (w ++ c :: t) := by
  rw [← List.singleton_append, ← List.append_assoc] at h ⊢
  exact h.of_append.append (by simp) t

theorem EndsRun.cut_cons {p : Char → Bool} {s : List Char} {c : Char} (h : EndsRun p (c :: s))
    (t : List Char) : EndsRun p (c :: t) :=
  h.cut (w := []) t

theorem exists_cons_of_length_lt {u s : List Char} (h : u.length < (u ++ s).length) :
    ∃ c s', s = c :: s' := by
  refine List.exists_cons_of_ne_nil ?_
  rintro rfl
  simp at h

/-- Every text starts with a run, which may be empty. -/
theorem exists_run (p : Char → Bool) (s : List Char) :
    ∃ w rest, s = w ++ rest ∧ (∀ c ∈ w, p c = true) ∧ EndsRun p rest := by
  refine ⟨s.takeWhile p, s.dropWhile p, List.takeWhile_append_dropWhile.symm, ?_, ?_⟩
  · exact fun c hc => List.all_eq_true.1 List.all_takeWhile c hc
  · intro c hc
    have h := List.head?_dropWhile_not p s
    rw [Option.mem_def.1 hc] at h
    simpa using h

theorem takeWhile_run {p : Char → Bool} {w s : List Char} (hw : ∀ c ∈ w, p c = true)
    (hs : EndsRun p s) : (w ++ s).takeWhile p = w := by
  rw [List.takeWhile_append_of_pos hw]
  rcases s with _ | ⟨c, s⟩
  · simp
  · rw [List.takeWhile_cons_of_neg (by simp [endsRun_cons.1 hs]), List.append_nil]

/-! ## Words and blanks -/

theorem isBlanks_nil : IsBlanks [] := by
  intro c hc
  cases hc

theorem IsBlanks.append {w w' : List Char} (h : IsBlanks w) (h' : IsBlanks w') :
    IsBlanks (w ++ w') := by
  intro c hc
  rcases List.mem_append.1 hc with hc | hc
  · exact h c hc
  · exact h' c hc

/-- Before anything else that a text starts with there are no blanks. -/
theorem IsBlanks.eq_nil_of_append {w s t : List Char} {c : Char} (hw : IsBlanks w)
    (h : w ++ s = c :: t) (hc : isBlank c = false) : w = [] ∧ s = c :: t := by
  rcases w with _ | ⟨d, w⟩
  · exact ⟨rfl, h⟩
  · obtain ⟨rfl, -⟩ := List.cons.inj h
    rw [hw d List.mem_cons_self] at hc
    cases hc

theorem isBlank_eq_false_of_isLetter {c : Char} (h : isLetter c = true) : isBlank c = false := by
  rcases hb : isBlank c with _ | _
  · rfl
  · rw [isLetter_eq_false_of_isBlank hb] at h
    cases h

/-- No letter can go on with a run of blanks. -/
theorem IsBlanks.endsRun {w s : List Char} (hw : IsBlanks w) (hs : EndsRun isLetter s) :
    EndsRun isLetter (w ++ s) := by
  rcases w with _ | ⟨c, w⟩
  · exact hs
  · exact endsRun_cons.2 (isLetter_eq_false_of_isBlank (hw c List.mem_cons_self))

theorem IsWord.exists_cons {w : List Char} (hw : IsWord w) :
    ∃ c w', w = c :: w' ∧ isLetter c = true ∧ ∀ d ∈ w', isLetter d = true := by
  obtain ⟨c, w', rfl⟩ := List.exists_cons_of_ne_nil hw.1
  exact ⟨c, w', rfl, hw.2 c List.mem_cons_self, fun d hd => hw.2 d (List.mem_cons_of_mem _ hd)⟩

theorem IsWord.endsRun {w : List Char} (hw : IsWord w) (s : List Char) :
    EndsRun isBlank (w ++ s) := by
  obtain ⟨c, w', rfl, hc, -⟩ := hw.exists_cons
  exact endsRun_cons.2 (isBlank_eq_false_of_isLetter hc)

theorem IsWord.append {w w' : List Char} (hw : IsWord w) (hw' : ∀ c ∈ w', isLetter c = true) :
    IsWord (w ++ w') := by
  refine ⟨fun h => hw.1 (List.append_eq_nil_iff.1 h).1, fun c hc => ?_⟩
  rcases List.mem_append.1 hc with hc | hc
  · exact hw.2 c hc
  · exact hw' c hc

theorem IsWord.reverse {w : List Char} (hw : IsWord w) : IsWord w.reverse :=
  ⟨fun h => hw.1 (List.reverse_eq_nil_iff.1 h), fun c hc => hw.2 c (List.mem_reverse.1 hc)⟩

theorem Property.isWord_name (p : Property) : IsWord p.name.toList := by
  have hall : p.name.toList.all isLetter = true := by cases p <;> rfl
  have hne : p.name.toList.isEmpty = false := by cases p <;> rfl
  exact ⟨fun h => by simp [h] at hne, List.all_eq_true.1 hall⟩

theorem Property.ofName?_eq_none {name : List Char} (h : ∀ p : Property, p.name.toList ≠ name) :
    Property.ofName? (String.ofList name) = none := by
  rcases hp : Property.ofName? (String.ofList name) with _ | p
  · rfl
  · have hname := Property.ofName?_eq_some.1 hp
    exact absurd (by rw [hname, String.toList_ofList]) (h p)

/-! ## Cursors -/

namespace Cursor

variable {n : Nat} {pos : Int}

theorem skipBlanks_blanks {w s : List Char} (hw : IsBlanks w) (hs : EndsRun isBlank s) :
    skipBlanks ⟨n, pos, w ++ s⟩ = ⟨n, pos + w.length, s⟩ := by
  simp only [skipBlanks, advance, takeWhile_run hw hs, List.drop_left]

theorem skipBlanks_endsRun {s : List Char} (hs : EndsRun isBlank s) :
    skipBlanks ⟨n, pos, s⟩ = ⟨n, pos, s⟩ := by
  have h : s.takeWhile isBlank = [] := takeWhile_run (w := []) isBlanks_nil hs
  simp [skipBlanks, advance, h]

/-- Skipping may start anywhere in a run of blanks. -/
theorem skipBlanks_append {w : List Char} (hw : IsBlanks w) (s : List Char) :
    skipBlanks ⟨n, pos, w ++ s⟩ = skipBlanks ⟨n, pos + w.length, s⟩ := by
  obtain ⟨w', rest, rfl, hw', hr⟩ := exists_run isBlank s
  rw [← List.append_assoc, skipBlanks_blanks (hw.append hw') hr, skipBlanks_blanks hw' hr,
    List.length_append, Int.natCast_add, Int.add_assoc]

/-- A word is read whole where the cursor does not come to zero from below in it. -/
theorem readWord_letters {w s : List Char} (hpos : 0 ≤ pos ∨ pos + w.length < 0) (hw : IsWord w)
    (hs : EndsRun isLetter s) :
    readWord ⟨n, pos, w ++ s⟩ = .ok (String.ofList w, ⟨n, pos + w.length, s⟩) := by
  have hlen : w.length ≠ 0 := fun h => hw.1 (List.length_eq_zero_iff.1 h)
  have hstretch : stretch ⟨n, pos, w ++ s⟩ w.length = w :=
    (stretch_aside hpos).trans List.take_left
  simp only [readWord, word, takeWhile_run hw.2 hs, if_neg hlen, hstretch, advance,
    List.drop_left, mapError_ok]

theorem readWord_endsRun {s : List Char} (hs : EndsRun isLetter s) :
    readWord ⟨n, pos, s⟩ = .error (Failure.pointed ⟨.noWord, pos, []⟩) := by
  have ht : s.takeWhile isLetter = [] := takeWhile_run (w := []) (by simp) hs
  simp only [readWord, word, ht, List.length_nil, if_true, fail, mapError_error]

theorem readExactly_cons {expected : String} {c : Char} (he : expected.toList = [c])
    (s : List Char) : readExactly expected ⟨n, pos, c :: s⟩ = .ok ⟨n, pos + 1, s⟩ := by
  simp [readExactly, exactly, he, advance, mapError_ok]

theorem readExactly_head_ne {expected : String} {c : Char} (he : expected.toList = [c])
    {s : List Char} (hs : s.head? ≠ some c) :
    readExactly expected ⟨n, pos, s⟩
      = .error (Failure.pointed ⟨.missing expected, pos, []⟩) := by
  rcases s with _ | ⟨d, s⟩
  · simp [readExactly, exactly, fail, mapError_error]
  · have hd : d ≠ c := by simpa using hs
    simp [readExactly, exactly, he, hd, fail, mapError_error]

end Cursor

end Stylesheet
