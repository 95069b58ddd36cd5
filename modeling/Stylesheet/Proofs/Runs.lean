import Stylesheet.Proofs.Moves

/-!
# Runs from any position

A run of blanks or letters is passed one character at a time, each looked up at the position that
has been come to (`Cursor.Passes`). Below zero a position counts from the end of the text. So a run
that starts there ends as it would if its start were counted from the front, unless it gets to the
end of the text: the position is then zero, and the run goes on with what the text starts with
(`Cursor.runs_from_anywhere`).

The text of a word is what lies between the two positions. Where the run has gone through zero they
stand the wrong way round and nothing lies between them, unless the text is all letters: then the
run comes past its own start and goes on to the end of the text.
-/

namespace Stylesheet

namespace Cursor

variable {text : List Char} {p : Char → Bool} {c : Cursor}

/-! ## One character at a time -/

/-- The character at a position, which may be counted from the end of the text. -/
def charAt? (text : List Char) (pos : Int) : Option Char :=
  if 0 ≤ pos then text[pos.toNat]?
  else if 0 ≤ text.length + pos then text[(text.length + pos).toNat]?
  else none

/-- Passing such characters leads from one position to the other, and no further. -/
inductive Passes (p : Char → Bool) (text : List Char) : Int → Int → Prop where
  | stop {pos : Int} : (∀ c ∈ charAt? text pos, p c = false) → Passes p text pos pos
  | next {pos pos' : Int} {c : Char} : charAt? text pos = some c → p c = true →
    Passes p text (pos + 1) pos' → Passes p text pos pos'

theorem charAt?_below {pos : Int} {j : Nat} (hj : j < text.length)
    (hpos : pos = j - text.length) : charAt? text pos = text[j]? := by
  have hnat : (text.length + pos).toNat = j := by omega
  rw [charAt?, if_neg (by omega), if_pos (by omega), hnat]

theorem StandsIn.head?_ahead (h : c.StandsIn text) : c.ahead.head? = charAt? text c.pos := by
  rcases h.cases with ⟨hpos, hahead⟩ | ⟨j, hj, hpos, hahead⟩
  · rw [hahead, List.head?_drop, charAt?, if_pos hpos]
  · rw [hahead, List.head?_append, List.head?_drop, charAt?_below hj hpos,
      List.getElem?_eq_getElem hj]
    rfl

/-- The induction is on what is ahead: past its first character the cursor stands in the text too,
on whichever side of zero. -/
theorem StandsIn.passes (h : c.StandsIn text) (p : Char → Bool) :
    Passes p text c.pos (c.pos + (c.ahead.takeWhile p).length) := by
  have hhead := h.head?_ahead
  obtain ⟨size, pos, ahead⟩ := c
  dsimp only at hhead ⊢
  induction ahead generalizing pos with
  | nil =>
    rw [List.takeWhile_nil, List.length_nil, Int.natCast_zero, Int.add_zero]
    refine .stop fun d hd => ?_
    rw [← hhead] at hd
    cases hd
  | cons d ahead ih =>
    by_cases hd : p d = true
    · have hnext : StandsIn text ⟨size, pos + 1, ahead⟩ := h.advance 1
      have hpos : pos + ((d :: ahead).takeWhile p).length
          = pos + 1 + (ahead.takeWhile p).length := by
        rw [List.takeWhile_cons_of_pos hd, List.length_cons]
        omega
      rw [hpos]
      exact .next hhead.symm hd (ih (pos + 1) hnext hnext.head?_ahead)
    · rw [List.takeWhile_cons_of_neg hd, List.length_nil, Int.natCast_zero, Int.add_zero]
      refine .stop fun e he => ?_
      rw [← hhead] at he
      cases he
      simpa using hd

/-! ## Runs of a text -/

/-- How many such characters stand in a row from this index on. -/
def runLength (p : Char → Bool) (text : List Char) (i : Nat) : Nat :=
  ((text.drop i).takeWhile p).length

theorem runLength_le (p : Char → Bool) (text : List Char) (i : Nat) :
    runLength p text i ≤ text.length - i := by
  rw [runLength, ← List.length_drop]
  exact (List.takeWhile_prefix p).length_le

theorem runLength_of_le {i : Nat} (h : text.length ≤ i) : runLength p text i = 0 := by
  have := runLength_le p text i
  omega

/-- The run goes on over the end of the text only if it gets there. -/
theorem length_takeWhile_through (p : Char → Bool) (text : List Char) {j : Nat}
    (hj : j < text.length) :
    ((text.drop j ++ text).takeWhile p).length
      = if j + runLength p text j < text.length then runLength p text j
        else text.length - j + runLength p text 0 := by
  have hle := runLength_le p text j
  have hend : (text.drop j).length = text.length - j := List.length_drop
  rw [List.takeWhile_append, hend]
  by_cases hrun : j + runLength p text j < text.length
  · have hne : ((text.drop j).takeWhile p).length ≠ text.length - j := by
      unfold runLength at hrun
      omega
    rw [if_neg hne, if_pos hrun]
    rfl
  · have heq : ((text.drop j).takeWhile p).length = text.length - j := by
      unfold runLength at hrun hle
      omega
    rw [if_pos heq, if_neg hrun, List.length_append, hend]
    rfl

theorem runLength_zero_of_all (h : text.all p = true) : runLength p text 0 = text.length := by
  have hself : (text ++ []).takeWhile p = text ++ [].takeWhile p :=
    List.takeWhile_append_of_pos (List.all_eq_true.1 h)
  rw [List.append_nil, List.takeWhile_nil, List.append_nil] at hself
  rw [runLength, List.drop_zero, hself]

/-- A run to the end and a run that comes to its start from the front are the whole text. -/
theorem all_of_runLength {j : Nat} (hend : j + runLength p text j = text.length)
    (hstart : j ≤ runLength p text 0) : text.all p = true := by
  have hback : (text.drop j).takeWhile p = text.drop j := by
    refine (List.takeWhile_prefix p).eq_of_length ?_
    rw [List.length_drop]
    unfold runLength at hend
    omega
  have hfront : text.take j <+: text.takeWhile p := by
    refine List.prefix_of_prefix_length_le (List.take_prefix j text) (List.takeWhile_prefix p) ?_
    rw [runLength, List.drop_zero] at hstart
    rw [List.length_take]
    omega
  have hrun (s : List Char) : ∀ d ∈ s.takeWhile p, p d = true :=
    List.all_eq_true.1 List.all_takeWhile
  refine List.all_eq_true.2 fun d hd => ?_
  rw [← List.take_append_drop j text] at hd
  rcases List.mem_append.1 hd with hd | hd
  · exact hrun text d (hfront.subset hd)
  · rw [← hback] at hd
    exact hrun (text.drop j) d hd

/-! ## Ends of runs -/

theorem map_place_run (p : Char → Bool) (text : List Char) (pos : Int) :
    (place text pos).map (fun c => c.pos + ((c.ahead.takeWhile p).length : Int))
      = if pos < -text.length then .error ⟨pos⟩
        else if text.length ≤ pos then .ok pos
        else if 0 ≤ pos then .ok (pos + runLength p text pos.toNat)
        else if (text.length + pos).toNat + runLength p text (text.length + pos).toNat
          < (text.length : Int) then .ok (pos + runLength p text (text.length + pos).toNat)
        else .ok (runLength p text 0 : Int) := by
  rcases place_cases text pos with ⟨hout, hp⟩ | ⟨hpos, hp⟩ | ⟨j, hj, hpos, hp⟩
  · rw [hp, if_pos hout]
    rfl
  · rw [hp, if_neg (by omega)]
    change Except.ok (pos + (runLength p text pos.toNat : Int)) = _
    by_cases hpast : text.length ≤ pos
    · rw [if_pos hpast, runLength_of_le (by omega), Int.natCast_zero, Int.add_zero]
    · rw [if_neg hpast, if_pos hpos]
  · have hnat : (text.length + pos).toNat = j := by omega
    rw [hp, hnat, if_neg (by omega), if_neg (by omega), if_neg (by omega)]
    change Except.ok (pos + (((text.drop j ++ text).takeWhile p).length : Int)) = _
    rw [length_takeWhile_through p text hj]
    have hle := runLength_le p text j
    by_cases hrun : j + runLength p text j < text.length
    · rw [if_pos hrun, if_pos (by omega)]
    · have hstop : pos + ((text.length - j + runLength p text 0 : Nat) : Int)
          = runLength p text 0 := by omega
      rw [if_neg hrun, if_neg (by omega), hstop]

/-! ## Words -/

/-- The word read from here, and the position behind it. -/
def wordTo (c : Cursor) : Except Failure (String × Int) :=
  c.word.map fun (s, c') => (s, c'.pos)

theorem wordTo_eq (c : Cursor) {k : Nat} (hk : (c.ahead.takeWhile isLetter).length = k) :
    c.wordTo = if k = 0 then .error ⟨.noWord, c.pos, []⟩
      else .ok (String.ofList (c.stretch k), c.pos + k) := by
  subst hk
  simp only [wordTo, word]
  split <;> rfl

/-- The word from this index on, as it is read at this position. -/
def wordFrom (text : List Char) (pos : Int) (i : Nat) : Except Failure (String × Int) :=
  let k := runLength isLetter text i
  if k = 0 then .error ⟨.noWord, pos, []⟩
  else .ok (String.ofList ((text.drop i).take k), pos + k)

section WordTo

variable {pos : Int} {j : Nat}

theorem wordTo_short (hj : j < text.length) (hpos : pos = j - text.length)
    (hrun : j + runLength isLetter text j < text.length) :
    wordTo ⟨text.length, pos, text.drop j ++ text⟩ = wordFrom text pos j := by
  have hlength := length_takeWhile_through isLetter text hj
  rw [if_pos hrun] at hlength
  have hle : runLength isLetter text j ≤ (text.drop j).length := by
    rw [List.length_drop]
    exact runLength_le isLetter text j
  rw [wordTo_eq _ hlength, stretch_aside (.inr (by dsimp only; omega)),
    List.take_append_of_le_length hle]
  rfl

theorem wordTo_through (hj : j < text.length) (hpos : pos = j - text.length)
    (hrun : ¬ j + runLength isLetter text j < text.length) :
    wordTo ⟨text.length, pos, text.drop j ++ text⟩
      = .ok (String.ofList (if text.all isLetter then text.drop j else []),
          (runLength isLetter text 0 : Int)) := by
  have hlength := length_takeWhile_through isLetter text hj
  rw [if_neg hrun] at hlength
  have hle := runLength_le isLetter text j
  have hstop : pos + ((text.length - j + runLength isLetter text 0 : Nat) : Int)
      = runLength isLetter text 0 := by omega
  rw [wordTo_eq _ hlength, if_neg (by omega), stretch_through (by dsimp only; omega)
    (by dsimp only; omega)]
  dsimp only
  rw [hstop]
  by_cases hall : text.all isLetter = true
  · have hcut : text.length - j + runLength isLetter text 0 - text.length
        = (text.drop j).length := by
      rw [runLength_zero_of_all hall, List.length_drop]
      omega
    rw [if_pos hall, hcut, List.take_left]
  · -- The run ends before it comes to its own start again, so it has not the length of a round.
    have hcut : text.length - j + runLength isLetter text 0 - text.length = 0 := by
      have hlt : ¬ j ≤ runLength isLetter text 0 := fun hstart =>
        hall (all_of_runLength (by omega) hstart)
      omega
    rw [if_neg hall, hcut, List.take_zero]

end WordTo

theorem map_place_word (text : List Char) (pos : Int) :
    (place text pos).map wordTo
      = if pos < -text.length then .error ⟨pos⟩
        else if text.length ≤ pos then .ok (.error ⟨.noWord, pos, []⟩)
        else if 0 ≤ pos then .ok (wordFrom text pos pos.toNat)
        else if (text.length + pos).toNat + runLength isLetter text (text.length + pos).toNat
          < (text.length : Int) then .ok (wordFrom text pos (text.length + pos).toNat)
        else .ok (.ok (String.ofList
          (if text.all isLetter then text.drop (text.length + pos).toNat else []),
          (runLength isLetter text 0 : Int))) := by
  rcases place_cases text pos with ⟨hout, hp⟩ | ⟨hpos, hp⟩ | ⟨j, hj, hpos, hp⟩
  · rw [hp, if_pos hout]
    rfl
  · have hword : wordTo ⟨text.length, pos, text.drop pos.toNat⟩ = wordFrom text pos pos.toNat := by
      rw [wordTo_eq _ rfl, stretch_aside (.inl hpos)]
      rfl
    rw [hp, if_neg (by omega)]
    change Except.ok (wordTo _) = _
    rw [hword]
    by_cases hpast : text.length ≤ pos
    · rw [if_pos hpast, wordFrom, runLength_of_le (by omega)]
      rfl
    · rw [if_neg hpast, if_pos hpos]
  · have hnat : (text.length + pos).toNat = j := by omega
    rw [hp, hnat, if_neg (by omega), if_neg (by omega), if_neg (by omega)]
    change Except.ok (wordTo _) = _
    by_cases hrun : j + runLength isLetter text j < text.length
    · rw [wordTo_short hj hpos hrun, if_pos (by omega)]
    · have hrun' : ¬ (j : Int) + runLength isLetter text j < text.length := by omega
      rw [wordTo_through hj hpos hrun, if_neg hrun']

/-! ## Any position -/

/-- Where a run of blanks and a word end that start at any position, and what the word is. It is
where passing their characters one by one leads to. -/
theorem runs_from_anywhere (text : List Char) (pos : Int) :
    let n : Int := text.length
    let j := (n + pos).toNat
    let blanks := runLength isBlank text
    let letters := runLength isLetter text
    ((place text pos).map (·.skipBlanks.pos)
      = if pos < -n then .error ⟨pos⟩
        else if n ≤ pos then .ok pos
        else if 0 ≤ pos then .ok (pos + blanks pos.toNat)
        else if j + blanks j < n then .ok (pos + blanks j)
        else .ok (blanks 0)) ∧
      ((place text pos).map wordTo
        = if pos < -n then .error ⟨pos⟩
          else if n ≤ pos then .ok (.error ⟨.noWord, pos, []⟩)
          else if 0 ≤ pos then .ok (wordFrom text pos pos.toNat)
          else if j + letters j < n then .ok (wordFrom text pos j)
          else .ok (.ok (String.ofList (if text.all isLetter then text.drop j else []),
            letters 0))) ∧
      ∀ c, place text pos = .ok c → Passes isBlank text pos c.skipBlanks.pos ∧
        ∀ s c', c.word = .ok (s, c') → Passes isLetter text pos c'.pos := by
  refine ⟨map_place_run isBlank text pos, map_place_word text pos, fun c hc => ?_⟩
  obtain ⟨rfl, hstands⟩ := place_eq_ok hc
  refine ⟨hstands.passes isBlank, fun s c' hw => ?_⟩
  simp only [word] at hw
  split at hw <;> cases hw
  exact hstands.passes isLetter

/-- The run goes through zero, past its own start, to the end of the text. -/
theorem runs_from_anywhere_through :
    ∃ c c', place ['a', 'b'] (-1) = .ok c ∧ c.word = .ok ("b", c') ∧ c'.pos = 2
      ∧ Passes isLetter ['a', 'b'] (-1) c'.pos := by
  have hplace : place ['a', 'b'] (-1) = .ok ⟨2, -1, ['b', 'a', 'b']⟩ := rfl
  have hword : word ⟨2, -1, ['b', 'a', 'b']⟩ = .ok ("b", ⟨2, 2, []⟩) := rfl
  have h := (runs_from_anywhere ['a', 'b'] (-1)).2.2 _ hplace
  exact ⟨_, _, hplace, hword, rfl, h.2 _ _ hword⟩

end Cursor

end Stylesheet
