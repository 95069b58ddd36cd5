import Stylesheet.Reading

/-!
# Moves of a cursor

A production that succeeds has moved its cursor on over some of what was ahead, and has done
nothing else to it (`Declaration.read_leadsTo`, `Rule.read_leadsTo`). A cursor that stands in a text
stands in it wherever it is moved to (`Cursor.StandsIn.advance`), so every cursor that a production
comes to is one that could have been placed there.
-/

namespace Stylesheet

namespace Cursor

/-- Moving on over what is ahead leads from one cursor to the other. -/
def LeadsTo (c c' : Cursor) : Prop :=
  ∃ n ≤ c.ahead.length, c' = c.advance n

theorem advance_advance (c : Cursor) (m n : Nat) :
    (c.advance m).advance n = c.advance (m + n) := by
  simp only [advance, List.drop_drop, Int.natCast_add, Int.add_assoc]

namespace LeadsTo

theorem refl (c : Cursor) : c.LeadsTo c := by
  refine ⟨0, Nat.zero_le _, ?_⟩
  simp only [advance, Int.natCast_zero, Int.add_zero, List.drop_zero]

theorem trans {c c' c'' : Cursor} (h : c.LeadsTo c') (h' : c'.LeadsTo c'') : c.LeadsTo c'' := by
  obtain ⟨m, hm, rfl⟩ := h
  obtain ⟨n, hn, rfl⟩ := h'
  rw [length_advance] at hn
  exact ⟨m + n, by omega, advance_advance c m n⟩

theorem pos_le {c c' : Cursor} (h : c.LeadsTo c') : c.pos ≤ c'.pos := by
  obtain ⟨n, -, rfl⟩ := h
  simp only [advance]
  omega

end LeadsTo

theorem leadsTo_skipBlanks (c : Cursor) : c.LeadsTo c.skipBlanks :=
  ⟨_, (List.takeWhile_prefix isBlank).length_le, rfl⟩

theorem word_leadsTo {c c' : Cursor} {s : String} (h : c.word = .ok (s, c')) : c.LeadsTo c' := by
  simp only [word] at h
  split at h
  · cases h
  · cases h
    exact ⟨_, (List.takeWhile_prefix isLetter).length_le, rfl⟩

theorem exactly_leadsTo {c c' : Cursor} {s : String} (h : c.exactly s = .ok c') :
    c.LeadsTo c' := by
  have hlt := length_exactly_lt h
  simp only [exactly] at h
  split at h
  · cases h
    exact ⟨1, by omega, rfl⟩
  · cases h

theorem readWord_leadsTo {c c' : Cursor} {s : String} (h : c.readWord = .ok (s, c')) :
    c.LeadsTo c' :=
  word_leadsTo (mapError_eq_ok.1 h)

theorem readExactly_leadsTo {c c' : Cursor} {s : String} (h : c.readExactly s = .ok c') :
    c.LeadsTo c' :=
  exactly_leadsTo (mapError_eq_ok.1 h)

/-! ## Standing in a text -/

/-- The cursor meets what a cursor placed at its position meets. -/
def StandsIn (text : List Char) (c : Cursor) : Prop :=
  place text c.pos = .ok c

theorem place_of_nonneg {text : List Char} {pos : Int} (h : 0 ≤ pos) :
    place text pos = .ok ⟨text.length, pos, text.drop pos.toNat⟩ :=
  if_pos h

theorem place_natCast (text : List Char) (i : Nat) :
    place text i = .ok ⟨text.length, i, text.drop i⟩ := by
  rw [place_of_nonneg (Int.natCast_nonneg _), Int.toNat_natCast]

theorem place_of_neg {text : List Char} {pos : Int} (h : pos < 0) (h' : 0 ≤ text.length + pos) :
    place text pos
      = .ok ⟨text.length, pos, text.drop (text.length + pos).toNat ++ text⟩ := by
  rw [place, if_neg (by omega), if_pos h']

/-- Below zero, at the position that counts to this index. -/
theorem place_below {text : List Char} {pos : Int} {j : Nat} (hj : j < text.length)
    (hpos : pos = j - text.length) :
    place text pos = .ok ⟨text.length, pos, text.drop j ++ text⟩ := by
  have hnat : (text.length + pos).toNat = j := by omega
  rw [place_of_neg (by omega) (by omega), hnat]

theorem place_of_outside {text : List Char} {pos : Int} (h : text.length + pos < 0) :
    place text pos = .error ⟨pos⟩ := by
  rw [place, if_neg (by omega), if_neg (by omega)]

/-- A position is before the text, or counts from its start, or counts from its end. -/
theorem place_cases (text : List Char) (pos : Int) :
    (pos < -(text.length : Int) ∧ place text pos = .error ⟨pos⟩) ∨
      (0 ≤ pos ∧ place text pos = .ok ⟨text.length, pos, text.drop pos.toNat⟩) ∨
      ∃ j : Nat, j < text.length ∧ pos = j - text.length ∧
        place text pos = .ok ⟨text.length, pos, text.drop j ++ text⟩ := by
  by_cases hout : text.length + pos < 0
  · exact .inl ⟨by omega, place_of_outside hout⟩
  by_cases hpos : 0 ≤ pos
  · exact .inr (.inl ⟨hpos, place_of_nonneg hpos⟩)
  · obtain ⟨j, hj⟩ := Int.eq_ofNat_of_zero_le (Int.not_lt.1 hout)
    exact .inr (.inr ⟨j, by omega, by omega, place_below (by omega) (by omega)⟩)

theorem place_eq_ok {text : List Char} {pos : Int} {c : Cursor} (h : place text pos = .ok c) :
    c.pos = pos ∧ c.StandsIn text := by
  have hpos : c.pos = pos := by
    rcases place_cases text pos with ⟨-, hp⟩ | ⟨-, hp⟩ | ⟨j, -, -, hp⟩ <;> rw [hp] at h <;> cases h
    · rfl
    · rfl
  rw [← hpos] at h
  exact ⟨hpos, h⟩

theorem place_eq_error {text : List Char} {pos : Int} {o : Outside}
    (h : place text pos = .error o) : pos < -(text.length : Int) ∧ o.pos = pos := by
  rcases place_cases text pos with ⟨hout, hp⟩ | ⟨-, hp⟩ | ⟨j, -, -, hp⟩ <;> rw [hp] at h <;> cases h
  exact ⟨hout, rfl⟩

theorem StandsIn.cases {text : List Char} {c : Cursor} (h : c.StandsIn text) :
    (0 ≤ c.pos ∧ c.ahead = text.drop c.pos.toNat) ∨
      ∃ j : Nat, j < text.length ∧ c.pos = j - text.length ∧ c.ahead = text.drop j ++ text := by
  have hc : place text c.pos = .ok c := h
  rcases place_cases text c.pos with ⟨-, hp⟩ | ⟨hpos, hp⟩ | ⟨j, hj, hpos, hp⟩
  · rw [hc] at hp
    cases hp
  · exact .inl ⟨hpos, congrArg ahead (Except.ok.inj (hc.symm.trans hp))⟩
  · exact .inr ⟨j, hj, hpos, congrArg ahead (Except.ok.inj (hc.symm.trans hp))⟩

theorem standsIn_start (text : List Char) : (start text).StandsIn text :=
  place_of_nonneg (Int.le_refl 0)

/-- A cursor that goes through zero meets the text from its start then, as it would if it were
placed there. -/
theorem StandsIn.advance {text : List Char} {c : Cursor} (h : c.StandsIn text) (n : Nat) :
    (c.advance n).StandsIn text := by
  obtain ⟨size, pos, ahead⟩ := c
  change place text pos = .ok ⟨size, pos, ahead⟩ at h
  change place text (pos + n) = .ok ⟨size, pos + n, ahead.drop n⟩
  by_cases hpos : 0 ≤ pos
  · have hnat : (pos + n).toNat = pos.toNat + n := by omega
    rw [place_of_nonneg hpos] at h
    cases h
    rw [place_of_nonneg (by omega), hnat, List.drop_drop]
  by_cases hout : text.length + pos < 0
  · rw [place_of_outside hout] at h
    cases h
  rw [place_of_neg (by omega) (by omega)] at h
  cases h
  have hend : (text.drop (text.length + pos).toNat).length = (-pos).toNat := by
    rw [List.length_drop]
    omega
  -- From a negative position the end of the text is met first, and all of it is behind zero.
  by_cases hn : 0 ≤ pos + n
  · have hnil : (text.drop (text.length + pos).toNat).drop n = [] :=
      List.drop_of_length_le (by omega)
    have hnat : n - (-pos).toNat = (pos + n).toNat := by omega
    rw [place_of_nonneg hn, List.drop_append, hend, hnil, List.nil_append, hnat]
  · have hnat : (text.length + (pos + n)).toNat = (text.length + pos).toNat + n := by omega
    rw [place_of_neg (by omega) (by omega), List.drop_append_of_le_length (by omega),
      List.drop_drop, hnat]

theorem StandsIn.of_leadsTo {text : List Char} {c c' : Cursor} (hc : c.StandsIn text)
    (h : c.LeadsTo c') : c'.StandsIn text := by
  obtain ⟨n, -, rfl⟩ := h
  exact hc.advance n

end Cursor

/-! ## Productions -/

open Cursor

theorem Declaration.readValue_leadsTo {name : String} {c c' : Cursor} {d : Declaration}
    (h : Declaration.readValue name c = .ok (d, c')) : c.LeadsTo c' := by
  obtain ⟨c₁, h₁, h⟩ := bind_eq_ok.1 h
  obtain ⟨⟨value, c₂⟩, h₂, h⟩ := bind_eq_ok.1 h
  dsimp only at h
  obtain ⟨c₃, h₃, h⟩ := bind_eq_ok.1 h
  obtain ⟨d', -, h⟩ := bind_eq_ok.1 h
  cases h
  exact c.leadsTo_skipBlanks.trans <| (readExactly_leadsTo h₁).trans <|
    c₁.leadsTo_skipBlanks.trans <| (readWord_leadsTo (mapError_eq_ok.1 h₂)).trans
      (readExactly_leadsTo h₃)

theorem Declaration.read_leadsTo {c c' : Cursor} {d : Declaration}
    (h : Declaration.read c = .ok (d, c')) : c.LeadsTo c' := by
  obtain ⟨⟨name, c₁⟩, h₁, h⟩ := bind_eq_ok.1 h
  have hc₁ := c.leadsTo_skipBlanks.trans (readWord_leadsTo (mapError_eq_ok.1 h₁))
  dsimp only at h
  split at h
  · cases h
  · exact hc₁.trans (Declaration.readValue_leadsTo h)

theorem Declaration.readAll_leadsTo {c c' : Cursor} {ds : List Declaration}
    (h : Declaration.readAll c = .ok (ds, c')) : c.LeadsTo c' := by
  fun_induction Declaration.readAll c generalizing ds c' with
  | case1 c =>
    cases h
    exact c.leadsTo_skipBlanks
  | case2 => cases h
  | case3 start c _ d c₁ hd =>
    rename_i ih
    rcases hr : Declaration.readAll c₁ with f | ⟨es, c₂⟩ <;> rw [hr] at h <;> cases h
    exact start.leadsTo_skipBlanks.trans ((Declaration.read_leadsTo hd).trans (ih hr))

theorem Rule.read_leadsTo {c c' : Cursor} {r : Rule} (h : Rule.read c = .ok (r, c')) :
    c.LeadsTo c' := by
  obtain ⟨⟨selector, c₁⟩, h₁, h⟩ := bind_eq_ok.1 h
  dsimp only at h
  obtain ⟨c₂, h₂, h⟩ := bind_eq_ok.1 h
  obtain ⟨⟨ds, c₃⟩, h₃, h⟩ := bind_eq_ok.1 h
  dsimp only at h
  obtain ⟨c₄, h₄, h⟩ := bind_eq_ok.1 h
  cases h
  exact c.leadsTo_skipBlanks.trans <| (readWord_leadsTo h₁).trans <|
    c₁.leadsTo_skipBlanks.trans <| (readExactly_leadsTo h₂).trans <|
      (Declaration.readAll_leadsTo h₃).trans (readExactly_leadsTo h₄)

end Stylesheet
