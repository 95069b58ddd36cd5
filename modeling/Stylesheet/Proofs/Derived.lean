import Stylesheet.Proofs.Steps

/-!
# Reading derived texts

A text that the grammar derives is read as what it is derived for, whatever comes behind it, and
the cursor stands behind it then. For a loop this says that it passes over the texts derived for
its first rounds and goes on as if it had started there (`Declaration.readAll_derives`,
`Rule.readAll_derives`). The hard part of each step is the seam with what comes behind: a word has
to end there, or a run of blanks.

The cursor may also start below zero, where a text counts from its end, if it is not past zero when
the derived text is read. No word of the text reaches zero then, since a character comes behind it.
-/

namespace Stylesheet

variable {n : Nat} {pos : Int}

/-! ## Declarations -/

theorem Declaration.ofName_name (p : Property) (value : String) :
    Declaration.ofName p.name value = .ok ⟨p, value⟩ := by
  rw [Declaration.ofName, Property.ofName?_name]

/-- Where a word that names a property ends, the rest of the declaration is read. -/
theorem Declaration.read_name (p : Property) {w s : List Char}
    (hpos : 0 ≤ pos ∨ pos + (w ++ p.name.toList).length < 0) (hw : IsBlanks w)
    (hs : EndsRun isLetter s) :
    Declaration.read ⟨n, pos, w ++ (p.name.toList ++ s)⟩
      = Declaration.readValue p.name ⟨n, pos + (w ++ p.name.toList).length, s⟩ := by
  have hp := p.isWord_name
  have hlen : pos + w.length + p.name.toList.length = pos + (w ++ p.name.toList).length := by
    rw [List.length_append]
    omega
  have hword : 0 ≤ pos + (w.length : Int) ∨ pos + w.length + p.name.toList.length < 0 := by omega
  simp only [Declaration.read, Cursor.skipBlanks_blanks hw (hp.endsRun s),
    Cursor.readWord_letters hword hp hs, mapError_ok, hlen, String.ofList_toList, bind,
    Except.bind, Property.ofName?_name, Option.isNone_some, Bool.false_eq_true, if_false]

/-- Where a value can start, the rest of the declaration is a word and a semicolon. -/
theorem Declaration.read_colon (p : Property) {w w₁ w₂ s : List Char}
    (hpos : 0 ≤ pos ∨ pos + (w ++ p.name.toList ++ w₁ ++ ':' :: w₂).length ≤ 0)
    (hw : IsBlanks w) (h₁ : IsBlanks w₁) (h₂ : IsBlanks w₂) (hs : EndsRun isBlank s) :
    Declaration.read ⟨n, pos, w ++ p.name.toList ++ w₁ ++ ':' :: w₂ ++ s⟩
      = ((Cursor.readWord ⟨n, pos + (w ++ p.name.toList ++ w₁ ++ ':' :: w₂).length, s⟩).mapError
          (Failure.within .value)
          >>= fun (value, c) => c.readExactly ";" >>= fun c => .ok (⟨p, value⟩, c)) := by
  have hc : EndsRun isBlank (':' :: (w₂ ++ s)) := endsRun_cons.2 (by decide)
  have hl : EndsRun isLetter (w₁ ++ ':' :: (w₂ ++ s)) := h₁.endsRun (endsRun_cons.2 (by decide))
  have htext : w ++ p.name.toList ++ w₁ ++ ':' :: w₂ ++ s
      = w ++ (p.name.toList ++ (w₁ ++ ':' :: (w₂ ++ s))) := by
    simp
  have hend : pos + (w ++ p.name.toList).length + w₁.length + 1 + w₂.length
      = pos + (w ++ p.name.toList ++ w₁ ++ ':' :: w₂).length := by
    simp only [List.length_append, List.length_cons]
    omega
  have hname : 0 ≤ pos ∨ pos + (w ++ p.name.toList).length < 0 := by omega
  rw [htext, Declaration.read_name p hname hw hl]
  simp only [Declaration.readValue, Cursor.skipBlanks_blanks h₁ hc,
    Cursor.readExactly_cons (show ":".toList = [':'] from rfl), bind, Except.bind,
    Cursor.skipBlanks_blanks h₂ hs, Declaration.ofName_name, hend]
  rfl

theorem Declaration.read_derives {w s : List Char} {d : Declaration}
    (hpos : 0 ≤ pos ∨ pos + (w ++ s).length ≤ 0) (hw : IsBlanks w)
    (hd : Declaration.Derives s d) (rest : List Char) :
    Declaration.read ⟨n, pos, w ++ (s ++ rest)⟩
      = .ok (d, ⟨n, pos + (w ++ s).length, rest⟩) := by
  obtain ⟨p, h₁, h₂, hv⟩ := hd
  rename_i w₁ w₂ value
  have hs : EndsRun isLetter (';' :: rest) := endsRun_cons.2 (by decide)
  have htext : w ++ (p.name.toList ++ w₁ ++ ':' :: w₂ ++ value ++ [';'] ++ rest)
      = w ++ p.name.toList ++ w₁ ++ ':' :: w₂ ++ (value ++ ';' :: rest) := by
    simp
  have hend : pos + (w ++ p.name.toList ++ w₁ ++ ':' :: w₂).length + value.length + 1
      = pos + (w ++ (p.name.toList ++ w₁ ++ ':' :: w₂ ++ value ++ [';'])).length := by
    simp only [List.length_append, List.length_cons, List.length_nil]
    omega
  rw [htext, Declaration.read_colon p (by omega) hw h₁ h₂ (hv.endsRun _),
    Cursor.readWord_letters (by omega) hv hs]
  simp only [mapError_ok, bind, Except.bind,
    Cursor.readExactly_cons (show ";".toList = [';'] from rfl), hend]

/-- Every declaration starts with a letter. -/
theorem Declaration.Derives.exists_cons {s : List Char} {d : Declaration}
    (h : Declaration.Derives s d) : ∃ c s', s = c :: s' ∧ isLetter c = true := by
  obtain ⟨p, h₁, h₂, hv⟩ := h
  obtain ⟨c, w', hc, hl, -⟩ := p.isWord_name.exists_cons
  exact ⟨c, _, by rw [hc]; rfl, hl⟩

/-- One round of the loop over declarations. -/
theorem Declaration.readAll_eq (c : Cursor) :
    Declaration.readAll c = if c.skipBlanks.ahead.head?.all (· = '\x7d') then .ok ([], c.skipBlanks)
      else match Declaration.read c.skipBlanks with
        | .error f => .error f
        | .ok (d, c') => (Declaration.readAll c').map fun (ds, last) => (d :: ds, last) := by
  rw [Declaration.readAll]
  dsimp only
  split
  · rfl
  · split
    · rename_i h
      rw [h]
    · rename_i h
      rw [h]

theorem Declaration.readAll_blanks {w : List Char} (hw : IsBlanks w) (s : List Char) :
    Declaration.readAll ⟨n, pos, w ++ s⟩ = Declaration.readAll ⟨n, pos + w.length, s⟩ := by
  rw [Declaration.readAll_eq, Declaration.readAll_eq ⟨n, pos + w.length, s⟩,
    Cursor.skipBlanks_append hw]

/-- The loop passes over derived declarations. -/
theorem Declaration.readAll_derives {block : List Char} {ds : List Declaration}
    (h : Declaration.DerivesAll block ds) :
    ∀ {pos : Int}, 0 ≤ pos ∨ pos + block.length ≤ 0 → ∀ rest,
      Declaration.readAll ⟨n, pos, block ++ rest⟩
        = (Declaration.readAll ⟨n, pos + block.length, rest⟩).map
            fun (es, last) => (ds ++ es, last) := by
  induction h with
  | nil =>
    intro pos _ rest
    rcases h : Declaration.readAll ⟨n, pos, rest⟩ with f | ⟨es, last⟩ <;> simp [h, Except.map]
  | @cons s w t d ds hd hw _ ih =>
    intro pos hpos rest
    obtain ⟨c, s', hs, hc⟩ := hd.exists_cons
    have hskip : Cursor.skipBlanks ⟨n, pos, s ++ (w ++ (t ++ rest))⟩
        = ⟨n, pos, s ++ (w ++ (t ++ rest))⟩ := by
      refine Cursor.skipBlanks_endsRun ?_
      rw [hs]
      exact endsRun_cons.2 (isBlank_eq_false_of_isLetter hc)
    -- A declaration starts with a letter, so the loop neither skips nor stops here.
    have hbrace : (s ++ (w ++ (t ++ rest))).head?.all (· = '\x7d') = false := by
      have : c ≠ '\x7d' := by
        rintro rfl
        exact absurd hc (by decide)
      simp [hs, this]
    have hend : pos + s.length + w.length + t.length = pos + (s ++ w ++ t).length := by
      simp only [List.length_append]
      omega
    have hfirst : 0 ≤ pos ∨ pos + ([] ++ s).length ≤ 0 := by
      rw [List.nil_append]
      omega
    have hread := Declaration.read_derives (n := n) hfirst isBlanks_nil hd (w ++ (t ++ rest))
    rw [List.nil_append, List.nil_append] at hread
    rw [List.append_assoc, List.append_assoc, Declaration.readAll_eq, hskip]
    simp only [hbrace, Bool.false_eq_true, if_false, hread]
    rw [Declaration.readAll_blanks hw, ih (by omega), hend]
    rcases Declaration.readAll ⟨n, pos + (s ++ w ++ t).length, rest⟩ with f | ⟨es, last⟩ <;> rfl

/-! ## Rules -/

/-- The texts of a rule that goes on, up to a place where a declaration can start or the block can
end, and what was read of the rule by then. -/
inductive Rule.Opens : List Char → Rule → Prop where
  | mk {w selector w₁ w₂ block : List Char} {ds : List Declaration} :
    IsBlanks w → IsWord selector → IsBlanks w₁ → IsBlanks w₂ → Declaration.DerivesAll block ds →
      Opens (w ++ selector ++ w₁ ++ '\x7b' :: w₂ ++ block) ⟨String.ofList selector, ds⟩

theorem Rule.Derives.exists_opens {w t : List Char} {r : Rule} (hw : IsBlanks w)
    (h : Rule.Derives t r) : ∃ u, Rule.Opens u r ∧ w ++ t = u ++ ['\x7d'] := by
  obtain ⟨hsel, h₁, h₂, hds⟩ := h
  exact ⟨_, .mk hw hsel h₁ h₂ hds, by simp⟩

/-- Where an open block is gone through, the rest of it is read. -/
theorem Rule.read_opens {u : List Char} {r : Rule} (hpos : 0 ≤ pos ∨ pos + u.length ≤ 0)
    (h : Rule.Opens u r) (rest : List Char) :
    Rule.read ⟨n, pos, u ++ rest⟩
      = (Declaration.readAll ⟨n, pos + u.length, rest⟩ >>= fun (ds, c) =>
          c.readExactly "\x7d" >>= fun c => .ok (⟨r.selector, r.declarations ++ ds⟩, c)) := by
  obtain ⟨hw, hsel, h₁, h₂, hds⟩ := h
  rename_i w selector w₁ w₂ block ds
  have hbrace : EndsRun isBlank ('\x7b' :: (w₂ ++ (block ++ rest))) := endsRun_cons.2 (by decide)
  have hletter : EndsRun isLetter (w₁ ++ '\x7b' :: (w₂ ++ (block ++ rest))) :=
    h₁.endsRun (endsRun_cons.2 (by decide))
  have htext : w ++ selector ++ w₁ ++ '\x7b' :: w₂ ++ block ++ rest
      = w ++ (selector ++ (w₁ ++ '\x7b' :: (w₂ ++ (block ++ rest)))) := by
    simp
  have hend : pos + w.length + selector.length + w₁.length + 1 + w₂.length + block.length
      = pos + (w ++ selector ++ w₁ ++ '\x7b' :: w₂ ++ block).length := by
    simp only [List.length_append, List.length_cons]
    omega
  have hword : 0 ≤ pos + (w.length : Int) ∨ pos + w.length + selector.length < 0 := by omega
  have hblock : 0 ≤ pos + (w.length : Int) + selector.length + w₁.length + 1 + w₂.length
      ∨ pos + w.length + selector.length + w₁.length + 1 + w₂.length + block.length ≤ 0 := by
    omega
  rw [htext]
  simp only [Rule.read, Cursor.skipBlanks_blanks hw (hsel.endsRun _),
    Cursor.readWord_letters hword hsel hletter, bind, Except.bind,
    Cursor.skipBlanks_blanks h₁ hbrace,
    Cursor.readExactly_cons (show "\x7b".toList = ['\x7b'] from rfl),
    Declaration.readAll_blanks h₂, Declaration.readAll_derives hds hblock, hend]
  rcases Declaration.readAll ⟨n, _, rest⟩ with f | ⟨es, last⟩ <;> rfl

theorem Rule.read_derives {w t : List Char} {r : Rule}
    (hpos : 0 ≤ pos ∨ pos + (w ++ t).length ≤ 0) (hw : IsBlanks w) (h : Rule.Derives t r)
    (rest : List Char) :
    Rule.read ⟨n, pos, w ++ (t ++ rest)⟩ = .ok (r, ⟨n, pos + (w ++ t).length, rest⟩) := by
  obtain ⟨u, hu, htext⟩ := h.exists_opens hw
  have hskip : Cursor.skipBlanks ⟨n, pos + u.length, '\x7d' :: rest⟩
      = ⟨n, pos + u.length, '\x7d' :: rest⟩ :=
    Cursor.skipBlanks_endsRun (endsRun_cons.2 (by decide))
  have hstop : Declaration.readAll ⟨n, pos + u.length, '\x7d' :: rest⟩
      = .ok ([], ⟨n, pos + u.length, '\x7d' :: rest⟩) := by
    rw [Declaration.readAll_eq, hskip]
    simp
  have hend : pos + u.length + 1 = pos + (u ++ ['\x7d']).length := by
    rw [List.length_append, List.length_singleton]
    omega
  rw [htext, ← hend] at hpos
  rw [← List.append_assoc, htext, List.append_assoc, List.singleton_append,
    Rule.read_opens (by omega) hu, hstop, ← hend]
  simp only [bind, Except.bind, Cursor.readExactly_cons (show "\x7d".toList = ['\x7d'] from rfl),
    List.append_nil]

theorem Rule.Derives.exists_cons {t : List Char} {r : Rule} (h : Rule.Derives t r) :
    ∃ c t', t = c :: t' ∧ isLetter c = true := by
  obtain ⟨hsel, h₁, h₂, hds⟩ := h
  obtain ⟨c, w', rfl, hl, -⟩ := hsel.exists_cons
  exact ⟨c, _, rfl, hl⟩

/-- One round of the loop over rules. -/
theorem Rule.readAll_eq (c : Cursor) :
    Rule.readAll c = if c.skipBlanks.ahead = [] then ([], none)
      else match Rule.read c.skipBlanks with
        | .error f => ([], some f)
        | .ok (r, c') => (r :: (Rule.readAll c').1, (Rule.readAll c').2) := by
  rw [Rule.readAll]
  dsimp only
  split
  · rfl
  · split
    · rename_i h
      rw [h]
    · rename_i h
      rw [h]

theorem Rule.readAll_blanks {w : List Char} (hw : IsBlanks w) (s : List Char) :
    Rule.readAll ⟨n, pos, w ++ s⟩ = Rule.readAll ⟨n, pos + w.length, s⟩ := by
  rw [Rule.readAll_eq, Rule.readAll_eq ⟨n, pos + w.length, s⟩, Cursor.skipBlanks_append hw]

/-- The loop passes over derived rules. -/
theorem Rule.readAll_derives {s : List Char} {rs : List Rule} (h : Rule.DerivesAll s rs) :
    ∀ {pos : Int}, 0 ≤ pos → ∀ rest,
      Rule.readAll ⟨n, pos, s ++ rest⟩
        = (rs ++ (Rule.readAll ⟨n, pos + s.length, rest⟩).1,
            (Rule.readAll ⟨n, pos + s.length, rest⟩).2) := by
  induction h with
  | nil =>
    intro pos _ rest
    simp
  | @cons s w t r rs hr hw _ ih =>
    intro pos hpos rest
    obtain ⟨c, s', hs, hc⟩ := hr.exists_cons
    have hskip : Cursor.skipBlanks ⟨n, pos, s ++ (w ++ (t ++ rest))⟩
        = ⟨n, pos, s ++ (w ++ (t ++ rest))⟩ := by
      refine Cursor.skipBlanks_endsRun ?_
      rw [hs]
      exact endsRun_cons.2 (isBlank_eq_false_of_isLetter hc)
    have hne : s ++ (w ++ (t ++ rest)) ≠ [] := by simp [hs]
    have hread := Rule.read_derives (n := n) (.inl hpos) isBlanks_nil hr (w ++ (t ++ rest))
    rw [List.nil_append, List.nil_append] at hread
    have hend : pos + s.length + w.length + t.length = pos + (s ++ w ++ t).length := by
      simp only [List.length_append]
      omega
    rw [List.append_assoc, List.append_assoc, Rule.readAll_eq, hskip]
    simp only [if_neg hne, hread]
    rw [Rule.readAll_blanks hw, ih (by omega), hend]
    rfl

/-! ## Sheets -/

/-- The loop passes over the text of a sheet. -/
theorem Sheet.readAll_derives {v : List Char} {s : Sheet} (hpos : 0 ≤ pos)
    (h : Sheet.Derives v s) (rest : List Char) :
    Rule.readAll ⟨n, pos, v ++ rest⟩
      = (s.rules ++ (Rule.readAll ⟨n, pos + v.length, rest⟩).1,
          (Rule.readAll ⟨n, pos + v.length, rest⟩).2) := by
  obtain ⟨hw, hs⟩ := h
  rw [List.append_assoc, Rule.readAll_blanks hw, Rule.readAll_derives hs (by omega),
    List.length_append, Int.natCast_add, Int.add_assoc]

theorem Sheet.readAll_start {text : List Char} {s : Sheet} (h : Sheet.Derives text s) :
    Rule.readAll (.start text) = (s.rules, none) := by
  have hr := Sheet.readAll_derives (n := text.length) (Int.le_refl 0) h []
  have hend : Rule.readAll ⟨text.length, 0 + text.length, []⟩ = ([], none) := by
    rw [Rule.readAll_eq, Cursor.skipBlanks_endsRun (endsRun_nil _), if_pos rfl]
  rwa [List.append_nil, hend, List.append_nil] at hr

theorem Sheet.read_derives {text : List Char} {s : Sheet} (h : Sheet.Derives text s) :
    Sheet.read text = .ok s := by
  rw [Sheet.read, Sheet.readAll_start h]

end Stylesheet
