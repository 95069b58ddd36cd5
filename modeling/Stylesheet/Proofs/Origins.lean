import Stylesheet.Proofs.Breach
import Stylesheet.Proofs.Moves

/-!
# Where failures come up

A production fails at one of its own words and characters or in a production that it calls, and
then with the failure of that. A loop fails in the production that it called last, at a cursor that
it moved to. So the failure of a sheet is that of one of its rules, and the failure of a rule is
its own or that of one of its declarations (`Sheet.read_error`, `Rule.read_error`).

Wherever a production starts, its failure is that of a breach, at a cursor that it moved to. A
declaration is never refused for its name at the end, where nobody would hear of it: the name was
looked up before.
-/

namespace Stylesheet

/-! ## Words and characters -/

theorem Cursor.readWord_error {c : Cursor} {f : Failure} (h : c.readWord = .error f) :
    EndsRun isLetter c.ahead ∧ f = Failure.pointed ⟨.noWord, c.pos, []⟩ := by
  obtain ⟨f', hf, rfl⟩ := mapError_eq_error.1 h
  simp only [Cursor.word] at hf
  split at hf
  · rename_i hn
    cases hf
    obtain ⟨w, s, hs, hw, hl⟩ := exists_run isLetter c.ahead
    rw [hs, takeWhile_run hw hl, List.length_eq_zero_iff] at hn
    rw [hs, hn]
    exact ⟨hl, rfl⟩
  · cases hf

theorem Cursor.not_endsRun_of_readWord {c c' : Cursor} {s : String}
    (h : c.readWord = .ok (s, c')) : ¬ EndsRun isLetter c.ahead := by
  obtain ⟨n, pos, ahead⟩ := c
  intro hl
  rw [readWord_endsRun hl] at h
  cases h

theorem Cursor.readExactly_error {c : Cursor} {s : String} {f : Failure}
    (h : c.readExactly s = .error f) : f = Failure.pointed ⟨.missing s, c.pos, []⟩ := by
  obtain ⟨f', hf, rfl⟩ := mapError_eq_error.1 h
  simp only [Cursor.exactly] at hf
  split at hf <;> cases hf
  rfl

/-! ## Productions -/

theorem Declaration.readValue_error {p : Property} {c : Cursor} {f : Failure}
    (h : Declaration.readValue p.name c = .error f) :
    ∃ c', c.LeadsTo c' ∧ (f = Breach.colon.failure c'.pos ∨ f = Breach.value.failure c'.pos
      ∨ f = Breach.semicolon.failure c'.pos) := by
  have hc := c.leadsTo_skipBlanks
  rcases bind_eq_error.1 h with h | ⟨c₁, h₁, h⟩
  · exact ⟨_, hc, .inl (Cursor.readExactly_error h)⟩
  have hc₁ := (hc.trans (Cursor.readExactly_leadsTo h₁)).trans c₁.leadsTo_skipBlanks
  rcases bind_eq_error.1 h with h | ⟨⟨value, c₂⟩, h₂, h⟩
  · obtain ⟨f', hf', rfl⟩ := mapError_eq_error.1 h
    rw [(Cursor.readWord_error hf').2]
    exact ⟨_, hc₁, .inr (.inl rfl)⟩
  have hc₂ := hc₁.trans (Cursor.readWord_leadsTo (mapError_eq_ok.1 h₂))
  rcases bind_eq_error.1 h with h | ⟨c₃, -, h⟩
  · exact ⟨_, hc₂, .inr (.inr (Cursor.readExactly_error h))⟩
  · rw [Declaration.ofName_name] at h
    cases h

theorem Declaration.read_error {c : Cursor} {f : Failure} (h : Declaration.read c = .error f) :
    ∃ b c', c.LeadsTo c' ∧ f = Breach.failure b c'.pos ∧
      (b = .name ∧ EndsRun isLetter c.skipBlanks.ahead ∨
        b = .value ∧ ¬ EndsRun isLetter c.skipBlanks.ahead ∨ b.cause ≠ .noWord) := by
  have hc := c.leadsTo_skipBlanks
  rcases bind_eq_error.1 h with h | ⟨⟨name, c₁⟩, h₁, h⟩
  · obtain ⟨f', hf', rfl⟩ := mapError_eq_error.1 h
    obtain ⟨hl, rfl⟩ := Cursor.readWord_error hf'
    exact ⟨.name, _, hc, rfl, .inl ⟨rfl, hl⟩⟩
  have hl := Cursor.not_endsRun_of_readWord (mapError_eq_ok.1 h₁)
  have hc₁ := hc.trans (Cursor.readWord_leadsTo (mapError_eq_ok.1 h₁))
  dsimp only at h
  rcases hp : Property.ofName? name with _ | p
  · rw [hp] at h
    cases h
    exact ⟨.property name, c, .refl c, rfl, .inr (.inr (by simp [Breach.cause]))⟩
  · rw [hp, ← Property.ofName?_eq_some.1 hp] at h
    obtain ⟨c', hc', rfl | rfl | rfl⟩ := Declaration.readValue_error h
    · exact ⟨_, c', hc₁.trans hc', rfl, .inr (.inr (by simp [Breach.cause]))⟩
    · exact ⟨_, c', hc₁.trans hc', rfl, .inr (.inl ⟨rfl, hl⟩)⟩
    · exact ⟨_, c', hc₁.trans hc', rfl, .inr (.inr (by simp [Breach.cause]))⟩

/-- The loop over declarations fails in a declaration. -/
theorem Declaration.readAll_error {c : Cursor} {f : Failure}
    (h : Declaration.readAll c = .error f) :
    ∃ c', c.LeadsTo c' ∧ Declaration.read c' = .error f := by
  fun_induction Declaration.readAll c with
  | case1 => cases h
  | case2 start c _ f' hd =>
    cases h
    exact ⟨c, start.leadsTo_skipBlanks, hd⟩
  | case3 start c _ d c₁ hd =>
    rename_i ih
    rcases hr : Declaration.readAll c₁ with f' | ⟨es, c₂⟩ <;> rw [hr] at h <;> cases h
    obtain ⟨c', hc', hf⟩ := ih hr
    exact ⟨c', start.leadsTo_skipBlanks.trans ((Declaration.read_leadsTo hd).trans hc'), hf⟩

theorem Rule.read_error {c : Cursor} {f : Failure} (h : Rule.read c = .error f) :
    (∃ b c', c.LeadsTo c' ∧ f = Breach.failure b c'.pos ∧
      (b = .selector ∧ EndsRun isLetter c.skipBlanks.ahead ∨ b.cause ≠ .noWord)) ∨
      ¬ EndsRun isLetter c.skipBlanks.ahead ∧
        ∃ c', c.LeadsTo c' ∧ Declaration.read c' = .error f := by
  have hc := c.leadsTo_skipBlanks
  rcases bind_eq_error.1 h with h | ⟨⟨selector, c₁⟩, h₁, h⟩
  · obtain ⟨hl, rfl⟩ := Cursor.readWord_error h
    exact .inl ⟨.selector, _, hc, rfl, .inl ⟨rfl, hl⟩⟩
  have hl := Cursor.not_endsRun_of_readWord h₁
  have hc₁ := (hc.trans (Cursor.readWord_leadsTo h₁)).trans c₁.leadsTo_skipBlanks
  rcases bind_eq_error.1 h with h | ⟨c₂, h₂, h⟩
  · rw [Cursor.readExactly_error h]
    exact .inl ⟨.opening, _, hc₁, rfl, .inr (by simp [Breach.cause])⟩
  have hc₂ := hc₁.trans (Cursor.readExactly_leadsTo h₂)
  rcases bind_eq_error.1 h with h | ⟨⟨ds, c₃⟩, h₃, h⟩
  · obtain ⟨c', hc', hf⟩ := Declaration.readAll_error h
    exact .inr ⟨hl, c', hc₂.trans hc', hf⟩
  have hc₃ := hc₂.trans (Declaration.readAll_leadsTo h₃)
  rcases bind_eq_error.1 h with h | ⟨c₄, -, h⟩
  · rw [Cursor.readExactly_error h]
    exact .inl ⟨.closing, _, hc₃, rfl, .inr (by simp [Breach.cause])⟩
  · cases h

/-- The loop over rules fails in a rule. -/
theorem Rule.readAll_error {c : Cursor} {f : Failure} (h : (Rule.readAll c).2 = some f) :
    ∃ c', c.LeadsTo c' ∧ Rule.read c' = .error f := by
  fun_induction Rule.readAll c with
  | case1 => cases h
  | case2 start c _ f' hr =>
    cases h
    exact ⟨c, start.leadsTo_skipBlanks, hr⟩
  | case3 start c _ r c₁ hr =>
    rename_i rs f' hrec ih
    obtain ⟨c', hc', hf⟩ := ih (by rw [hrec]; exact h)
    exact ⟨c', start.leadsTo_skipBlanks.trans ((Rule.read_leadsTo hr).trans hc'), hf⟩

theorem Sheet.read_error {text : List Char} {f : Failure} (h : Sheet.read text = .error f) :
    ∃ c, (Cursor.start text).LeadsTo c ∧ Rule.read c = .error f := by
  unfold Sheet.read at h
  split at h
  · cases h
  · rename_i hr
    cases h
    exact Rule.readAll_error (by rw [hr])

end Stylesheet
