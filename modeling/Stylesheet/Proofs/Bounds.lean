import Stylesheet.Proofs.Announced

/-!
# How far reading gets

Reading starts at a position of a text, moves on and never leaves the text, wherever it starts. If
the position is before the text, nothing is read; from any other position each production either
succeeds further on, at the end of the text at most, or fails at a place that it came to
(`EndsInside`). A cursor that came through zero from below is no exception: it stands in the text
as if it had been placed there, with what is left of the text ahead of it.

So every round of a loop leaves less of the text to read (`Declaration.Round.nears_end`,
`Rule.Round.nears_end`), and a loop makes at most as many rounds as there are characters left.
-/

namespace Stylesheet

open Cursor

variable {text : List Char}

/-! ## What is ahead -/

section Ahead

variable {c c' : Cursor}

theorem Cursor.StandsIn.neg_le_pos (h : c.StandsIn text) : -(text.length : Int) ≤ c.pos := by
  rcases h.cases with ⟨hpos, -⟩ | ⟨j, hj, hpos, -⟩ <;> omega

theorem Cursor.StandsIn.length_ahead (h : c.StandsIn text) :
    c.ahead.length = (text.length - c.pos).toNat := by
  rcases h.cases with ⟨hpos, hahead⟩ | ⟨j, hj, hpos, hahead⟩
  · rw [hahead, List.length_drop]
    omega
  · rw [hahead, List.length_append, List.length_drop]
    omega

/-- Wherever a cursor is led to, it does not come past the end of the text. -/
theorem Cursor.StandsIn.pos_le_of_leadsTo (hc : c.StandsIn text) (h : c.LeadsTo c') :
    c'.pos ≤ max c.pos text.length := by
  obtain ⟨n, hn, rfl⟩ := h
  rw [hc.length_ahead] at hn
  simp only [Cursor.advance]
  omega

theorem Cursor.StandsIn.nears_end (hc : c.StandsIn text) (h : c.LeadsTo c')
    (hlt : c'.ahead.length < c.ahead.length) : c.pos < c'.pos ∧ c'.pos ≤ text.length := by
  have hle := hc.pos_le_of_leadsTo h
  rw [hc.length_ahead, (hc.of_leadsTo h).length_ahead] at hlt
  omega

end Ahead

/-! ## Failures -/

section Failures

variable {c : Cursor} {f : Failure}

/-- The failure is announced, and at a place that the cursor comes to. -/
def FailsAhead (text : List Char) (c : Cursor) (f : Failure) : Prop :=
  ∃ c' a, c.LeadsTo c' ∧ Trouble.ofFailure text f = .failed a ∧ a.report.offset = c'.pos

theorem failsAhead_pointed {c' : Cursor} (h : c.LeadsTo c') (cause : Cause) :
    FailsAhead text c (Failure.pointed ⟨cause, c'.pos, []⟩) := by
  obtain ⟨a, ha, -, hoffset, -⟩ := Failure.exists_announcement_pointed text cause c'.pos
  exact ⟨c', a, h, ha, hoffset⟩

theorem Breach.failsAhead {c' : Cursor} (h : c.LeadsTo c') (b : Breach) :
    FailsAhead text c (b.failure c'.pos) := by
  obtain ⟨a, ha, -, hoffset, -⟩ := b.exists_announcement text c'.pos
  exact ⟨c', a, h, ha, hoffset⟩

theorem Declaration.failsAhead (h : Declaration.read c = .error f) : FailsAhead text c f := by
  obtain ⟨b, c', hc', rfl, -⟩ := Declaration.read_error h
  exact b.failsAhead hc'

theorem Rule.failsAhead (h : Rule.read c = .error f) : FailsAhead text c f := by
  rcases Rule.read_error h with ⟨b, c', hc', rfl, -⟩ | ⟨-, c', hc', hd⟩
  · exact b.failsAhead hc'
  · obtain ⟨c'', a, hc'', ha, hoffset⟩ : FailsAhead text c' f := Declaration.failsAhead hd
    exact ⟨c'', a, hc'.trans hc'', ha, hoffset⟩

end Failures

/-! ## Productions -/

/-- Reading from the position either starts before the text, or gets further on in it, or fails
there. The cursor it gets to stands in the text. -/
def EndsInside {α : Type} (text : List Char) (start : Int) (stop : α → Cursor)
    (r : Except Trouble α) : Prop :=
  match r with
  | .ok x => -(text.length : Int) ≤ start ∧ start < (stop x).pos ∧ (stop x).pos ≤ text.length
    ∧ (stop x).StandsIn text
  | .error (.outside o) => start < -(text.length : Int) ∧ o.pos = start
  | .error (.failed a) => -(text.length : Int) ≤ start ∧ start ≤ a.report.offset
    ∧ a.report.offset ≤ max start text.length
  | .error (.template _) => False

theorem endsInside_parseAt {α : Type} {start : Int} {read : Cursor → Except Failure α}
    {stop : α → Cursor}
    (hok : ∀ c x, read c = .ok x →
      c.LeadsTo (stop x) ∧ (stop x).ahead.length < c.ahead.length)
    (herror : ∀ c f, read c = .error f → FailsAhead text c f) :
    EndsInside text start stop (parseAt text start read) := by
  rcases hp : Cursor.place text start with o | c
  · rw [parseAt, hp]
    exact Cursor.place_eq_error hp
  obtain ⟨rfl, hc⟩ := Cursor.place_eq_ok hp
  have hneg := hc.neg_le_pos
  rcases hr : read c with f | x
  · obtain ⟨c', a, hc', ha, hoffset⟩ := herror c f hr
    rw [parseAt_error hc hr, ha]
    refine ⟨hneg, ?_, ?_⟩
    · rw [hoffset]
      exact hc'.pos_le
    · rw [hoffset]
      exact hc.pos_le_of_leadsTo hc'
  · obtain ⟨hx, hlt⟩ := hok c x hr
    have hend := hc.nears_end hx hlt
    rw [parseAt_ok hp hr]
    exact ⟨hneg, hend.1, hend.2, hc.of_leadsTo hx⟩

/-! ## Loops -/

/-- A round of the loop over declarations from which the loop goes on. -/
structure Declaration.Round (c : Cursor) (d : Declaration) (c' : Cursor) : Prop where
  goes_on : c.skipBlanks.ahead.head?.all (· = '\x7d') = false
  reads : Declaration.read c.skipBlanks = .ok (d, c')

/-- A round of the loop over rules from which the loop goes on. -/
structure Rule.Round (c : Cursor) (r : Rule) (c' : Cursor) : Prop where
  goes_on : c.skipBlanks.ahead ≠ []
  reads : Rule.read c.skipBlanks = .ok (r, c')

section Loops

variable {c c' : Cursor}

theorem Declaration.readAll_round {d : Declaration} (h : Declaration.Round c d c') :
    Declaration.readAll c
      = (Declaration.readAll c').map fun (ds, last) => (d :: ds, last) := by
  rw [Declaration.readAll_eq, if_neg (by simp [h.goes_on]), h.reads]

theorem Rule.readAll_round {r : Rule} (h : Rule.Round c r c') :
    Rule.readAll c = (r :: (Rule.readAll c').1, (Rule.readAll c').2) := by
  rw [Rule.readAll_eq, if_neg h.goes_on, h.reads]

theorem Declaration.Round.nears_end {d : Declaration} (hc : c.StandsIn text)
    (h : Declaration.Round c d c') : c.pos < c'.pos ∧ c'.pos ≤ text.length :=
  hc.nears_end (c.leadsTo_skipBlanks.trans (Declaration.read_leadsTo h.reads))
    (Nat.lt_of_lt_of_le (Declaration.length_read_lt h.reads) c.length_skipBlanks_le)

theorem Rule.Round.nears_end {r : Rule} (hc : c.StandsIn text) (h : Rule.Round c r c') :
    c.pos < c'.pos ∧ c'.pos ≤ text.length :=
  hc.nears_end (c.leadsTo_skipBlanks.trans (Rule.read_leadsTo h.reads))
    (Nat.lt_of_lt_of_le (Rule.length_read_lt h.reads) c.length_skipBlanks_le)

/-- Each round takes a character at least. -/
theorem Declaration.length_le_of_readAll {ds : List Declaration}
    (h : Declaration.readAll c = .ok (ds, c')) : ds.length ≤ c.ahead.length := by
  fun_induction Declaration.readAll c generalizing ds c' with
  | case1 c =>
    cases h
    exact Nat.zero_le _
  | case2 => cases h
  | case3 start c _ d c₁ hd =>
    rename_i ih
    rcases hr : Declaration.readAll c₁ with f | ⟨es, c₂⟩ <;> rw [hr] at h <;> cases h
    have hlt : c₁.ahead.length < c.ahead.length := Declaration.length_read_lt hd
    have hle : c.ahead.length ≤ start.ahead.length := start.length_skipBlanks_le
    have hes := ih hr
    rw [List.length_cons]
    omega

theorem Rule.length_readAll_le (c : Cursor) : (Rule.readAll c).1.length ≤ c.ahead.length := by
  fun_induction Rule.readAll c with
  | case1 => exact Nat.zero_le _
  | case2 => exact Nat.zero_le _
  | case3 start c _ r c₁ hr =>
    rename_i rs f hrec ih
    have hlt : c₁.ahead.length < c.ahead.length := Rule.length_read_lt hr
    have hle : c.ahead.length ≤ start.ahead.length := start.length_skipBlanks_le
    rw [hrec] at ih
    rw [List.length_cons]
    dsimp only at ih
    omega

end Loops

/-- The loops come to an end from this cursor on: a round that goes on leaves less of the text, and
there are no more rounds than characters left. -/
structure LoopsEnd (text : List Char) (c : Cursor) : Prop where
  declaration : ∀ d c', Declaration.Round c d c' →
    Declaration.readAll c = (Declaration.readAll c').map (fun (ds, last) => (d :: ds, last)) ∧
      text.length - c'.pos < text.length - c.pos ∧ 0 ≤ text.length - c'.pos
  declarations : ∀ ds c', Declaration.readAll c = .ok (ds, c') →
    ds.length ≤ (text.length - c.pos).toNat
  rule : ∀ r c', Rule.Round c r c' →
    Rule.readAll c = (r :: (Rule.readAll c').1, (Rule.readAll c').2) ∧
      text.length - c'.pos < text.length - c.pos ∧ 0 ≤ text.length - c'.pos
  rules : (Rule.readAll c).1.length ≤ (text.length - c.pos).toNat

theorem loopsEnd {c : Cursor} (hc : c.StandsIn text) : LoopsEnd text c := by
  refine ⟨fun d c' h => ⟨Declaration.readAll_round h, ?_⟩, fun ds c' h => ?_,
    fun r c' h => ⟨Rule.readAll_round h, ?_⟩, ?_⟩
  · have := h.nears_end hc
    omega
  · rw [← hc.length_ahead]
    exact Declaration.length_le_of_readAll h
  · have := h.nears_end hc
    omega
  · rw [← hc.length_ahead]
    exact Rule.length_readAll_le c

/-- Wherever it starts, a production stays between its start and the end of the text, and so does
every loop, which is why they all come to an end. A sheet is read within the text. -/
theorem reading_bounded (text : List Char) (start : Int) (expected : String) :
    EndsInside text start Prod.snd (parseAt text start Cursor.readWord) ∧
      EndsInside text start id (parseAt text start (Cursor.readExactly expected)) ∧
      EndsInside text start Prod.snd (Declaration.parseAt text start) ∧
      EndsInside text start Prod.snd (Rule.parseAt text start) ∧
      (∀ c : Cursor, c.StandsIn text → LoopsEnd text c) ∧
      ((∃ s, Sheet.parse text = .ok s) ∨
        ∃ a, Sheet.parse text = .error (.failed a) ∧ 0 ≤ a.report.offset
          ∧ a.report.offset ≤ text.length) := by
  refine ⟨?_, ?_, ?_, ?_, fun c hc => loopsEnd hc, ?_⟩
  · refine endsInside_parseAt (fun c x h => ?_) fun c f h => ?_
    · exact ⟨Cursor.readWord_leadsTo h, Cursor.length_readWord_lt h⟩
    · rw [(Cursor.readWord_error h).2]
      exact failsAhead_pointed (.refl c) _
  · refine endsInside_parseAt (fun c x h => ?_) fun c f h => ?_
    · exact ⟨Cursor.readExactly_leadsTo h, Cursor.length_readExactly_lt h⟩
    · rw [Cursor.readExactly_error h]
      exact failsAhead_pointed (.refl c) _
  · refine endsInside_parseAt (fun c x h => ?_) fun c f h => Declaration.failsAhead h
    exact ⟨Declaration.read_leadsTo h, Declaration.length_read_lt h⟩
  · refine endsInside_parseAt (fun c x h => ?_) fun c f h => Rule.failsAhead h
    exact ⟨Rule.read_leadsTo h, Rule.length_read_lt h⟩
  · rcases hr : Sheet.read text with f | s
    · obtain ⟨c, hc, hf⟩ := Sheet.read_error hr
      obtain ⟨c', a, hc', ha, hoffset⟩ : FailsAhead text c f := Rule.failsAhead hf
      have hstart := hc.trans hc'
      have hle := (Cursor.standsIn_start text).pos_le_of_leadsTo hstart
      refine .inr ⟨a, by rw [Sheet.parse, hr, mapError_error, ha], ?_, ?_⟩
      · rw [hoffset]
        exact hstart.pos_le
      · have hzero : (Cursor.start text).pos = 0 := rfl
        omega
    · exact .inl ⟨s, by rw [Sheet.parse, hr, mapError_ok]⟩

end Stylesheet
