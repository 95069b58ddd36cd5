import Stylesheet.Proofs.Announced
import Stylesheet.Proofs.Breach

/-!
# The rejected texts

A text is rejected exactly if it breaks the grammar somewhere, and it does so in one way and at one
place only. The eight ways are said here for the text as a whole: it starts with the text of a
sheet or with an open block, goes on as far as it does, and what comes next is not what is due.
Each of them is a failure of its own, announced at the place of the breach.

The closing brace can be missing at the end of the text only, since anything else in a block is
taken for a declaration, and a word that names no property is a breach whatever comes behind it.
-/

namespace Stylesheet

/-- The text breaks the grammar in this way at this place. -/
inductive Breach.At : Breach → List Char → Nat → Prop where
  | selector {v s : List Char} {c : Char} {r : Sheet} :
    Sheet.Derives v r → isBlank c = false → isLetter c = false →
      At .selector (v ++ c :: s) v.length
  | opening {v selector w s : List Char} {r : Sheet} :
    Sheet.Derives v r → IsWord selector → IsBlanks w → EndsRun isLetter (w ++ s) →
      EndsRun isBlank s → s.head? ≠ some '\x7b' →
      At .opening (v ++ selector ++ w ++ s) (v ++ selector ++ w).length
  | closing {u : List Char} : OpenBlock u → At .closing u u.length
  | name {u s : List Char} {c : Char} :
    OpenBlock u → isBlank c = false → isLetter c = false → c ≠ '\x7d' →
      At .name (u ++ c :: s) u.length
  | property {u name s : List Char} :
    OpenBlock u → IsWord name → EndsRun isLetter s → (∀ p : Property, p.name.toList ≠ name) →
      At (.property (String.ofList name)) (u ++ name ++ s) u.length
  | colon (p : Property) {u w s : List Char} :
    OpenBlock u → IsBlanks w → EndsRun isLetter (w ++ s) → EndsRun isBlank s →
      s.head? ≠ some ':' →
      At .colon (u ++ p.name.toList ++ w ++ s) (u ++ p.name.toList ++ w).length
  | value (p : Property) {u w₁ w₂ s : List Char} :
    OpenBlock u → IsBlanks w₁ → IsBlanks w₂ → EndsRun isBlank s → EndsRun isLetter s →
      At .value (u ++ p.name.toList ++ w₁ ++ ':' :: w₂ ++ s)
        (u ++ p.name.toList ++ w₁ ++ ':' :: w₂).length
  | semicolon (p : Property) {u w₁ w₂ value s : List Char} :
    OpenBlock u → IsBlanks w₁ → IsBlanks w₂ → IsWord value → EndsRun isLetter s →
      s.head? ≠ some ';' →
      At .semicolon (u ++ p.name.toList ++ w₁ ++ ':' :: w₂ ++ value ++ s)
        (u ++ p.name.toList ++ w₁ ++ ':' :: w₂ ++ value).length

/-! ## Open blocks -/

variable {text : List Char} {b : Breach} {k : Nat}

/-- A rule that goes on behind a sheet is an open block, if the blanks between them count to the
sheet. -/
theorem Rule.Opens.openBlock {v u : List Char} {s : Sheet} {r : Rule} (hu : Rule.Opens u r)
    (hv : Sheet.Derives v s) (hs : EndsRun isBlank u) : OpenBlock (v ++ u) := by
  obtain ⟨hw, hsel, h₁, h₂, hds⟩ := hu
  rename_i w selector w₁ w₂ block ds
  rcases w with _ | ⟨c, w⟩
  · simpa using OpenBlock.mk hv hsel h₁ h₂ hds
  · have hc := hw c List.mem_cons_self
    rw [endsRun_cons.1 hs] at hc
    cases hc

theorem OpenBlock.exists_opens {u : List Char} (h : OpenBlock u) :
    ∃ v s c u' r, u = v ++ c :: u' ∧ Sheet.Derives v s ∧ isBlank c = false
      ∧ Rule.Opens (c :: u') r := by
  obtain ⟨hv, hsel, h₁, h₂, hds⟩ := h
  rename_i v selector w₁ w₂ block s ds
  obtain ⟨c, w, rfl, hc, -⟩ := hsel.exists_cons
  exact ⟨v, s, c, w ++ w₁ ++ '\x7b' :: w₂ ++ block, _, by simp, hv,
    isBlank_eq_false_of_isLetter hc, .mk isBlanks_nil hsel h₁ h₂ hds⟩

/-- A declaration that breaks off in an open block breaks the sheet. -/
theorem OpenBlock.breaks {u s : List Char} {c : Char} (hu : OpenBlock u)
    (hc : isBlank c = false) (hbrace : c ≠ '\x7d') (h : Declaration.Breaks (c :: s) b k) :
    Sheet.Breaks (u ++ c :: s) b (u.length + k) := by
  obtain ⟨v, sh, d, u', r, rfl, hv, hd, hu'⟩ := hu.exists_opens
  have hb := Sheet.Breaks.rule hv hd (Rule.Breaks.declaration hu' hc hbrace h)
  rw [List.append_assoc, List.length_append, Nat.add_assoc]
  exact hb

/-- So does one that starts with a word. -/
theorem OpenBlock.breaks_word {u name s : List Char} (hu : OpenBlock u) (hn : IsWord name)
    (h : Declaration.Breaks (name ++ s) b k) :
    Sheet.Breaks (u ++ (name ++ s)) b (u.length + k) := by
  obtain ⟨c, w, rfl, hc, -⟩ := hn.exists_cons
  refine hu.breaks (isBlank_eq_false_of_isLetter hc) ?_ h
  rintro rfl
  exact absurd hc (by decide)

/-! ## The two ways to say it -/

theorem Breach.At.breaks (h : b.At text k) : Sheet.Breaks text b k := by
  cases h with
  | selector hv hc hl =>
    exact .rule hv hc (.selector isBlanks_nil (endsRun_cons.2 hc) (endsRun_cons.2 hl))
  | @opening v selector w s r hv hsel hw hl hs hbrace =>
    obtain ⟨c, t, rfl, hc, -⟩ := hsel.exists_cons
    have hb := Rule.Breaks.opening isBlanks_nil hsel hw hl hs hbrace
    simpa using Sheet.Breaks.rule hv (isBlank_eq_false_of_isLetter hc) hb
  | closing hu =>
    obtain ⟨v, sh, c, u', r, rfl, hv, hc, hu'⟩ := hu.exists_opens
    simpa using Sheet.Breaks.rule hv hc (Rule.Breaks.closing hu')
  | name hu hc hl hbrace =>
    exact hu.breaks hc hbrace (.name isBlanks_nil (endsRun_cons.2 hc) (endsRun_cons.2 hl))
  | property hu hn hl hp =>
    simpa using hu.breaks_word hn (.property isBlanks_nil hn hl hp)
  | colon p hu hw hl hs hc =>
    have hb := Declaration.Breaks.colon p isBlanks_nil hw hl hs hc
    simpa using hu.breaks_word p.isWord_name (by simpa using hb)
  | value p hu h₁ h₂ hs hl =>
    have hb := Declaration.Breaks.value p isBlanks_nil h₁ h₂ hs hl
    simpa using hu.breaks_word p.isWord_name (by simpa using hb)
  | semicolon p hu h₁ h₂ hv hl hc =>
    have hb := Declaration.Breaks.semicolon p isBlanks_nil h₁ h₂ hv hl hc
    simpa using hu.breaks_word p.isWord_name (by simpa using hb)

theorem Declaration.Breaks.at {u s : List Char} {c : Char} (h : Declaration.Breaks (c :: s) b k)
    (hu : OpenBlock u) (hc : isBlank c = false) (hbrace : c ≠ '\x7d') :
    b.At (u ++ c :: s) (u.length + k) := by
  -- The text starts with no blank, so the blanks that a declaration may start with are none.
  generalize ht : c :: s = t at h
  cases h with
  | @name w s' hw hs hl =>
    obtain ⟨rfl, rfl⟩ := hw.eq_nil_of_append ht.symm hc
    exact .name hu hc (endsRun_cons.1 hl) hbrace
  | @property w name s' hw hn hl hp =>
    rw [List.append_assoc] at ht
    obtain ⟨rfl, -⟩ := hw.eq_nil_of_append ht.symm hc
    simpa using Breach.At.property hu hn hl hp
  | @colon p w w₁ s' hw h₁ hl hs hc' =>
    rw [List.append_assoc, List.append_assoc] at ht
    obtain ⟨rfl, -⟩ := hw.eq_nil_of_append ht.symm hc
    simpa using Breach.At.colon p hu h₁ hl hs hc'
  | @value p w w₁ w₂ s' hw h₁ h₂ hs hl =>
    rw [List.append_assoc, List.append_assoc, List.append_assoc] at ht
    obtain ⟨rfl, -⟩ := hw.eq_nil_of_append ht.symm hc
    simpa using Breach.At.value p hu h₁ h₂ hs hl
  | @semicolon p w w₁ w₂ value s' hw h₁ h₂ hv hl hc' =>
    rw [List.append_assoc, List.append_assoc, List.append_assoc, List.append_assoc] at ht
    obtain ⟨rfl, -⟩ := hw.eq_nil_of_append ht.symm hc
    simpa using Breach.At.semicolon p hu h₁ h₂ hv hl hc'

theorem Sheet.Breaks.at (h : Sheet.Breaks text b k) : b.At text k := by
  obtain @⟨v, s, c, sh, b, k, hv, hc, hr⟩ := h
  generalize ht : c :: s = t at hr
  cases hr with
  | @selector w s' hw hs hl =>
    obtain ⟨rfl, rfl⟩ := hw.eq_nil_of_append ht.symm hc
    exact .selector hv hc (endsRun_cons.1 hl)
  | @opening w selector w₁ s' hw hsel h₁ hl hs hbrace =>
    rw [List.append_assoc, List.append_assoc] at ht
    obtain ⟨rfl, -⟩ := hw.eq_nil_of_append ht.symm hc
    simpa using Breach.At.opening hv hsel h₁ hl hs hbrace
  | closing hu =>
    have hs : EndsRun isBlank t := ht ▸ endsRun_cons.2 hc
    simpa using Breach.At.closing (hu.openBlock hv hs)
  | @declaration u s' d r b' k' hu hd hbrace hb =>
    have hs : EndsRun isBlank (u ++ d :: s') := ht ▸ endsRun_cons.2 hc
    have hopen : OpenBlock (v ++ u) := hu.openBlock hv (hs.of_append)
    simpa [Nat.add_assoc] using hb.at hopen hd hbrace

/-! ## Rejection -/

theorem Sheet.parse_derives {s : Sheet} (h : Sheet.Derives text s) : Sheet.parse text = .ok s := by
  rw [Sheet.parse, Sheet.read_derives h, mapError_ok]

theorem Sheet.exists_at (text : List Char) :
    (∃ s, Sheet.parse text = .ok s) ∨ ∃ b k, Breach.At b text k := by
  rcases Sheet.derives_or_breaks text with ⟨s, hs⟩ | ⟨b, k, hb⟩
  · exact .inl ⟨s, Sheet.parse_derives hs⟩
  · exact .inr ⟨b, k, hb.at⟩

/-- What a broken text fails with. -/
theorem Breach.At.exists_announcement (h : b.At text k) :
    ∃ a, Sheet.parse text = .error (.failed a) ∧ a.report.cause = b.cause
      ∧ a.report.offset = k ∧ a.Tells text b.part := by
  obtain ⟨a, ha, hcause, hoffset, ht⟩ := b.exists_announcement text k
  exact ⟨a, by rw [Sheet.parse, Sheet.read_breaks h.breaks, mapError_error, ha], hcause, hoffset,
    ht⟩

theorem Breach.At.unique {b' : Breach} {k' : Nat} (h : b.At text k) (h' : b'.At text k') :
    b' = b ∧ k' = k := by
  have hr := Sheet.read_breaks h.breaks
  rw [Sheet.read_breaks h'.breaks] at hr
  obtain ⟨hb, hk⟩ := Breach.failure_injective (Except.error.inj hr)
  exact ⟨hb, Int.ofNat_inj.1 hk⟩

/-- A text is rejected if and only if it breaks the grammar, which it does in one way at one place,
and the breach decides what it is rejected with. -/
theorem Sheet.parse_eq_error (text : List Char) :
    ((∃ t, Sheet.parse text = .error t) ↔ ∃ b k, Breach.At b text k) ∧
      (∀ b k b' k', Breach.At b text k → Breach.At b' text k' → b' = b ∧ k' = k) ∧
      ∀ b k, Breach.At b text k →
        ∃ a, Sheet.parse text = .error (.failed a) ∧ a.report.cause = b.cause
          ∧ a.report.offset = k ∧ a.Tells text b.part := by
  refine ⟨⟨fun ⟨t, ht⟩ => ?_, fun ⟨b, k, h⟩ => ?_⟩, fun b k b' k' h h' => h.unique h',
    fun b k h => h.exists_announcement⟩
  · rcases Sheet.exists_at text with ⟨s, hs⟩ | h
    · rw [hs] at ht
      cases ht
    · exact h
  · obtain ⟨a, ha, -⟩ := h.exists_announcement
    exact ⟨_, ha⟩

end Stylesheet
