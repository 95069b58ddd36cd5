import Stylesheet.Proofs.Joined
import Stylesheet.Proofs.Rejected

/-!
# Which texts can be completed

A breach is settled at its place, or behind the word if that names no property: once the text goes
on from there, nothing that comes later changes it (`Breach.At.append`). A breach at the very end
of the text is not settled yet. Then the rest of a declaration, of a block or of a rule can still
come, and the text that goes on with it is accepted (`Breach.At.exists_completion`). A word at the
end can grow into the name of a property, but only if that starts with the word.
-/

namespace Stylesheet

variable {text : List Char} {b : Breach} {k : Nat}

/-! ## Settled breaches -/

/-- Where the breach is settled. -/
def Breach.stop : Breach → Nat → Nat
  | property word, k => k + word.length
  | _, k => k

theorem Breach.At.append (h : b.At text k) (hk : b.stop k < text.length) (t : List Char) :
    b.At (text ++ t) k := by
  cases h with
  | selector hv hc hl => simpa using At.selector (s := _ ++ t) hv hc hl
  | @opening v selector w s r hv hsel hw hl hs hbrace =>
    obtain ⟨c, s, rfl⟩ := exists_cons_of_length_lt hk
    have hl' := hl.append (by simp) t
    rw [List.append_assoc] at hl' ⊢
    exact .opening hv hsel hw hl' (hs.append (List.cons_ne_nil c s) t) hbrace
  | closing hu => exact absurd hk (Nat.lt_irrefl _)
  | name hu hc hl hbrace => simpa using At.name (s := _ ++ t) hu hc hl hbrace
  | @property u name s hu hn hl hp =>
    obtain ⟨c, s, rfl⟩ := exists_cons_of_length_lt (u := u ++ name) (by simpa [stop] using hk)
    rw [List.append_assoc]
    exact .property hu hn (hl.append (List.cons_ne_nil c s) t) hp
  | @colon p u w s hu hw hl hs hcolon =>
    obtain ⟨c, s, rfl⟩ := exists_cons_of_length_lt hk
    have hl' := hl.append (by simp) t
    rw [List.append_assoc] at hl' ⊢
    exact .colon p hu hw hl' (hs.append (List.cons_ne_nil c s) t) hcolon
  | @value p u w₁ w₂ s hu h₁ h₂ hs hl =>
    obtain ⟨c, s, rfl⟩ := exists_cons_of_length_lt hk
    have hne := List.cons_ne_nil c s
    rw [List.append_assoc]
    exact .value p hu h₁ h₂ (hs.append hne t) (hl.append hne t)
  | @semicolon p u w₁ w₂ value s hu h₁ h₂ hv hl hsemi =>
    obtain ⟨c, s, rfl⟩ := exists_cons_of_length_lt hk
    rw [List.append_assoc]
    exact .semicolon p hu h₁ h₂ hv (hl.append (List.cons_ne_nil c s) t) hsemi

theorem Breach.At.stop_le (h : b.At text k) : b.stop k ≤ text.length := by
  cases h <;> simp [stop, String.length_ofList]

/-! ## Completions -/

theorem OpenBlock.exists_derives {u : List Char} (hu : OpenBlock u) :
    ∃ s, Sheet.Derives (u ++ ['\x7d']) s := by
  obtain ⟨hv, hsel, h₁, h₂, hds⟩ := hu
  exact ⟨_, by simpa using hv.append_rule (.mk hsel h₁ h₂ hds)⟩

/-- An open block can be completed at the end of a declaration, wherever that starts. -/
theorem OpenBlock.exists_completion {u t : List Char} {d : Declaration} (hu : OpenBlock u)
    (hd : Declaration.Derives t d) : ∃ s, Sheet.Derives (u ++ t ++ ['\x7d']) s :=
  (hu.append_declaration hd).exists_derives

theorem isWord_a : IsWord ['a'] := by
  refine ⟨by simp, fun c hc => ?_⟩
  rw [List.mem_singleton.1 hc]
  decide

/-- A text that stops where it breaks the grammar can be completed. -/
theorem Breach.At.exists_completion (h : b.At text k) (hk : k = text.length) :
    ∃ t s, Sheet.Derives (text ++ t) s := by
  cases h with
  | selector => simp at hk
  | @opening v selector w s r hv hsel hw _ _ _ =>
    obtain rfl : s = [] := by simpa using hk
    exact ⟨['\x7b', '\x7d'], _, by simpa using hv.append_rule (.mk hsel hw isBlanks_nil .nil)⟩
  | closing hu => exact ⟨['\x7d'], hu.exists_derives⟩
  | name => simp at hk
  | @property u name s hu hn =>
    have := hn.1
    simp_all
  | @colon p u w s hu hw =>
    obtain rfl : s = [] := by simpa using hk
    have hd := Declaration.Derives.mk p hw isBlanks_nil isWord_a
    obtain ⟨sh, hs⟩ := hu.exists_completion hd
    exact ⟨[':', 'a', ';', '\x7d'], sh, by simpa using hs⟩
  | @value p u w₁ w₂ s hu h₁ h₂ =>
    obtain rfl : s = [] := by simpa using hk
    have hd := Declaration.Derives.mk p h₁ h₂ isWord_a
    obtain ⟨sh, hs⟩ := hu.exists_completion hd
    exact ⟨['a', ';', '\x7d'], sh, by simpa using hs⟩
  | @semicolon p u w₁ w₂ value s hu h₁ h₂ hv =>
    obtain rfl : s = [] := by simpa using hk
    have hd := Declaration.Derives.mk p h₁ h₂ hv
    obtain ⟨sh, hs⟩ := hu.exists_completion hd
    exact ⟨[';', '\x7d'], sh, by simpa using hs⟩

/-- So can one that stops in the name of a property. -/
theorem Breach.At.exists_completion_name {word : String} (p : Property)
    (h : (Breach.property word).At text k) (hk : k + word.length = text.length)
    (hp : word.toList <+: p.name.toList) : ∃ t s, Sheet.Derives (text ++ t) s := by
  cases h with
  | @property u name s hu =>
    obtain rfl : s = [] := by simpa [Nat.add_assoc] using hk
    obtain ⟨t, ht⟩ := hp
    rw [String.toList_ofList] at ht
    have hd := Declaration.Derives.mk p isBlanks_nil isBlanks_nil isWord_a
    obtain ⟨sh, hs⟩ := hu.exists_completion hd
    exact ⟨t ++ [':', 'a', ';', '\x7d'], sh, by simpa [← ht] using hs⟩

/-! ## Viable texts -/

theorem Breach.At.parse_ne_ok (h : b.At text k) (s : Sheet) : Sheet.parse text ≠ .ok s := by
  obtain ⟨a, ha, -⟩ := h.exists_announcement
  rw [ha]
  exact fun h => by cases h

/-- A word that names no property, at the end of a text that can be completed, is the start of
a name. -/
theorem Breach.At.exists_property {word : String} {t : List Char} {s : Sheet}
    (h : (Breach.property word).At text k) (hk : k + word.length = text.length)
    (ht : Sheet.parse (text ++ t) = .ok s) :
    ∃ p : Property, word.toList <+: p.name.toList ∧ word ≠ p.name := by
  cases h with
  | @property u name r hu hn hl hp =>
    obtain rfl : r = [] := by simpa [Nat.add_assoc] using hk
    -- The word that is read of the longer text takes in the letters that come next.
    obtain ⟨w, t, rfl, hw, hl'⟩ := exists_run isLetter t
    by_cases hname : ∃ p : Property, p.name.toList = name ++ w
    · obtain ⟨p, hp'⟩ := hname
      refine ⟨p, ⟨w, by rw [String.toList_ofList, hp']⟩, fun h => hp p ?_⟩
      rw [← h, String.toList_ofList]
    · have hb := Breach.At.property hu (hn.append hw) hl' fun p h => hname ⟨p, h⟩
      rw [List.append_nil, ← List.append_assoc, List.append_assoc u] at ht
      exact absurd ht (hb.parse_ne_ok s)

/-- The text stops short: its failure is at the end, or it is a word at the end that the name of a
property goes on from. -/
inductive Report.StopsShort (text : List Char) (r : Report) : Prop where
  | word : r.cause = .noWord → r.offset = text.length → StopsShort text r
  | missing (expected : String) :
    r.cause = .missing expected → r.offset = text.length → StopsShort text r
  | name (p : Property) (word : String) :
    r.cause = .unknownProperty word → r.offset + word.length = text.length →
      word.toList <+: p.name.toList → word ≠ p.name → StopsShort text r

/-- A text can be completed exactly if it is accepted as it is or stops short. -/
theorem Sheet.exists_completion_iff (text : List Char) :
    (∃ t s, Sheet.parse (text ++ t) = .ok s) ↔
      (∃ s, Sheet.parse text = .ok s) ∨
        ∃ a, Sheet.parse text = .error (.failed a) ∧ a.report.StopsShort text := by
  refine ⟨fun ⟨t, s, ht⟩ => ?_, ?_⟩
  · rcases Sheet.exists_at text with h | ⟨b, k, h⟩
    · exact .inl h
    obtain ⟨a, ha, hcause, hoffset, -⟩ := h.exists_announcement
    refine .inr ⟨a, ha, ?_⟩
    have hstop : b.stop k = text.length := by
      refine Nat.le_antisymm h.stop_le (Nat.le_of_not_lt fun hk => ?_)
      exact (h.append hk t).parse_ne_ok s ht
    have hend : b.stop k = k → a.report.offset = text.length := by
      intro hk
      rw [hoffset, ← hk, hstop]
    cases b with
    | property word =>
      obtain ⟨p, hp, hne⟩ := h.exists_property hstop ht
      refine .name p word hcause ?_ hp hne
      rw [hoffset, ← hstop, Breach.stop, Int.natCast_add]
    | selector | name | value => exact .word hcause (hend rfl)
    | opening | closing | colon | semicolon => exact .missing _ hcause (hend rfl)
  · rintro (⟨s, hs⟩ | ⟨a, ha, hshort⟩)
    · exact ⟨[], s, by rwa [List.append_nil]⟩
    rcases Sheet.exists_at text with ⟨s, hs⟩ | ⟨b, k, h⟩
    · rw [hs] at ha
      cases ha
    obtain ⟨a', ha', hcause, hoffset, -⟩ := h.exists_announcement
    obtain rfl : a = a' := by simpa [ha] using ha'
    have hmend : ∃ t s, Sheet.Derives (text ++ t) s := by
      cases hshort with
      | word _ hend => exact h.exists_completion (by omega)
      | missing _ _ hend => exact h.exists_completion (by omega)
      | name p word hword hend hp _ =>
        obtain rfl : b = .property word := by
          rw [hcause] at hword
          cases b <;> simp_all [Breach.cause]
        exact h.exists_completion_name p (by omega) hp
    obtain ⟨t, s, ht⟩ := hmend
    exact ⟨t, s, Sheet.parse_derives ht⟩

end Stylesheet
