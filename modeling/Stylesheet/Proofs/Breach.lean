import Stylesheet.Proofs.Derived

/-!
# Breaches of the grammar

A text that the grammar does not derive breaks it at one place and in one way. The relations say
which, of a declaration, a rule and a sheet, without reading: what comes before the place is
derived as far as it goes, and what comes next is not what is due. The place is counted from the
start of the text.

A broken text is read as the failure of its breach (`Declaration.read_breaks`, `Rule.read_breaks`),
and every text either starts with a derived one or is broken (`Declaration.derives_or_breaks`,
`Rule.derives_or_breaks`). A text cannot be both, as it is read in one way only.
-/

namespace Stylesheet

/-- What was due where a text breaks the grammar. -/
inductive Breach where
  | selector
  | opening
  | closing
  | name
  /-- A word that names a property, in place of this one. -/
  | property (word : String)
  | colon
  | value
  | semicolon
deriving DecidableEq

namespace Breach

def cause : Breach → Cause
  | selector | name | value => .noWord
  | opening => .missing "\x7b"
  | closing => .missing "\x7d"
  | property word => .unknownProperty word
  | colon => .missing ":"
  | semicolon => .missing ";"

/-- The word of a declaration that is missing. -/
def part : Breach → Option Part
  | name => some .name
  | value => some .value
  | _ => none

/-- The failure of the breach: pointed at, and noted for the word that is missing. -/
def failure : Breach → Int → Failure
  | property word, offset => .unknownProperty word offset
  | b, offset => ⟨b.cause, offset,
      .point offset b.cause.message [] :: (b.part.map fun p => .note p.note).toList⟩

theorem failure_injective {b b' : Breach} {k k' : Int} (h : b.failure k = b'.failure k') :
    b = b' ∧ k = k' := by
  cases b <;> cases b' <;> simp_all [failure, cause, part, Failure.unknownProperty, Part.note]

/-! ### Where it is decided -/

/-- Where the breach of this text is decided. For a word that names no property that is the end of
the word, and its place may be in front of blanks that the word has before it. -/
def decided (b : Breach) (s : List Char) (k : Nat) : Nat :=
  match b with
  | property word => k + ((s.drop k).takeWhile isBlank).length + word.length
  | _ => k

theorem le_decided (b : Breach) (s : List Char) (k : Nat) : k ≤ b.decided s k := by
  cases b <;> simp only [decided] <;> omega

theorem decided_append (b : Breach) (u s : List Char) (k : Nat) :
    b.decided (u ++ s) (u.length + k) = u.length + b.decided s k := by
  cases b with
  | property word =>
    have hdrop : (u ++ s).drop (u.length + k) = s.drop k := by simp [List.drop_append]
    simp only [decided, hdrop]
    omega
  | _ => rfl

theorem decided_property {w name : List Char} (hw : IsBlanks w) (hn : IsWord name)
    (s : List Char) :
    (property (String.ofList name)).decided (w ++ name ++ s) 0 = (w ++ name).length := by
  simp only [decided, List.drop_zero, Nat.zero_add, List.append_assoc,
    takeWhile_run hw (hn.endsRun s), String.length_ofList, List.length_append]

end Breach

/-! ## Declarations -/

/-- The texts that start with blanks and a declaration that breaks off. A word that names no
property counts at the start of the text. -/
inductive Declaration.Breaks : List Char → Breach → Nat → Prop where
  | name {w s : List Char} :
    IsBlanks w → EndsRun isBlank s → EndsRun isLetter s → Breaks (w ++ s) .name w.length
  | property {w name s : List Char} :
    IsBlanks w → IsWord name → EndsRun isLetter s → (∀ p : Property, p.name.toList ≠ name) →
      Breaks (w ++ name ++ s) (.property (String.ofList name)) 0
  | colon (p : Property) {w w₁ s : List Char} :
    IsBlanks w → IsBlanks w₁ → EndsRun isLetter (w₁ ++ s) → EndsRun isBlank s →
      s.head? ≠ some ':' →
      Breaks (w ++ p.name.toList ++ w₁ ++ s) .colon (w ++ p.name.toList ++ w₁).length
  | value (p : Property) {w w₁ w₂ s : List Char} :
    IsBlanks w → IsBlanks w₁ → IsBlanks w₂ → EndsRun isBlank s → EndsRun isLetter s →
      Breaks (w ++ p.name.toList ++ w₁ ++ ':' :: w₂ ++ s) .value
        (w ++ p.name.toList ++ w₁ ++ ':' :: w₂).length
  | semicolon (p : Property) {w w₁ w₂ value s : List Char} :
    IsBlanks w → IsBlanks w₁ → IsBlanks w₂ → IsWord value → EndsRun isLetter s →
      s.head? ≠ some ';' →
      Breaks (w ++ p.name.toList ++ w₁ ++ ':' :: w₂ ++ value ++ s) .semicolon
        (w ++ p.name.toList ++ w₁ ++ ':' :: w₂ ++ value).length

variable {n : Nat} {pos : Int}

theorem Declaration.readValue_no_colon (p : Property) {w₁ s : List Char} (h₁ : IsBlanks w₁)
    (hs : EndsRun isBlank s) (hc : s.head? ≠ some ':') :
    Declaration.readValue p.name ⟨n, pos, w₁ ++ s⟩
      = .error (Breach.colon.failure (pos + w₁.length)) := by
  simp only [Declaration.readValue, Cursor.skipBlanks_blanks h₁ hs,
    Cursor.readExactly_head_ne (show ":".toList = [':'] from rfl) hc, bind, Except.bind]
  rfl

theorem Declaration.read_breaks {s : List Char} {b : Breach} {k : Nat}
    (hpos : 0 ≤ pos ∨ pos + b.decided s k < 0) (h : Declaration.Breaks s b k) :
    Declaration.read ⟨n, pos, s⟩ = .error (b.failure (pos + k)) := by
  have hk : 0 ≤ pos ∨ pos + k < 0 := by
    have := b.le_decided s k
    omega
  cases h with
  | @name w s hw hs hl =>
    simp only [Declaration.read, Cursor.skipBlanks_blanks hw hs, Cursor.readWord_endsRun hl,
      mapError_error, bind, Except.bind]
    rfl
  | @property w name s hw hn hl hp =>
    have hword : 0 ≤ pos + (w.length : Int) ∨ pos + w.length + name.length < 0 := by
      rw [Breach.decided_property hw hn, List.length_append] at hpos
      omega
    simp only [Declaration.read, List.append_assoc, Cursor.skipBlanks_blanks hw (hn.endsRun s),
      Cursor.readWord_letters hword hn hl, mapError_ok,
      Property.ofName?_eq_none hp, Option.isNone_none, if_true, bind, Except.bind, throw, throwThe,
      MonadExceptOf.throw, Int.natCast_zero, Int.add_zero]
    rfl
  | @colon p w w₁ s hw h₁ hl hs hc =>
    have hend : pos + (w ++ p.name.toList).length + w₁.length
        = pos + (w ++ p.name.toList ++ w₁).length := by
      simp only [List.length_append]
      omega
    have hname : 0 ≤ pos ∨ pos + (w ++ p.name.toList).length < 0 := by omega
    rw [List.append_assoc, List.append_assoc, Declaration.read_name p hname hw hl,
      Declaration.readValue_no_colon p h₁ hs hc, hend]
  | @value p w w₁ w₂ s hw h₁ h₂ hs hl =>
    rw [Declaration.read_colon p (by omega) hw h₁ h₂ hs, Cursor.readWord_endsRun hl]
    rfl
  | @semicolon p w w₁ w₂ value s hw h₁ h₂ hv hl hc =>
    have hend : pos + (w ++ p.name.toList ++ w₁ ++ ':' :: w₂).length + value.length
        = pos + (w ++ p.name.toList ++ w₁ ++ ':' :: w₂ ++ value).length := by
      simp only [List.length_append]
      omega
    rw [List.append_assoc _ value, Declaration.read_colon p (by omega) hw h₁ h₂ (hv.endsRun s),
      Cursor.readWord_letters (by omega) hv hl]
    simp only [mapError_ok, bind, Except.bind,
      Cursor.readExactly_head_ne (show ";".toList = [';'] from rfl) hc, hend]
    rfl

/-- A text starts with a declaration, or with one that breaks off. -/
theorem Declaration.derives_or_breaks (s : List Char) :
    (∃ w t rest d, s = w ++ (t ++ rest) ∧ IsBlanks w ∧ Declaration.Derives t d) ∨
      ∃ b k, Declaration.Breaks s b k := by
  obtain ⟨w, s, rfl, hw, hs⟩ := exists_run isBlank s
  obtain ⟨name, s, rfl, hn, hl⟩ := exists_run isLetter s
  by_cases hne : name = []
  · subst hne
    exact .inr ⟨_, _, .name hw hs hl⟩
  by_cases hp : ∃ p : Property, p.name.toList = name
  case neg =>
    have hb := Declaration.Breaks.property hw ⟨hne, hn⟩ hl fun p h => hp ⟨p, h⟩
    exact .inr ⟨_, _, by rwa [List.append_assoc] at hb⟩
  obtain ⟨p, rfl⟩ := hp
  obtain ⟨w₁, s, rfl, h₁, hs₁⟩ := exists_run isBlank s
  by_cases hc : s.head? = some ':'
  case neg => exact .inr ⟨_, _, by simpa using Declaration.Breaks.colon p hw h₁ hl hs₁ hc⟩
  obtain ⟨s, rfl⟩ := List.head?_eq_some_iff.1 hc
  obtain ⟨w₂, s, rfl, h₂, hs₂⟩ := exists_run isBlank s
  obtain ⟨value, s, rfl, hv, hl₂⟩ := exists_run isLetter s
  by_cases hve : value = []
  · subst hve
    exact .inr ⟨_, _, by simpa using Declaration.Breaks.value p hw h₁ h₂ hs₂ hl₂⟩
  by_cases hd : s.head? = some ';'
  case neg =>
    exact .inr ⟨_, _, by simpa using Declaration.Breaks.semicolon p hw h₁ h₂ ⟨hve, hv⟩ hl₂ hd⟩
  obtain ⟨s, rfl⟩ := List.head?_eq_some_iff.1 hd
  exact .inl ⟨w, _, s, _, by simp, hw, .mk p h₁ h₂ ⟨hve, hv⟩⟩

/-- A text starts with blanks and declarations up to the end of the text, to a closing brace or to
a declaration that breaks off. -/
theorem Declaration.exists_block (s : List Char) :
    ∃ w block rest ds, s = w ++ (block ++ rest) ∧ IsBlanks w ∧ Declaration.DerivesAll block ds ∧
      (rest = [] ∨ ∃ c r, rest = c :: r ∧ isBlank c = false ∧
        (c = '\x7d' ∨ c ≠ '\x7d' ∧ ∃ b k, Declaration.Breaks rest b k)) := by
  -- Each round starts on what its declaration leaves, which is a shorter text.
  induction hm : s.length using Nat.strongRecOn generalizing s with | ind m ih =>
  obtain ⟨w, s, rfl, hw, hs⟩ := exists_run isBlank s
  rcases s with _ | ⟨c, r⟩
  · exact ⟨w, [], [], [], by simp, hw, .nil, .inl rfl⟩
  have hc := endsRun_cons.1 hs
  by_cases hbrace : c = '\x7d'
  · exact ⟨w, [], c :: r, [], by simp, hw, .nil, .inr ⟨c, r, rfl, hc, .inl hbrace⟩⟩
  rcases Declaration.derives_or_breaks (c :: r) with ⟨w', t, rest, d, hr, hw', hd⟩ | hb
  · obtain ⟨rfl, hr'⟩ := hw'.eq_nil_of_append hr.symm hc
    have hlt : rest.length < m := by
      obtain ⟨c', t', rfl, -⟩ := hd.exists_cons
      rw [← hm, ← hr']
      simp only [List.length_append, List.length_cons]
      omega
    obtain ⟨w₁, block, rest', ds, rfl, h₁, hds, hend⟩ := ih _ hlt rest rfl
    exact ⟨w, t ++ w₁ ++ block, rest', d :: ds, by rw [← hr']; simp, hw, .cons hd h₁ hds, hend⟩
  · exact ⟨w, [], c :: r, [], by simp, hw, .nil, .inr ⟨c, r, rfl, hc, .inr ⟨hbrace, hb⟩⟩⟩

/-! ## Rules -/

/-- The texts that start with blanks and a rule that breaks off, in its block or before it. -/
inductive Rule.Breaks : List Char → Breach → Nat → Prop where
  | selector {w s : List Char} :
    IsBlanks w → EndsRun isBlank s → EndsRun isLetter s → Breaks (w ++ s) .selector w.length
  | opening {w selector w₁ s : List Char} :
    IsBlanks w → IsWord selector → IsBlanks w₁ → EndsRun isLetter (w₁ ++ s) →
      EndsRun isBlank s → s.head? ≠ some '\x7b' →
      Breaks (w ++ selector ++ w₁ ++ s) .opening (w ++ selector ++ w₁).length
  | closing {u : List Char} {r : Rule} : Rule.Opens u r → Breaks u .closing u.length
  | declaration {u s : List Char} {c : Char} {r : Rule} {b : Breach} {k : Nat} :
    Rule.Opens u r → isBlank c = false → c ≠ '\x7d' → Declaration.Breaks (c :: s) b k →
      Breaks (u ++ c :: s) b (u.length + k)

theorem Rule.read_breaks {s : List Char} {b : Breach} {k : Nat}
    (hpos : 0 ≤ pos ∨ pos + b.decided s k < 0) (h : Rule.Breaks s b k) :
    Rule.read ⟨n, pos, s⟩ = .error (b.failure (pos + k)) := by
  have hk : 0 ≤ pos ∨ pos + k < 0 := by
    have := b.le_decided s k
    omega
  cases h with
  | @selector w s hw hs hl =>
    simp only [Rule.read, Cursor.skipBlanks_blanks hw hs, Cursor.readWord_endsRun hl, bind,
      Except.bind]
    rfl
  | @opening w selector w₁ s hw hsel h₁ hl hs hbrace =>
    have hend : pos + w.length + selector.length + w₁.length
        = pos + (w ++ selector ++ w₁).length := by
      simp only [List.length_append]
      omega
    have hword : 0 ≤ pos + (w.length : Int) ∨ pos + w.length + selector.length < 0 := by omega
    simp only [Rule.read, List.append_assoc, Cursor.skipBlanks_blanks hw (hsel.endsRun _),
      Cursor.readWord_letters hword hsel hl, bind, Except.bind, Cursor.skipBlanks_blanks h₁ hs,
      Cursor.readExactly_head_ne (show "\x7b".toList = ['\x7b'] from rfl) hbrace]
    rw [hend, List.append_assoc]
    rfl
  | closing hu =>
    have hstop : Declaration.readAll ⟨n, pos + s.length, []⟩
        = .ok ([], ⟨n, pos + s.length, []⟩) := by
      rw [Declaration.readAll_eq, Cursor.skipBlanks_endsRun (endsRun_nil _)]
      rfl
    have hend : 0 ≤ pos ∨ pos + s.length ≤ 0 := by omega
    have hread := Rule.read_opens (n := n) hend hu []
    rw [List.append_nil, hstop] at hread
    rw [hread]
    simp only [bind, Except.bind,
      Cursor.readExactly_head_ne (s := []) (show "\x7d".toList = ['\x7d'] from rfl) (by simp)]
    rfl
  | @declaration u s c r b k hu hc hbrace hb =>
    have hfail : Declaration.readAll ⟨n, pos + u.length, c :: s⟩
        = .error (b.failure (pos + u.length + k)) := by
      rw [Declaration.readAll_eq, Cursor.skipBlanks_endsRun (endsRun_cons.2 hc),
        Declaration.read_breaks (by rw [Breach.decided_append] at hpos; omega) hb]
      simp [hbrace]
    rw [Rule.read_opens (by omega) hu, hfail, Int.natCast_add, Int.add_assoc]
    rfl

/-- A text starts with a rule, or with one that breaks off. -/
theorem Rule.derives_or_breaks (s : List Char) :
    (∃ w t rest r, s = w ++ (t ++ rest) ∧ IsBlanks w ∧ Rule.Derives t r) ∨
      ∃ b k, Rule.Breaks s b k := by
  obtain ⟨w, s, rfl, hw, hs⟩ := exists_run isBlank s
  obtain ⟨selector, s, rfl, hsel, hl⟩ := exists_run isLetter s
  by_cases hne : selector = []
  · subst hne
    exact .inr ⟨_, _, .selector hw hs hl⟩
  obtain ⟨w₁, s, rfl, h₁, hs₁⟩ := exists_run isBlank s
  by_cases hbrace : s.head? = some '\x7b'
  case neg =>
    exact .inr ⟨_, _, by simpa using Rule.Breaks.opening hw ⟨hne, hsel⟩ h₁ hl hs₁ hbrace⟩
  obtain ⟨s, rfl⟩ := List.head?_eq_some_iff.1 hbrace
  obtain ⟨w₂, block, rest, ds, rfl, h₂, hds, hend⟩ := Declaration.exists_block s
  have hu := Rule.Opens.mk hw ⟨hne, hsel⟩ h₁ h₂ hds
  rcases hend with rfl | ⟨c, r, rfl, hc, rfl | ⟨hc', b, k, hb⟩⟩
  · exact .inr ⟨_, _, by simpa using Rule.Breaks.closing hu⟩
  · exact .inl ⟨w, _, r, _, by simp, hw, .mk ⟨hne, hsel⟩ h₁ h₂ hds⟩
  · exact .inr ⟨_, _, by simpa using Rule.Breaks.declaration hu hc hc' hb⟩

/-- A text starts with blanks and rules up to its end or to a rule that breaks off. -/
theorem Rule.exists_rules (s : List Char) :
    ∃ w t rest rs, s = w ++ (t ++ rest) ∧ IsBlanks w ∧ Rule.DerivesAll t rs ∧
      (rest = [] ∨ ∃ c r, rest = c :: r ∧ isBlank c = false ∧ ∃ b k, Rule.Breaks rest b k) := by
  induction hm : s.length using Nat.strongRecOn generalizing s with | ind m ih =>
  obtain ⟨w, s, rfl, hw, hs⟩ := exists_run isBlank s
  rcases s with _ | ⟨c, r⟩
  · exact ⟨w, [], [], [], by simp, hw, .nil, .inl rfl⟩
  have hc := endsRun_cons.1 hs
  rcases Rule.derives_or_breaks (c :: r) with ⟨w', t, rest, rule, hr, hw', hrule⟩ | hb
  · obtain ⟨rfl, hr'⟩ := hw'.eq_nil_of_append hr.symm hc
    have hlt : rest.length < m := by
      obtain ⟨c', t', rfl, -⟩ := hrule.exists_cons
      rw [← hm, ← hr']
      simp only [List.length_append, List.length_cons]
      omega
    obtain ⟨w₁, t', rest', rs, rfl, h₁, hrs, hend⟩ := ih _ hlt rest rfl
    exact ⟨w, t ++ w₁ ++ t', rest', rule :: rs, by rw [← hr']; simp, hw, .cons hrule h₁ hrs, hend⟩
  · exact ⟨w, [], c :: r, [], by simp, hw, .nil, .inr ⟨c, r, rfl, hc, hb⟩⟩

/-! ## Sheets -/

/-- The texts of rules up to one that breaks off. -/
inductive Sheet.Breaks : List Char → Breach → Nat → Prop where
  | rule {v s : List Char} {c : Char} {r : Sheet} {b : Breach} {k : Nat} :
    Sheet.Derives v r → isBlank c = false → Rule.Breaks (c :: s) b k →
      Breaks (v ++ c :: s) b (v.length + k)

/-- The rules in front of the one that breaks off are read, and then the failure of the breach. -/
theorem Sheet.Breaks.exists_rules {text : List Char} {b : Breach} {k : Nat}
    (h : Sheet.Breaks text b k) :
    ∃ v t s k', text = v ++ t ∧ k = v.length + k' ∧ Sheet.Derives v s ∧ Rule.Breaks t b k' ∧
      Rule.readAll (.start text) = (s.rules, some (b.failure k)) := by
  obtain @⟨v, t, c, s, b, k, hv, hc, hb⟩ := h
  have hfail : ∀ m, Rule.readAll ⟨m, 0 + v.length, c :: t⟩
      = ([], some (b.failure (0 + v.length + k))) := by
    intro m
    rw [Rule.readAll_eq, Cursor.skipBlanks_endsRun (endsRun_cons.2 hc),
      Rule.read_breaks (by omega) hb]
    rfl
  refine ⟨v, c :: t, s, k, rfl, rfl, hv, hb, ?_⟩
  rw [Cursor.start, Sheet.readAll_derives (Int.le_refl 0) hv, hfail, List.append_nil, Int.zero_add,
    Int.natCast_add]

theorem Sheet.read_breaks {text : List Char} {b : Breach} {k : Nat}
    (h : Sheet.Breaks text b k) : Sheet.read text = .error (b.failure k) := by
  obtain ⟨v, t, s, k', -, -, -, -, hr⟩ := h.exists_rules
  rw [Sheet.read, hr]

theorem Sheet.derives_or_breaks (text : List Char) :
    (∃ s, Sheet.Derives text s) ∨ ∃ b k, Sheet.Breaks text b k := by
  obtain ⟨w, t, rest, rs, rfl, hw, hrs, rfl | ⟨c, r, rfl, hc, b, k, hb⟩⟩ := Rule.exists_rules text
  · exact .inl ⟨⟨rs⟩, by simpa using Sheet.Derives.mk hw hrs⟩
  · exact .inr ⟨b, _, by simpa using Sheet.Breaks.rule (.mk hw hrs) hc hb⟩

end Stylesheet
