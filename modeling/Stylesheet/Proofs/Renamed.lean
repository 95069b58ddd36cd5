import Stylesheet.Proofs.Alike

/-!
# Renamed letters

A selector or a value is carried as it stands, and the name of a property is only compared with the
names there are. So letters may be renamed: if the names of properties stay as they are and no two
letters become one, the text is accepted as the renamed sheet, or rejected at the same place for
the same cause (`Sheet.parse_map`). What the grammar derives it derives renamed
(`Renaming.sheet`), and what breaks it does so in the same way (`Renaming.breach`): a word that
names no property does not come to name one, since two words are never renamed to the same.
-/

namespace Stylesheet

/-- Renames letters to letters, each to one of its own, but none that the name of a property has. -/
structure Renaming (f : Char → Char) : Prop where
  letter {c : Char} : isLetter c = true → isLetter (f c) = true
  letter_inj {c d : Char} : isLetter c = true → isLetter d = true → f c = f d → c = d
  other {c : Char} : isLetter c = false → f c = c
  property (p : Property) : ∀ c ∈ p.name.toList, f c = c

def Declaration.rename (f : Char → Char) (d : Declaration) : Declaration :=
  { d with value := d.value.map f }

def Rule.rename (f : Char → Char) (r : Rule) : Rule :=
  ⟨r.selector.map f, r.declarations.map (Declaration.rename f)⟩

def Sheet.rename (f : Char → Char) (s : Sheet) : Sheet :=
  ⟨s.rules.map (Rule.rename f)⟩

def Cause.rename (f : Char → Char) : Cause → Cause
  | unknownProperty name => unknownProperty (name.map f)
  | c => c

def Breach.rename (f : Char → Char) : Breach → Breach
  | property word => property (word.map f)
  | b => b

/-- How a text and the renamed text end. -/
inductive Renamed (f : Char → Char) : Except Trouble Sheet → Except Trouble Sheet → Prop where
  | accepted {s : Sheet} : Renamed f (.ok s) (.ok (s.rename f))
  | rejected {a a' : Announcement} :
    a'.report.cause = a.report.cause.rename f → a'.report.offset = a.report.offset →
      a'.report.place = a.report.place → a'.report.texts.length = a.report.texts.length →
      a'.sent.length = a.sent.length → Renamed f (.error (.failed a)) (.error (.failed a'))

theorem Breach.cause_rename (f : Char → Char) (b : Breach) :
    (b.rename f).cause = b.cause.rename f := by
  cases b <;> rfl

theorem Breach.part_rename (f : Char → Char) (b : Breach) : (b.rename f).part = b.part := by
  cases b <;> rfl

theorem map_ofList (f : Char → Char) (w : List Char) :
    (String.ofList w).map f = String.ofList (w.map f) := by
  rw [← String.toList_inj, String.toList_map, String.toList_ofList, String.toList_ofList]

theorem EndsRun.map {p : Char → Bool} {f : Char → Char} {s : List Char}
    (hp : ∀ c, p (f c) = p c) (h : EndsRun p s) : EndsRun p (s.map f) := by
  rcases s with _ | ⟨c, s⟩
  · exact endsRun_nil p
  · exact endsRun_cons.2 (by rw [hp, endsRun_cons.1 h])

namespace Renaming

variable {f : Char → Char}

/-! ## Characters -/

theorem isLetter_eq (hf : Renaming f) (c : Char) : isLetter (f c) = isLetter c := by
  by_cases hc : isLetter c = true
  · rw [hf.letter hc, hc]
  · rw [hf.other (Bool.eq_false_iff.2 hc)]

theorem injective (hf : Renaming f) {c d : Char} (h : f c = f d) : c = d := by
  have hletter := hf.isLetter_eq c
  rw [h, hf.isLetter_eq] at hletter
  by_cases hc : isLetter c = true
  · exact hf.letter_inj hc (hletter.trans hc) h
  · rw [hf.other (Bool.eq_false_iff.2 hc), hf.other (Bool.eq_false_iff.2 (hletter ▸ hc))] at h
    exact h

theorem isBlank_eq (hf : Renaming f) (c : Char) : isBlank (f c) = isBlank c := by
  by_cases hc : isLetter c = true
  · rw [isBlank_eq_false_of_isLetter hc, isBlank_eq_false_of_isLetter (hf.letter hc)]
  · rw [hf.other (Bool.eq_false_iff.2 hc)]

theorem marks (hf : Renaming f) :
    f ':' = ':' ∧ f ';' = ';' ∧ f '\x7b' = '\x7b' ∧ f '\x7d' = '\x7d' :=
  ⟨hf.other rfl, hf.other rfl, hf.other rfl, hf.other rfl⟩

/-- Nothing but the character itself is renamed to one that is no letter. -/
theorem eq_iff (hf : Renaming f) {c d : Char} (hd : isLetter d = false) : f c = d ↔ c = d := by
  refine ⟨fun h => hf.injective (h.trans (hf.other hd).symm), ?_⟩
  rintro rfl
  exact hf.other hd

/-! ## Words and blanks -/

theorem name (hf : Renaming f) (p : Property) : p.name.toList.map f = p.name.toList :=
  (List.map_congr_left (hf.property p)).trans (List.map_id _)

theorem blanks (hf : Renaming f) {w : List Char} (hw : IsBlanks w) : IsBlanks (w.map f) := by
  intro c hc
  obtain ⟨d, hd, rfl⟩ := List.mem_map.1 hc
  rw [hf.isBlank_eq, hw d hd]

theorem word (hf : Renaming f) {w : List Char} (hw : IsWord w) : IsWord (w.map f) := by
  refine ⟨fun h => hw.1 (List.map_eq_nil_iff.1 h), fun c hc => ?_⟩
  obtain ⟨d, hd, rfl⟩ := List.mem_map.1 hc
  exact hf.letter (hw.2 d hd)

theorem endsRun_blank (hf : Renaming f) {s : List Char} (h : EndsRun isBlank s) :
    EndsRun isBlank (s.map f) :=
  h.map hf.isBlank_eq

theorem endsRun_letter (hf : Renaming f) {s : List Char} (h : EndsRun isLetter s) :
    EndsRun isLetter (s.map f) :=
  h.map hf.isLetter_eq

theorem head?_ne (hf : Renaming f) {c : Char} (hc : isLetter c = false) {s : List Char}
    (h : s.head? ≠ some c) : (s.map f).head? ≠ some c := by
  rcases s with _ | ⟨d, s⟩
  · exact h
  · simpa [hf.eq_iff hc] using h

/-- A word that names no property does not come to name one. -/
theorem name_ne (hf : Renaming f) {w : List Char} (h : ∀ p : Property, p.name.toList ≠ w)
    (p : Property) : p.name.toList ≠ w.map f := by
  rw [← hf.name p]
  intro hw
  exact h p ((List.map_inj_right fun _ _ => hf.injective).1 hw)

/-! ## Derived texts -/

theorem declaration (hf : Renaming f) {s : List Char} {d : Declaration}
    (h : Declaration.Derives s d) : Declaration.Derives (s.map f) (d.rename f) := by
  obtain ⟨p, h₁, h₂, hv⟩ := h
  have hd := Declaration.Derives.mk p (hf.blanks h₁) (hf.blanks h₂) (hf.word hv)
  simpa [Declaration.rename, map_ofList, hf.name, hf.marks] using hd

theorem declarations (hf : Renaming f) {s : List Char} {ds : List Declaration}
    (h : Declaration.DerivesAll s ds) :
    Declaration.DerivesAll (s.map f) (ds.map (Declaration.rename f)) := by
  induction h with
  | nil => exact .nil
  | cons hd hw _ ih =>
    rw [List.map_append, List.map_append]
    exact .cons (hf.declaration hd) (hf.blanks hw) ih

theorem rule (hf : Renaming f) {s : List Char} {r : Rule} (h : Rule.Derives s r) :
    Rule.Derives (s.map f) (r.rename f) := by
  obtain ⟨hsel, h₁, h₂, hds⟩ := h
  have hr := Rule.Derives.mk (hf.word hsel) (hf.blanks h₁) (hf.blanks h₂) (hf.declarations hds)
  simpa [Rule.rename, map_ofList, hf.marks] using hr

theorem rules (hf : Renaming f) {s : List Char} {rs : List Rule} (h : Rule.DerivesAll s rs) :
    Rule.DerivesAll (s.map f) (rs.map (Rule.rename f)) := by
  induction h with
  | nil => exact .nil
  | cons hr hw _ ih =>
    rw [List.map_append, List.map_append]
    exact .cons (hf.rule hr) (hf.blanks hw) ih

theorem sheet (hf : Renaming f) {text : List Char} {s : Sheet} (h : Sheet.Derives text s) :
    Sheet.Derives (text.map f) (s.rename f) := by
  obtain ⟨hw, hrs⟩ := h
  rw [List.map_append]
  exact .mk (hf.blanks hw) (hf.rules hrs)

theorem openBlock (hf : Renaming f) {u : List Char} (h : OpenBlock u) : OpenBlock (u.map f) := by
  obtain ⟨hv, hsel, h₁, h₂, hds⟩ := h
  have hu := OpenBlock.mk (hf.sheet hv) (hf.word hsel) (hf.blanks h₁) (hf.blanks h₂)
    (hf.declarations hds)
  simpa [hf.marks] using hu

/-! ## Broken texts -/

theorem breach (hf : Renaming f) {b : Breach} {text : List Char} {k : Nat} (h : b.At text k) :
    (b.rename f).At (text.map f) k := by
  cases h with
  | @selector v s c r hv hc hl =>
    rw [← hf.isBlank_eq] at hc
    rw [← hf.isLetter_eq] at hl
    simpa [Breach.rename] using Breach.At.selector (s := s.map f) (hf.sheet hv) hc hl
  | opening hv hsel hw hl hs hbrace =>
    have hl' := hf.endsRun_letter hl
    rw [List.map_append] at hl'
    simpa [Breach.rename] using Breach.At.opening (hf.sheet hv) (hf.word hsel) (hf.blanks hw) hl'
      (hf.endsRun_blank hs) (hf.head?_ne rfl hbrace)
  | closing hu => simpa [Breach.rename] using Breach.At.closing (hf.openBlock hu)
  | @name u s c hu hc hl hbrace =>
    rw [← hf.isBlank_eq] at hc
    have hl' := hl
    rw [← hf.isLetter_eq] at hl'
    simpa [Breach.rename] using Breach.At.name (s := s.map f) (hf.openBlock hu) hc hl'
      (mt (hf.eq_iff rfl).1 hbrace)
  | property hu hn hl hp =>
    simpa [Breach.rename, map_ofList] using
      Breach.At.property (hf.openBlock hu) (hf.word hn) (hf.endsRun_letter hl) (hf.name_ne hp)
  | colon p hu hw hl hs hcolon =>
    have hl' := hf.endsRun_letter hl
    rw [List.map_append] at hl'
    simpa [Breach.rename, hf.name] using Breach.At.colon p (hf.openBlock hu) (hf.blanks hw) hl'
      (hf.endsRun_blank hs) (hf.head?_ne rfl hcolon)
  | value p hu h₁ h₂ hs hl =>
    simpa [Breach.rename, hf.name, hf.marks] using
      Breach.At.value p (hf.openBlock hu) (hf.blanks h₁) (hf.blanks h₂) (hf.endsRun_blank hs)
        (hf.endsRun_letter hl)
  | semicolon p hu h₁ h₂ hv hl hsemi =>
    simpa [Breach.rename, hf.name, hf.marks] using
      Breach.At.semicolon p (hf.openBlock hu) (hf.blanks h₁) (hf.blanks h₂) (hf.word hv)
        (hf.endsRun_letter hl) (hf.head?_ne rfl hsemi)

/-! ## Places -/

theorem count_newline (hf : Renaming f) (s : List Char) : (s.map f).count '\n' = s.count '\n' := by
  induction s with
  | nil => rfl
  | cons c s ih =>
    have hc : f c = '\n' ↔ c = '\n' := hf.eq_iff rfl
    simp [List.count_cons, ih, hc]

theorem ofOffset_eq (hf : Renaming f) (text : List Char) (offset : Int) :
    Location.ofOffset (text.map f) offset = Location.ofOffset text offset := by
  have hbefore : Location.before (text.map f) offset = (Location.before text offset).map f := by
    unfold Location.before
    rw [List.map_take]
  have hline : Location.lineBefore (text.map f) offset
      = (Location.lineBefore text offset).map f := by
    have hnewline : ((fun c => decide (c ≠ '\n')) ∘ f) = fun c => decide (c ≠ '\n') := by
      funext c
      have hc : f c = '\n' ↔ c = '\n' := hf.eq_iff rfl
      simp [hc]
    unfold Location.lineBefore
    rw [hbefore, ← List.map_reverse, List.takeWhile_map, hnewline, List.map_reverse]
  unfold Location.ofOffset
  rw [hbefore, hline, hf.count_newline, List.length_map]

end Renaming

/-! ## Parsing -/

/-- The sheet of a text is renamed with its letters, and its failure stays. -/
theorem Sheet.parse_map {f : Char → Char} (hf : Renaming f) (text : List Char) :
    Renamed f (Sheet.parse text) (Sheet.parse (text.map f)) := by
  rcases Sheet.exists_at text with ⟨s, hp⟩ | ⟨b, k, h⟩
  · rw [hp, Sheet.parse_derives (hf.sheet (Sheet.derives_of_parse hp))]
    exact .accepted
  · -- How many texts there are goes by the part that failed, not by a word in it.
    have hlength : ((b.rename f).report (text.map f) k).texts.length
        = (b.report text k).texts.length := by
      simp [Breach.report, Breach.part_rename]
    rw [h.parse_eq, (hf.breach h).parse_eq]
    exact .rejected (b.cause_rename f) rfl (congrArg some (hf.ofOffset_eq text k)) hlength hlength

/-- The two letters change places. -/
def exchange (a b c : Char) : Char :=
  if c = a then b else if c = b then a else c

theorem renaming_exchange {a b : Char} (ha : isLetter a = true) (hb : isLetter b = true)
    (hp : ∀ p : Property, a ∉ p.name.toList ∧ b ∉ p.name.toList) : Renaming (exchange a b) where
  letter {c} hc := by
    unfold exchange
    split
    · exact hb
    · split <;> assumption
  letter_inj {c d} hc hd h := by
    unfold exchange at h
    grind
  other {c} hc := by
    unfold exchange
    grind
  property p c hc := by
    unfold exchange
    grind

theorem Sheet.parse_map_case :
    Renaming (exchange 'p' 'P') ∧
      Renamed (exchange 'p' 'P') (Sheet.parse ['P', '\x7b', 'p', ':'])
        (Sheet.parse ['p', '\x7b', 'P', ':']) := by
  have h : Renaming (exchange 'p' 'P') := renaming_exchange rfl rfl fun p => by cases p <;> decide
  exact ⟨h, Sheet.parse_map h ['P', '\x7b', 'p', ':']⟩

end Stylesheet
