import Stylesheet.Compact
import Stylesheet.Proofs.Alike
import Stylesheet.Proofs.Joined
import Stylesheet.Text.Spacing

/-!
# Texts without their blanks

Nothing but the blanks of a text is lost when it is read, and nothing is added: without its blanks
it is the compact text of the sheet (`Sheet.Derives.stripBlanks_eq`). As every word of a sheet that
was read has a letter, the compact text is one of the texts of the sheet
(`Sheet.InWords.derives_compact`). So the sheet can be read back from it, and two texts are read as
the same sheet exactly if they are the same without their blanks.
-/

namespace Stylesheet

/-! ## What stripping leaves -/

theorem stripBlanks_append (u v : List Char) :
    stripBlanks (u ++ v) = stripBlanks u ++ stripBlanks v :=
  List.filter_append u v

theorem stripBlanks_cons {c : Char} (hc : isBlank c = false) (s : List Char) :
    stripBlanks (c :: s) = c :: stripBlanks s :=
  List.filter_cons_of_pos (by simp [hc])

theorem IsBlanks.stripBlanks_eq {w : List Char} (hw : IsBlanks w) : stripBlanks w = [] :=
  List.filter_eq_nil_iff.2 fun c hc => by simp [hw c hc]

theorem IsWord.stripBlanks_eq {w : List Char} (hw : IsWord w) : stripBlanks w = w :=
  List.filter_eq_self.2 fun c hc => by simp [isBlank_eq_false_of_isLetter (hw.2 c hc)]

theorem count_stripBlanks {c : Char} (hc : isBlank c = false) (text : List Char) :
    (stripBlanks text).count c = text.count c :=
  List.count_filter (by simp [hc])

theorem Declaration.Derives.stripBlanks_eq {s : List Char} {d : Declaration}
    (h : Declaration.Derives s d) : stripBlanks s = d.compact := by
  obtain ⟨p, h₁, h₂, hv⟩ := h
  have hcolon : isBlank ':' = false := rfl
  have hsemi : isBlank ';' = false := rfl
  simp [stripBlanks_append, stripBlanks_cons hcolon, stripBlanks_cons hsemi,
    p.isWord_name.stripBlanks_eq, h₁.stripBlanks_eq, h₂.stripBlanks_eq, hv.stripBlanks_eq,
    isBlanks_nil.stripBlanks_eq, Declaration.compact]

theorem Declaration.DerivesAll.stripBlanks_eq {s : List Char} {ds : List Declaration}
    (h : Declaration.DerivesAll s ds) : stripBlanks s = ds.flatMap Declaration.compact := by
  induction h with
  | nil => rfl
  | cons hd hw _ ih =>
    rw [stripBlanks_append, stripBlanks_append, hd.stripBlanks_eq, hw.stripBlanks_eq, ih,
      List.append_nil, List.flatMap_cons]

theorem Rule.Derives.stripBlanks_eq {s : List Char} {r : Rule} (h : Rule.Derives s r) :
    stripBlanks s = r.compact := by
  obtain ⟨hsel, h₁, h₂, hds⟩ := h
  have hopen : isBlank '\x7b' = false := rfl
  have hclose : isBlank '\x7d' = false := rfl
  simp [stripBlanks_append, stripBlanks_cons hopen, stripBlanks_cons hclose, hsel.stripBlanks_eq,
    h₁.stripBlanks_eq, h₂.stripBlanks_eq, hds.stripBlanks_eq, isBlanks_nil.stripBlanks_eq,
    Rule.compact]

theorem Rule.DerivesAll.stripBlanks_eq {s : List Char} {rs : List Rule}
    (h : Rule.DerivesAll s rs) : stripBlanks s = rs.flatMap Rule.compact := by
  induction h with
  | nil => rfl
  | cons hr hw _ ih =>
    rw [stripBlanks_append, stripBlanks_append, hr.stripBlanks_eq, hw.stripBlanks_eq, ih,
      List.append_nil, List.flatMap_cons]

theorem Sheet.Derives.stripBlanks_eq {text : List Char} {s : Sheet} (h : Sheet.Derives text s) :
    stripBlanks text = s.compact := by
  obtain ⟨hw, hrs⟩ := h
  rw [stripBlanks_append, hw.stripBlanks_eq, hrs.stripBlanks_eq, List.nil_append, Sheet.compact]

/-! ## Sheets in words -/

def Declaration.InWords (d : Declaration) : Prop :=
  IsWord d.value.toList

structure Rule.InWords (r : Rule) : Prop where
  selector : IsWord r.selector.toList
  declarations : ∀ d ∈ r.declarations, d.InWords

/-- Every selector and value is a word, as the names of properties always are. -/
def Sheet.InWords (s : Sheet) : Prop :=
  ∀ r ∈ s.rules, r.InWords

theorem Declaration.DerivesAll.inWords {s : List Char} {ds : List Declaration}
    (h : Declaration.DerivesAll s ds) : ∀ d ∈ ds, d.InWords := by
  induction h with
  | nil => exact fun d hd => absurd hd List.not_mem_nil
  | cons hd _ _ ih =>
    obtain ⟨p, h₁, h₂, hv⟩ := hd
    refine List.forall_mem_cons.2 ⟨?_, ih⟩
    rwa [Declaration.InWords, String.toList_ofList]

theorem Rule.Derives.inWords {s : List Char} {r : Rule} (h : Rule.Derives s r) : r.InWords := by
  obtain ⟨hsel, h₁, h₂, hds⟩ := h
  exact ⟨by rwa [String.toList_ofList], hds.inWords⟩

theorem Rule.DerivesAll.inWords {s : List Char} {rs : List Rule} (h : Rule.DerivesAll s rs) :
    ∀ r ∈ rs, r.InWords := by
  induction h with
  | nil => exact fun r hr => absurd hr List.not_mem_nil
  | cons hr _ _ ih => exact List.forall_mem_cons.2 ⟨hr.inWords, ih⟩

theorem Sheet.Derives.inWords {text : List Char} {s : Sheet} (h : Sheet.Derives text s) :
    s.InWords := by
  obtain ⟨hw, hrs⟩ := h
  exact hrs.inWords

/-! ## Compact texts are texts -/

theorem Declaration.InWords.derives_compact {d : Declaration} (h : d.InWords) :
    Declaration.Derives d.compact d := by
  have hd := Declaration.Derives.mk d.property isBlanks_nil isBlanks_nil h
  rw [String.ofList_toList] at hd
  simpa [Declaration.compact] using hd

theorem Declaration.derivesAll_compact : ∀ {ds : List Declaration}, (∀ d ∈ ds, d.InWords) →
    Declaration.DerivesAll (ds.flatMap Declaration.compact) ds
  | [], _ => .nil
  | d :: ds, h => by
    obtain ⟨hd, hds⟩ := List.forall_mem_cons.1 h
    exact hd.derives_compact.cons (Declaration.derivesAll_compact hds)

theorem Rule.InWords.derives_compact {r : Rule} (h : r.InWords) : Rule.Derives r.compact r := by
  have hr := Rule.Derives.mk h.selector isBlanks_nil isBlanks_nil
    (Declaration.derivesAll_compact h.declarations)
  rw [String.ofList_toList] at hr
  simpa [Rule.compact] using hr

theorem Rule.derivesAll_compact : ∀ {rs : List Rule}, (∀ r ∈ rs, r.InWords) →
    Rule.DerivesAll (rs.flatMap Rule.compact) rs
  | [], _ => .nil
  | r :: rs, h => by
    obtain ⟨hr, hrs⟩ := List.forall_mem_cons.1 h
    exact hr.derives_compact.cons (Rule.derivesAll_compact hrs)

theorem Sheet.InWords.derives_compact {s : Sheet} (h : s.InWords) :
    Sheet.Derives s.compact s :=
  .mk isBlanks_nil (Rule.derivesAll_compact h)

/-- Sheets in words are told apart by their compact texts. -/
theorem Sheet.InWords.eq_of_compact_eq {s s' : Sheet} (h : s.InWords) (h' : s'.InWords)
    (hc : s.compact = s'.compact) : s = s' := by
  have hd := h.derives_compact
  rw [hc] at hd
  exact hd.unique h'.derives_compact

/-! ## The text of a sheet -/

/-- What was read is the text without its blanks, and it depends on nothing else. -/
theorem Sheet.compact_eq_stripBlanks {text : List Char} {s : Sheet}
    (h : Sheet.parse text = .ok s) :
    s.compact = stripBlanks text ∧
      ∀ {text' : List Char} {s' : Sheet}, Sheet.parse text' = .ok s' →
        (s' = s ↔ stripBlanks text' = stripBlanks text) := by
  have hs := Sheet.derives_of_parse h
  refine ⟨hs.stripBlanks_eq.symm, fun {text' s'} h' => ?_⟩
  have hs' := Sheet.derives_of_parse h'
  rw [hs.stripBlanks_eq, hs'.stripBlanks_eq]
  exact ⟨congrArg Sheet.compact, hs'.inWords.eq_of_compact_eq hs.inWords⟩

theorem Sheet.compact_eq_stripBlanks_color :
    Sheet.parse "\np { color :a; }".toList = .ok ⟨[⟨"p", [⟨.color, "a"⟩]⟩]⟩ ∧
      Sheet.parse "p{color: a;} ".toList = .ok ⟨[⟨"p", [⟨.color, "a"⟩]⟩]⟩ ∧
      Sheet.compact ⟨[⟨"p", [⟨.color, "a"⟩]⟩]⟩ = stripBlanks "\np { color :a; }".toList ∧
      ((⟨[⟨"p", [⟨.color, "a"⟩]⟩]⟩ : Sheet) = ⟨[⟨"p", [⟨.color, "a"⟩]⟩]⟩ ↔
        stripBlanks "p{color: a;} ".toList = stripBlanks "\np { color :a; }".toList) := by
  have hspace : IsBlanks [' '] := by decide
  have hp : IsWord ['p'] := by decide
  have ha : IsWord ['a'] := by decide
  have hd : Declaration.Derives "color :a;".toList ⟨.color, "a"⟩ :=
    .mk .color hspace isBlanks_nil ha
  have hd' : Declaration.Derives "color: a;".toList ⟨.color, "a"⟩ :=
    .mk .color isBlanks_nil hspace ha
  have h := Sheet.parse_derives <| .mk (show IsBlanks ['\n'] by decide) <|
    .cons (.mk hp hspace hspace (.cons hd hspace .nil)) isBlanks_nil .nil
  have h' := Sheet.parse_derives <| .mk isBlanks_nil <|
    .cons (.mk hp isBlanks_nil isBlanks_nil (hd'.cons .nil)) hspace .nil
  have hc := Sheet.compact_eq_stripBlanks h
  exact ⟨h, h', hc.1, hc.2 h'⟩

end Stylesheet
