import Stylesheet.Proofs.Alike
import Stylesheet.Text.Spacing

/-!
# Texts laid out anew

To lay a text out anew is to put other blanks where blanks were, and to leave all else alone. The
new text is accepted as the same sheet, or rejected for the same cause at the same place, counted in
the new text. This holds since a breach never lies inside a run of blanks and is never decided by
which blanks stand somewhere, only by whether any do.

That a run of blanks may be laid out on its own is said by cutting the text at a place where no run
goes on (`Relayout.append`). Collapsing blanks is one way to lay a text out anew
(`relayout_collapse`).
-/

namespace Stylesheet

/-! ## Where derived texts are parted -/

theorem Declaration.Derives.parted {s : List Char} {d : Declaration}
    (h : Declaration.Derives s d) (t : List Char) : Parted s t := by
  obtain ⟨p, h₁, h₂, hv⟩ := h
  exact parted_singleton (by decide) _ t

theorem Declaration.DerivesAll.endsRun {s : List Char} {ds : List Declaration}
    (h : Declaration.DerivesAll s ds) : EndsRun isBlank s := by
  cases h with
  | nil => exact endsRun_nil _
  | cons hd _ _ =>
    obtain ⟨c, s', rfl, hc⟩ := hd.exists_cons
    exact endsRun_cons.2 (isBlank_eq_false_of_isLetter hc)

theorem Rule.Derives.parted {s : List Char} {r : Rule} (h : Rule.Derives s r) (t : List Char) :
    Parted s t := by
  obtain ⟨hsel, h₁, h₂, hds⟩ := h
  exact parted_singleton (by decide) _ t

theorem Rule.DerivesAll.endsRun {s : List Char} {rs : List Rule} (h : Rule.DerivesAll s rs) :
    EndsRun isBlank s := by
  cases h with
  | nil => exact endsRun_nil _
  | cons hr _ _ =>
    obtain ⟨c, s', rfl, hc⟩ := hr.exists_cons
    exact endsRun_cons.2 (isBlank_eq_false_of_isLetter hc)

/-! ## Other blanks where blanks were -/

structure Relayout (f : List Char → List Char) : Prop where
  append {u v : List Char} : Parted u v → f (u ++ v) = f u ++ f v
  char {c : Char} : isBlank c = false → f [c] = [c]
  blanks {w : List Char} : IsBlanks w → IsBlanks (f w)
  ne_nil {w : List Char} : IsBlanks w → w ≠ [] → f w ≠ []

namespace Relayout

variable {f : List Char → List Char}

/-! ## What stays -/

theorem nil (hf : Relayout f) : f [] = [] := by
  have h := hf.append (u := []) (v := []) (.inr (endsRun_nil _))
  simpa using h

theorem cons (hf : Relayout f) {c : Char} (hc : isBlank c = false) (s : List Char) :
    f (c :: s) = c :: f s := by
  have h := hf.append (u := [c]) (v := s) (.inl (endsRun_cons.2 hc))
  rwa [hf.char hc] at h

theorem append_cons (hf : Relayout f) {c : Char} (hc : isBlank c = false) (u s : List Char) :
    f (u ++ c :: s) = f u ++ c :: f s := by
  rw [hf.append (.inr (endsRun_cons.2 hc)), hf.cons hc]

theorem word_append (hf : Relayout f) {w : List Char} (hw : ∀ c ∈ w, isLetter c = true)
    (s : List Char) : f (w ++ s) = w ++ f s := by
  induction w with
  | nil => rfl
  | cons c w ih =>
    have hc := isBlank_eq_false_of_isLetter (hw c List.mem_cons_self)
    rw [List.cons_append, hf.cons hc, ih fun d hd => hw d (List.mem_cons_of_mem _ hd)]
    rfl

theorem append_word (hf : Relayout f) {w : List Char} (hw : IsWord w) (u : List Char) :
    f (u ++ w) = f u ++ w := by
  have h := hf.word_append hw.2 []
  rw [List.append_nil, hf.nil, List.append_nil] at h
  have hs := hw.endsRun []
  rw [List.append_nil] at hs
  rw [hf.append (.inr hs), h]

theorem append_word_append (hf : Relayout f) {w : List Char} (hw : IsWord w) (u s : List Char) :
    f (u ++ w ++ s) = f u ++ w ++ f s := by
  rw [hf.append (hw.parted u s), hf.append_word hw]

theorem append_endsRun (hf : Relayout f) {s : List Char} (hs : EndsRun isBlank s)
    (u : List Char) : f (u ++ s) = f u ++ f s :=
  hf.append (.inr hs)

/-- A text starts as it did: not at all, with the same character, or with some blank. -/
theorem head_cases (hf : Relayout f) (s : List Char) :
    s = [] ∧ f s = [] ∨
      (∃ c r, s = c :: r ∧ isBlank c = false ∧ f s = c :: f r) ∨
      ∃ c r d r', s = c :: r ∧ isBlank c = true ∧ f s = d :: r' ∧ isBlank d = true := by
  obtain ⟨w, s, rfl, hw, hs⟩ := exists_run isBlank s
  rcases w with _ | ⟨c, w⟩
  · rcases s with _ | ⟨c, r⟩
    · exact .inl ⟨rfl, hf.nil⟩
    · have hc := endsRun_cons.1 hs
      exact .inr (.inl ⟨c, r, rfl, hc, hf.cons hc r⟩)
  · obtain ⟨d, r', hr'⟩ := List.exists_cons_of_ne_nil (hf.ne_nil hw (List.cons_ne_nil c w))
    have hd := hf.blanks hw d (hr' ▸ List.mem_cons_self)
    refine .inr (.inr ⟨c, w ++ s, d, r' ++ f s, rfl, hw c List.mem_cons_self, ?_, hd⟩)
    rw [hf.append_endsRun hs, hr']
    rfl

theorem endsRun_blank (hf : Relayout f) {s : List Char} (hs : EndsRun isBlank s) :
    EndsRun isBlank (f s) := by
  rcases hf.head_cases s with ⟨-, h⟩ | ⟨c, r, -, hc, h⟩ | ⟨c, r, d, r', rfl, hc, -, -⟩
  · rw [h]
    exact endsRun_nil _
  · rw [h]
    exact endsRun_cons.2 hc
  · rw [endsRun_cons.1 hs] at hc
    cases hc

theorem endsRun_letter (hf : Relayout f) {s : List Char} (hs : EndsRun isLetter s) :
    EndsRun isLetter (f s) := by
  rcases hf.head_cases s with ⟨-, h⟩ | ⟨c, r, rfl, -, h⟩ | ⟨c, r, d, r', -, -, h, hd⟩
  · rw [h]
    exact endsRun_nil _
  · rw [h]
    exact endsRun_cons.2 (endsRun_cons.1 hs)
  · rw [h]
    exact endsRun_cons.2 (isLetter_eq_false_of_isBlank hd)

theorem head?_ne (hf : Relayout f) {c : Char} (hc : isBlank c = false) {s : List Char}
    (hs : s.head? ≠ some c) : (f s).head? ≠ some c := by
  rcases hf.head_cases s with ⟨-, h⟩ | ⟨d, r, rfl, -, h⟩ | ⟨d, r, e, r', -, -, h, he⟩
  · simp [h]
  · simpa [h] using hs
  · rw [h]
    intro hce
    obtain rfl : e = c := by simpa using hce
    rw [hc] at he
    cases he

/-! ## Derived texts -/

theorem declaration (hf : Relayout f) {s : List Char} {d : Declaration}
    (h : Declaration.Derives s d) : Declaration.Derives (f s) d := by
  obtain ⟨p, h₁, h₂, hv⟩ := h
  rename_i w₁ w₂ value
  have htext : f (p.name.toList ++ w₁ ++ ':' :: w₂ ++ value ++ [';'])
      = p.name.toList ++ f w₁ ++ ':' :: f w₂ ++ value ++ [';'] := by
    rw [hf.append_word_append hv, hf.append_cons (by decide), hf.word_append p.isWord_name.2,
      hf.char (by decide)]
  rw [htext]
  exact .mk p (hf.blanks h₁) (hf.blanks h₂) hv

theorem declarations (hf : Relayout f) {s : List Char} {ds : List Declaration}
    (h : Declaration.DerivesAll s ds) : Declaration.DerivesAll (f s) ds := by
  induction h with
  | nil =>
    rw [hf.nil]
    exact .nil
  | cons hd hw hds ih =>
    rw [List.append_assoc, hf.append (hd.parted _), hf.append_endsRun hds.endsRun,
      ← List.append_assoc]
    exact .cons (hf.declaration hd) (hf.blanks hw) ih

theorem rule (hf : Relayout f) {s : List Char} {r : Rule} (h : Rule.Derives s r) :
    Rule.Derives (f s) r := by
  obtain ⟨hsel, h₁, h₂, hds⟩ := h
  rename_i selector w₁ w₂ block ds
  have htext : f (selector ++ w₁ ++ '\x7b' :: w₂ ++ block ++ ['\x7d'])
      = selector ++ f w₁ ++ '\x7b' :: f w₂ ++ f block ++ ['\x7d'] := by
    rw [hf.append_cons (by decide), hf.nil, hf.append_endsRun hds.endsRun,
      hf.append_cons (by decide), hf.word_append hsel.2]
  rw [htext]
  exact .mk hsel (hf.blanks h₁) (hf.blanks h₂) (hf.declarations hds)

theorem rules (hf : Relayout f) {s : List Char} {rs : List Rule} (h : Rule.DerivesAll s rs) :
    Rule.DerivesAll (f s) rs := by
  induction h with
  | nil =>
    rw [hf.nil]
    exact .nil
  | cons hr hw hrs ih =>
    rw [List.append_assoc, hf.append (hr.parted _), hf.append_endsRun hrs.endsRun,
      ← List.append_assoc]
    exact .cons (hf.rule hr) (hf.blanks hw) ih

theorem sheet (hf : Relayout f) {text : List Char} {s : Sheet} (h : Sheet.Derives text s) :
    Sheet.Derives (f text) s := by
  obtain ⟨hw, hrs⟩ := h
  rw [hf.append_endsRun hrs.endsRun]
  exact .mk (hf.blanks hw) (hf.rules hrs)

theorem openBlock (hf : Relayout f) {u : List Char} (h : OpenBlock u) : OpenBlock (f u) := by
  obtain ⟨hv, hsel, h₁, h₂, hds⟩ := h
  rename_i v selector w₁ w₂ block s ds
  have htext : f (v ++ selector ++ w₁ ++ '\x7b' :: w₂ ++ block)
      = f v ++ selector ++ f w₁ ++ '\x7b' :: f w₂ ++ f block := by
    rw [hf.append_endsRun hds.endsRun, hf.append_cons (by decide), hf.append_word_append hsel]
  rw [htext]
  exact .mk (hf.sheet hv) hsel (hf.blanks h₁) (hf.blanks h₂) (hf.declarations hds)

/-! ## Broken texts -/

theorem breach (hf : Relayout f) {b : Breach} {text : List Char} {k : Nat} (h : b.At text k) :
    b.At (f text) (f (text.take k)).length := by
  cases h with
  | selector hv hc hl =>
    rw [List.take_left, hf.append_cons hc]
    exact .selector (hf.sheet hv) hc hl
  | opening hv hsel hw hl hs hbrace =>
    have hl' := hf.endsRun_letter hl
    rw [hf.append_endsRun hs] at hl'
    rw [List.take_left, hf.append_endsRun hs, hf.append_word_append hsel]
    exact .opening (hf.sheet hv) hsel (hf.blanks hw) hl' (hf.endsRun_blank hs)
      (hf.head?_ne (by decide) hbrace)
  | closing hu =>
    rw [List.take_length]
    exact .closing (hf.openBlock hu)
  | name hu hc hl hbrace =>
    rw [List.take_left, hf.append_cons hc]
    exact .name (hf.openBlock hu) hc hl hbrace
  | property hu hn hl hp =>
    rw [List.append_assoc, List.take_left, ← List.append_assoc, hf.append_word_append hn]
    exact .property (hf.openBlock hu) hn (hf.endsRun_letter hl) hp
  | colon p hu hw hl hs hcolon =>
    have hl' := hf.endsRun_letter hl
    rw [hf.append_endsRun hs] at hl'
    rw [List.take_left, hf.append_endsRun hs, hf.append_word_append p.isWord_name]
    exact .colon p (hf.openBlock hu) (hf.blanks hw) hl' (hf.endsRun_blank hs)
      (hf.head?_ne (by decide) hcolon)
  | value p hu h₁ h₂ hs hl =>
    rw [List.take_left, hf.append_endsRun hs, hf.append_cons (by decide),
      hf.append_word_append p.isWord_name]
    exact .value p (hf.openBlock hu) (hf.blanks h₁) (hf.blanks h₂) (hf.endsRun_blank hs)
      (hf.endsRun_letter hl)
  | semicolon p hu h₁ h₂ hv hl hsemi =>
    rw [List.take_left, hf.append_word_append hv, hf.append_word hv, hf.append_cons (by decide),
      hf.append_word_append p.isWord_name]
    exact .semicolon p (hf.openBlock hu) (hf.blanks h₁) (hf.blanks h₂) hv (hf.endsRun_letter hl)
      (hf.head?_ne (by decide) hsemi)

section

variable {text text' : List Char} {reports : Report → Report → Prop}

/-- Both texts are accepted as the same sheet, or both are rejected for the same cause. -/
theorem alike (hf : Relayout f)
    (hr : ∀ {b : Breach} {k : Nat}, b.At text k →
      reports (b.report text k) (b.report (f text) (f (text.take k)).length)) :
    Alike Eq reports (Sheet.parse text) (Sheet.parse (f text)) :=
  Sheet.alike (fun s hs => ⟨s, hf.sheet hs, rfl⟩) fun _ _ h => ⟨_, hf.breach h, hr h⟩

theorem alike_offset (hf : Relayout f) (text : List Char) :
    Alike Eq (fun r r' => ∃ k : Nat, r.offset = k ∧ r'.offset = (f (text.take k)).length)
      (Sheet.parse text) (Sheet.parse (f text)) :=
  hf.alike fun {_ k} _ => ⟨k, rfl, rfl⟩

/-- So do two texts that come to the same when they are laid out anew. -/
theorem alike_of_eq (hf : Relayout f) (h : f text' = f text) :
    Alike Eq (fun r r' => ∃ k k' : Nat, r.offset = k ∧ r'.offset = k' ∧
        (f (text.take k)).length = (f (text'.take k')).length)
      (Sheet.parse text) (Sheet.parse text') := by
  have hx := hf.alike_offset text
  have hx' := hf.alike_offset text'
  rw [h] at hx'
  generalize Sheet.parse text = x at hx
  generalize Sheet.parse text' = x' at hx'
  generalize Sheet.parse (f text) = y at hx hx'
  cases hx with
  | accepted hs =>
    cases hx' with
    | accepted hs' => exact .accepted (hs.trans hs'.symm)
  | rejected hcause htexts hr =>
    cases hx' with
    | rejected hcause' htexts' hr' =>
      obtain ⟨k, hk, hoff⟩ := hr
      obtain ⟨k', hk', hoff'⟩ := hr'
      rw [hoff] at hoff'
      exact .rejected (hcause'.symm.trans hcause) (htexts'.symm.trans htexts)
        ⟨k, k', hk, hk', Int.ofNat_inj.1 hoff'⟩

end

end Relayout

/-! ## Collapsed blanks -/

/-- Whether a run of blanks is going on behind this text. -/
def partedBehind (parted : Bool) (text : List Char) : Bool :=
  (text.getLast?.map isBlank).getD parted

theorem partedBehind_cons (parted : Bool) (c : Char) (u : List Char) :
    partedBehind parted (c :: u) = partedBehind (isBlank c) u := by
  unfold partedBehind
  rw [List.getLast?_cons]
  rcases u.getLast? with _ | d <;> rfl

theorem collapseFrom_append (v : List Char) : ∀ (u : List Char) (parted : Bool),
    collapseFrom parted (u ++ v) = collapseFrom parted u ++ collapseFrom (partedBehind parted u) v
  | [], _ => rfl
  | c :: u, parted => by
    rw [partedBehind_cons]
    rcases hc : isBlank c with _ | _
    · simp [collapseFrom, hc, collapseFrom_append v u]
    · rcases parted with _ | _ <;> simp [collapseFrom, hc, collapseFrom_append v u]

theorem collapseFrom_endsRun {v : List Char} (hv : EndsRun isBlank v) (parted : Bool) :
    collapseFrom parted v = collapse v := by
  rcases v with _ | ⟨c, v⟩
  · rfl
  · simp [collapse, collapseFrom, endsRun_cons.1 hv]

theorem collapse_append {u v : List Char} (h : Parted u v) :
    collapse (u ++ v) = collapse u ++ collapse v := by
  have happend := collapseFrom_append v u false
  rcases h with hu | hv
  · have hparted : partedBehind false u = false := by
      unfold partedBehind
      rcases hlast : u.getLast? with _ | c
      · rfl
      · exact hu c (by rw [List.head?_reverse, hlast]; rfl)
    rwa [hparted] at happend
  · rwa [collapseFrom_endsRun hv] at happend

theorem collapseFrom_blanks {w : List Char} (hw : IsBlanks w) : collapseFrom true w = [] := by
  induction w with
  | nil => rfl
  | cons c w ih =>
    have hc := hw c List.mem_cons_self
    simp [collapseFrom, hc, ih fun d hd => hw d (List.mem_cons_of_mem _ hd)]

theorem collapse_blanks {c : Char} {w : List Char} (hw : IsBlanks (c :: w)) :
    collapse (c :: w) = [' '] := by
  have hc := hw c List.mem_cons_self
  have hw' := collapseFrom_blanks fun d hd => hw d (List.mem_cons_of_mem _ hd)
  simp [collapse, collapseFrom, hc, hw']

theorem relayout_collapse : Relayout collapse where
  append := collapse_append
  char hc := by simp [collapse, collapseFrom, hc]
  blanks {w} hw := by
    rcases w with _ | ⟨c, w⟩
    · exact isBlanks_nil
    · rw [collapse_blanks hw]
      intro d hd
      rw [List.mem_singleton.1 hd]
      rfl
  ne_nil {w} hw hne := by
    obtain ⟨c, w, rfl⟩ := List.exists_cons_of_ne_nil hne
    rw [collapse_blanks hw]
    exact List.cons_ne_nil _ _

/-- How blanks are laid out never matters, only what they part. -/
theorem Sheet.parse_collapse (text : List Char) :
    Alike Eq (fun r r' => ∃ k : Nat, r.offset = k ∧ r'.offset = (collapse (text.take k)).length)
        (Sheet.parse text) (Sheet.parse (collapse text)) ∧
      ∀ text', collapse text' = collapse text →
        Alike Eq (fun r r' => ∃ k k' : Nat, r.offset = k ∧ r'.offset = k' ∧
            (collapse (text.take k)).length = (collapse (text'.take k')).length)
          (Sheet.parse text) (Sheet.parse text') := by
  refine ⟨relayout_collapse.alike_offset text, fun text' h => ?_⟩
  exact relayout_collapse.alike_of_eq h

theorem Sheet.parse_collapse_closing :
    collapse ['p', '\n', '\x7b'] = collapse ['p', ' ', '\t', '\x7b'] ∧
      Alike Eq (fun r r' => ∃ k k' : Nat, r.offset = k ∧ r'.offset = k' ∧
          (collapse (['p', ' ', '\t', '\x7b'].take k)).length
            = (collapse (['p', '\n', '\x7b'].take k')).length)
        (Sheet.parse ['p', ' ', '\t', '\x7b']) (Sheet.parse ['p', '\n', '\x7b']) := by
  have h : collapse ['p', '\n', '\x7b'] = collapse ['p', ' ', '\t', '\x7b'] := by decide
  exact ⟨h, (Sheet.parse_collapse _).2 _ h⟩

end Stylesheet
