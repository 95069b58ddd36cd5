import Stylesheet.Proofs.Breach

/-!
# The characters of a sheet

Few characters can be read: letters, blanks and five marks. No breach of the grammar lies behind
any other character (`Sheet.Breaks.isPlain_take`), and in a rule that breaks off no closing brace
comes before the breach (`Rule.Breaks.isInner_take`).
-/

namespace Stylesheet

/-- The characters that a rule is written with up to its closing brace. -/
def isInner (c : Char) : Bool :=
  isLetter c || isBlank c || c = ':' || c = ';' || c = '\x7b'

def IsInner (s : List Char) : Prop :=
  ∀ c ∈ s, isInner c = true

/-- The characters that a sheet is written with. -/
def IsPlain (s : List Char) : Prop :=
  ∀ c ∈ s, isInner c = true ∨ c = '\x7d'

theorem isInner_nil : IsInner [] := by
  simp [IsInner]

theorem isInner_append {u v : List Char} : IsInner (u ++ v) ↔ IsInner u ∧ IsInner v :=
  List.forall_mem_append

theorem isInner_cons {c : Char} {s : List Char} :
    IsInner (c :: s) ↔ isInner c = true ∧ IsInner s :=
  List.forall_mem_cons

theorem IsInner.closing_notMem {s : List Char} (h : IsInner s) : '\x7d' ∉ s :=
  fun hc => absurd (h _ hc) (by decide)

theorem IsInner.isPlain {s : List Char} (h : IsInner s) : IsPlain s :=
  fun c hc => .inl (h c hc)

theorem IsPlain.append {u v : List Char} (h : IsPlain u) (h' : IsPlain v) : IsPlain (u ++ v) :=
  List.forall_mem_append.2 ⟨h, h'⟩

theorem IsBlanks.isInner {w : List Char} (hw : IsBlanks w) : IsInner w :=
  fun c hc => by simp [Stylesheet.isInner, hw c hc]

theorem IsWord.isInner {w : List Char} (hw : IsWord w) : IsInner w :=
  fun c hc => by simp [Stylesheet.isInner, hw.2 c hc]

/-! ## Derived texts -/

theorem Declaration.Derives.isInner {s : List Char} {d : Declaration}
    (h : Declaration.Derives s d) : IsInner s := by
  obtain ⟨p, h₁, h₂, hv⟩ := h
  simp only [isInner_append, isInner_cons, p.isWord_name.isInner, h₁.isInner, h₂.isInner,
    hv.isInner, isInner_nil, and_true, true_and]
  decide

theorem Declaration.DerivesAll.isInner {s : List Char} {ds : List Declaration}
    (h : Declaration.DerivesAll s ds) : IsInner s := by
  induction h with
  | nil => exact isInner_nil
  | cons hd hw _ ih => exact isInner_append.2 ⟨isInner_append.2 ⟨hd.isInner, hw.isInner⟩, ih⟩

theorem Rule.Opens.isInner {u : List Char} {r : Rule} (h : Rule.Opens u r) : IsInner u := by
  obtain ⟨hw, hsel, h₁, h₂, hds⟩ := h
  simp only [isInner_append, isInner_cons, hw.isInner, hsel.isInner, h₁.isInner, h₂.isInner,
    hds.isInner, and_true, true_and]
  decide

theorem Rule.Derives.isPlain {s : List Char} {r : Rule} (h : Rule.Derives s r) : IsPlain s := by
  obtain ⟨u, hu, rfl⟩ := h.exists_opens isBlanks_nil
  exact hu.isInner.isPlain.append (by simp [IsPlain])

theorem Rule.DerivesAll.isPlain {s : List Char} {rs : List Rule} (h : Rule.DerivesAll s rs) :
    IsPlain s := by
  induction h with
  | nil => exact isInner_nil.isPlain
  | cons hr hw _ ih => exact (hr.isPlain.append hw.isInner.isPlain).append ih

theorem Sheet.Derives.isPlain {text : List Char} {s : Sheet} (h : Sheet.Derives text s) :
    IsPlain text := by
  obtain ⟨hw, hrs⟩ := h
  exact hw.isInner.isPlain.append hrs.isPlain

/-! ## What comes before a breach -/

variable {text : List Char} {b : Breach} {k : Nat}

theorem Declaration.Breaks.isInner_take (h : Declaration.Breaks text b k) :
    IsInner (text.take k) := by
  have hcolon : Stylesheet.isInner ':' = true := by decide
  cases h with
  | name hw _ _ =>
    rw [List.take_left]
    exact hw.isInner
  | property _ _ _ _ => exact isInner_nil
  | colon p hw h₁ _ _ _ =>
    rw [List.take_left]
    simp only [isInner_append, hw.isInner, p.isWord_name.isInner, h₁.isInner, and_true]
  | value p hw h₁ h₂ _ _ =>
    rw [List.take_left]
    simp only [isInner_append, isInner_cons, hw.isInner, p.isWord_name.isInner, h₁.isInner,
      h₂.isInner, hcolon, and_true]
  | semicolon p hw h₁ h₂ hv _ _ =>
    rw [List.take_left]
    simp only [isInner_append, isInner_cons, hw.isInner, p.isWord_name.isInner, h₁.isInner,
      h₂.isInner, hv.isInner, hcolon, and_true]

/-- A rule is not closed before it breaks off. -/
theorem Rule.Breaks.isInner_take (h : Rule.Breaks text b k) : IsInner (text.take k) := by
  cases h with
  | selector hw _ _ =>
    rw [List.take_left]
    exact hw.isInner
  | opening hw hsel h₁ _ _ _ =>
    rw [List.take_left]
    simp only [isInner_append, hw.isInner, hsel.isInner, h₁.isInner, and_true]
  | closing hu =>
    rw [List.take_length]
    exact hu.isInner
  | declaration hu _ _ hb =>
    rw [List.take_length_add_append]
    exact isInner_append.2 ⟨hu.isInner, hb.isInner_take⟩

theorem Sheet.Breaks.isPlain_take (h : Sheet.Breaks text b k) : IsPlain (text.take k) := by
  obtain ⟨hv, _, hb⟩ := h
  rw [List.take_length_add_append]
  exact hv.isPlain.append hb.isInner_take.isPlain

end Stylesheet
