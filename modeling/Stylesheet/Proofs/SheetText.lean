import Stylesheet.Proofs.Lines
import Stylesheet.Sheet

/-!
# The text of a sheet

A sheet is shown in lines, and if no selector and no value has a line feed, each of these lines is
one part of the text (`Sheet.OneLine.partsAt_toText`). A line for a selector, a line for a
declaration and the empty line behind a rule are told apart by where they stand: the first line of a
rule is that of its selector, and what comes next are declarations, none of which is empty, up to
the empty line. So nothing of the sheet is lost in its text, whatever its selectors and values look
like (`Sheet.toText_inj`).
-/

namespace Stylesheet

/-! ## Lines -/

theorem partsAt_lines {c : Char} {lines : List (List Char)} (h : ∀ line ∈ lines, c ∉ line) :
    partsAt c (lines.flatMap fun line => line ++ [c]) = lines ++ [[]] := by
  induction lines with
  | nil => rfl
  | cons line lines ih =>
    obtain ⟨hline, hlines⟩ := List.forall_mem_cons.1 h
    rw [List.flatMap_cons, List.append_assoc, List.singleton_append, partsAt_append_cons hline,
      ih hlines, List.cons_append]

def Declaration.line (d : Declaration) : List Char :=
  ' ' :: ' ' :: d.toText.toList

def Rule.lines (r : Rule) : List (List Char) :=
  ("selector: ".toList ++ r.selector.toList) :: (r.declarations.map Declaration.line ++ [[]])

def Sheet.lines (s : Sheet) : List (List Char) :=
  s.rules.flatMap Rule.lines

theorem Rule.toList_toText (r : Rule) :
    r.toText.toList = r.lines.flatMap fun line => line ++ ['\n'] := by
  simp [Rule.toText, Rule.lines, String.toList_join, List.flatMap_map, Declaration.line]

theorem Sheet.toList_toText (s : Sheet) :
    s.toText.toList = s.lines.flatMap fun line => line ++ ['\n'] := by
  simp [Sheet.toText, Sheet.lines, String.toList_join, List.flatMap_map, List.flatMap_assoc,
    Rule.toList_toText]

/-! ## Sheets in lines -/

def Declaration.OneLine (d : Declaration) : Prop :=
  '\n' ∉ d.value.toList

structure Rule.OneLine (r : Rule) : Prop where
  selector : '\n' ∉ r.selector.toList
  declarations : ∀ d ∈ r.declarations, d.OneLine

/-- No selector and no value goes on behind a line feed. -/
def Sheet.OneLine (s : Sheet) : Prop :=
  ∀ r ∈ s.rules, r.OneLine

theorem Declaration.OneLine.newline_notMem {d : Declaration} (h : d.OneLine) : '\n' ∉ d.line := by
  have hname : '\n' ∉ d.property.name.toList := by
    cases d.property <;> simp [Property.name]
  unfold Declaration.OneLine at h
  simp [Declaration.line, Declaration.toText, hname, h]

theorem Rule.OneLine.newline_notMem {r : Rule} (h : r.OneLine) :
    ∀ line ∈ r.lines, '\n' ∉ line := by
  refine List.forall_mem_cons.2 ⟨?_, List.forall_mem_append.2 ⟨?_, by simp⟩⟩
  · simpa using h.selector
  · intro line hline
    obtain ⟨d, hd, rfl⟩ := List.mem_map.1 hline
    exact (h.declarations d hd).newline_notMem

theorem Sheet.OneLine.partsAt_toText {s : Sheet} (h : s.OneLine) :
    partsAt '\n' s.toText.toList = s.lines ++ [[]] := by
  rw [Sheet.toList_toText]
  refine partsAt_lines fun line hline => ?_
  obtain ⟨r, hr, hline⟩ := List.mem_flatMap.1 hline
  exact (h r hr).newline_notMem line hline

/-! ## What the lines tell -/

theorem Declaration.line_inj {d d' : Declaration} (h : d.line = d'.line) : d = d' := by
  obtain ⟨p, value⟩ := d
  obtain ⟨p', value'⟩ := d'
  cases p <;> cases p' <;>
    simp [Declaration.line, Declaration.toText, Property.name, String.toList_inj] at h ⊢ <;>
    exact h

/-- The empty line ends the declarations, and nothing else does. -/
theorem Declaration.lines_append_inj {t t' : List (List Char)} : ∀ {ds ds' : List Declaration},
    ds.map Declaration.line ++ [] :: t = ds'.map Declaration.line ++ [] :: t' → ds = ds' ∧ t = t'
  | [], [], h => ⟨rfl, (List.cons.inj h).2⟩
  | [], d' :: ds', h => by simp [Declaration.line] at h
  | d :: ds, [], h => by simp [Declaration.line] at h
  | d :: ds, d' :: ds', h => by
    obtain ⟨hd, hds⟩ := List.cons.inj h
    obtain ⟨rfl, rfl⟩ := Declaration.lines_append_inj hds
    exact ⟨by rw [Declaration.line_inj hd], rfl⟩

theorem Rule.lines_append_inj {r r' : Rule} {t t' : List (List Char)}
    (h : r.lines ++ t = r'.lines ++ t') : r = r' ∧ t = t' := by
  obtain ⟨selector, ds⟩ := r
  obtain ⟨selector', ds'⟩ := r'
  simp only [Rule.lines, List.cons_append, List.append_assoc, List.nil_append] at h
  obtain ⟨hselector, hrest⟩ := List.cons.inj h
  obtain rfl := String.toList_inj.1 (List.append_cancel_left hselector)
  obtain ⟨rfl, rfl⟩ := Declaration.lines_append_inj hrest
  exact ⟨rfl, rfl⟩

theorem Rule.flatMap_lines_inj : ∀ {rs rs' : List Rule},
    rs.flatMap Rule.lines = rs'.flatMap Rule.lines → rs = rs'
  | [], [], _ => rfl
  | [], r' :: rs', h => by simp [Rule.lines] at h
  | r :: rs, [], h => by simp [Rule.lines] at h
  | r :: rs, r' :: rs', h => by
    obtain ⟨rfl, hrs⟩ := Rule.lines_append_inj h
    rw [Rule.flatMap_lines_inj hrs]

/-- The text of a sheet in lines is the text of no other. -/
theorem Sheet.toText_inj {s s' : Sheet} (h : s.OneLine) (h' : s'.OneLine) :
    s.toText = s'.toText ↔ s = s' := by
  refine ⟨fun ht => ?_, congrArg Sheet.toText⟩
  have hparts := h.partsAt_toText
  rw [ht, h'.partsAt_toText] at hparts
  have hrules : s'.rules = s.rules := Rule.flatMap_lines_inj (List.append_cancel_right hparts)
  exact congrArg Sheet.mk hrules.symm

/-- A value or a selector that looks like the front of another line is not taken for one. -/
theorem Sheet.toText_inj_selector :
    Sheet.OneLine ⟨[⟨"", [⟨.color, "selector: "⟩]⟩]⟩ ∧
      Sheet.OneLine ⟨[⟨"  color: ", []⟩, ⟨"selector: ", []⟩]⟩ ∧
      Sheet.toText ⟨[⟨"", [⟨.color, "selector: "⟩]⟩]⟩
        ≠ Sheet.toText ⟨[⟨"  color: ", []⟩, ⟨"selector: ", []⟩]⟩ := by
  have hvalue : Declaration.OneLine ⟨.color, "selector: "⟩ := by simp [Declaration.OneLine]
  have hrule {selector : String} (h : '\n' ∉ selector.toList) : Rule.OneLine ⟨selector, []⟩ :=
    ⟨h, by simp⟩
  have h : Sheet.OneLine ⟨[⟨"", [⟨.color, "selector: "⟩]⟩]⟩ :=
    List.forall_mem_singleton.2 ⟨by simp, List.forall_mem_singleton.2 hvalue⟩
  have h' : Sheet.OneLine ⟨[⟨"  color: ", []⟩, ⟨"selector: ", []⟩]⟩ :=
    List.forall_mem_cons.2 ⟨hrule (by simp), List.forall_mem_singleton.2 (hrule (by simp))⟩
  refine ⟨h, h', fun ht => ?_⟩
  simpa using (Sheet.toText_inj h h').1 ht

end Stylesheet
