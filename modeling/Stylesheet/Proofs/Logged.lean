import Stylesheet.Proofs.Alike
import Stylesheet.Proofs.Alphabet
import Stylesheet.Proofs.Joined
import Stylesheet.Proofs.Records
import Stylesheet.Proofs.Stripped

/-!
# What a run logs

A run logs each rule as it is completed, and then the sheet or what is said of the failure. A rule
is completed with its closing brace, and there is no other one in it, so the rules that a failed
run has logged are those of the text up to the last closing brace before the failure
(`Sheet.Breaks.exists_closed`). That text is a sheet by itself, whatever is wrong behind it.
-/

namespace Stylesheet

/-! ## Behind the last closing brace -/

/-- Where the last of these characters ends, or the start of the text if there is none. -/
def lastEnd (c : Char) (text : List Char) : Nat :=
  (text.reverse.dropWhile (· ≠ c)).length

theorem lastEnd_append {c : Char} {v : List Char} (h : c ∉ v) (u : List Char) :
    lastEnd c (u ++ v) = lastEnd c u := by
  have hv : ∀ d ∈ v.reverse, decide (d ≠ c) = true := by
    intro d hd
    rw [decide_eq_true_iff]
    rintro rfl
    exact h (List.mem_reverse.1 hd)
  rw [lastEnd, List.reverse_append, List.dropWhile_append_of_pos hv, lastEnd]

theorem lastEnd_concat (c : Char) (u : List Char) : lastEnd c (u ++ [c]) = (u ++ [c]).length := by
  rw [lastEnd, List.reverse_append, List.reverse_singleton, List.singleton_append,
    List.dropWhile_cons_of_neg (by simp), List.length_cons, List.length_reverse,
    List.length_append, List.length_singleton]

/-- Nothing stands behind the last closing brace. -/
inductive IsClosed : List Char → Prop where
  | nil : IsClosed []
  | closing (u : List Char) : IsClosed (u ++ ['\x7d'])

theorem IsClosed.lastEnd_eq {u : List Char} (h : IsClosed u) : lastEnd '\x7d' u = u.length := by
  cases h with
  | nil => rfl
  | closing u => exact lastEnd_concat '\x7d' u

theorem isClosed_append_closing (u v : List Char) : IsClosed (u ++ (v ++ ['\x7d'])) := by
  rw [← List.append_assoc]
  exact .closing (u ++ v)

theorem Rule.Derives.isClosed {s : List Char} {r : Rule} (h : Rule.Derives s r) : IsClosed s := by
  obtain ⟨u, -, hs⟩ := h.exists_opens isBlanks_nil
  rw [List.nil_append] at hs
  rw [hs]
  exact .closing u

/-- The blanks behind the last rule can be left out. -/
theorem Rule.DerivesAll.exists_closed {s : List Char} {rs : List Rule}
    (h : Rule.DerivesAll s rs) :
    ∃ u w, s = u ++ w ∧ IsBlanks w ∧ IsClosed u ∧ Rule.DerivesAll u rs := by
  induction h with
  | nil => exact ⟨[], [], rfl, isBlanks_nil, .nil, .nil⟩
  | @cons s w t r rs hr hw _ ih =>
    obtain ⟨u, w', rfl, hw', hu, hrs⟩ := ih
    cases hu with
    | nil => exact ⟨s, w ++ w', by simp, hw.append hw', hr.isClosed, by simpa using hr.cons hrs⟩
    | closing u =>
      exact ⟨s ++ w ++ (u ++ ['\x7d']), w', by simp, hw', isClosed_append_closing _ u,
        .cons hr hw hrs⟩

theorem Sheet.Derives.exists_closed {text : List Char} {s : Sheet} (h : Sheet.Derives text s) :
    ∃ u w, text = u ++ w ∧ IsBlanks w ∧ IsClosed u ∧ Sheet.Derives u s := by
  obtain @⟨w, t, rs, hw, hrs⟩ := h
  obtain ⟨u, w', rfl, hw', hu, hrs⟩ := hrs.exists_closed
  cases hu with
  | nil => exact ⟨[], w ++ w', by simp, hw.append hw', .nil, .mk isBlanks_nil hrs⟩
  | closing u =>
    exact ⟨w ++ (u ++ ['\x7d']), w', by simp, hw', isClosed_append_closing w u, .mk hw hrs⟩

/-- Where a text breaks the grammar, the rules in front of the one that breaks off are a sheet, up
to the last closing brace, and have been read by then. -/
theorem Sheet.Breaks.exists_closed {text : List Char} {b : Breach} {k : Nat}
    (h : Sheet.Breaks text b k) :
    ∃ s, Sheet.Derives (text.take (lastEnd '\x7d' (text.take k))) s ∧
      Rule.readAll (.start text) = (s.rules, some (b.failure k)) := by
  obtain ⟨v, t, s, k', rfl, rfl, hv, hb, hr⟩ := h.exists_rules
  obtain ⟨u, w, rfl, hw, hu, hs⟩ := hv.exists_closed
  -- Between the last rule and the breach are blanks and the start of a rule.
  have hinner : IsInner (w ++ t.take k') := isInner_append.2 ⟨hw.isInner, hb.isInner_take⟩
  have hend : lastEnd '\x7d' ((u ++ w ++ t).take ((u ++ w).length + k')) = u.length := by
    rw [List.take_length_add_append, List.append_assoc, lastEnd_append hinner.closing_notMem,
      hu.lastEnd_eq]
  refine ⟨s, ?_, hr⟩
  rwa [hend, List.append_assoc, List.take_left]

/-! ## Runs -/

section Runs

variable {text : List Char}

theorem Sheet.run_derives {s : Sheet} (h : Sheet.Derives text s) :
    Sheet.run text = ⟨.ok s, s.rules.map .rule ++ [.sheet s]⟩ := by
  rw [Sheet.run, Sheet.readAll_start h]

theorem Breach.At.exists_run_eq {b : Breach} {k : Nat} (h : b.At text k) :
    ∃ s, Sheet.Derives (text.take (lastEnd '\x7d' (text.take k))) s ∧
      Sheet.run text = ⟨.error (.failed (b.announcement text k)),
        s.rules.map .rule ++ (b.report text k).texts.map .sent⟩ := by
  obtain ⟨s, hs, hr⟩ := h.breaks.exists_closed
  have htrouble : Trouble.ofFailure text (b.failure k) = .failed (b.announcement text k) := by
    have hp := h.parse_eq
    rw [Sheet.parse, Sheet.read_breaks h.breaks, mapError_error] at hp
    exact Except.error.inj hp
  refine ⟨s, hs, ?_⟩
  rw [Sheet.run, hr]
  dsimp only
  rw [htrouble]
  rfl

end Runs

/-! ## Logs -/

/-- The records of the rules that were completed. -/
def ruleRecords (rs : List Rule) : List Record :=
  rs.map fun r => ⟨10, "minicss", counting r.declarations.length
    ("Parsed rule '" ++ r.selector ++ "' with " ++ toString r.declarations.length
      ++ " declaration(s)")⟩

/-- The records of a run over a text that this came out of: one for each rule, and then one for the
sheet, or one for each text that was sent, as it is. The rules of a failed run are those of the
text up to the last closing brace before the failure. -/
inductive Logged (text : List Char) : Except Trouble Sheet → List Record → Prop where
  | accepted (s : Sheet) : Logged text (.ok s) (ruleRecords s.rules ++ [⟨10, "minicss",
      counting s.rules.length ("Parsed sheet with " ++ toString s.rules.length ++ " rule(s)")⟩])
  | rejected {a : Announcement} {k : Nat} {s : Sheet} :
    a.report.offset = k →
      Sheet.parse (text.take (lastEnd '\x7d' (text.take k))) = .ok s →
      Logged text (.error (.failed a))
        (ruleRecords s.rules ++ a.report.texts.map fun said => ⟨40, "minicss", .ok said⟩)

section Logs

variable {text : List Char}

/-- The rules of a sheet are named by words. -/
theorem map_ofRule {s : Sheet} (h : Sheet.Derives text s) :
    s.rules.map Record.ofRule = ruleRecords s.rules :=
  List.map_congr_left fun r hr => Record.ofRule_eq (h.inWords r hr).selector

theorem logged_run (text : List Char) :
    Logged text (Sheet.parse text) ((Sheet.run text).events.map Record.ofEvent) := by
  rcases Sheet.exists_at text with ⟨s, hp⟩ | ⟨b, k, h⟩
  · have hs := Sheet.derives_of_parse hp
    rw [Sheet.run_derives hs, hp, List.map_append, List.map_map]
    change Logged text _ (s.rules.map Record.ofRule ++ [Record.ofSheet s])
    rw [map_ofRule hs, Record.ofSheet_eq]
    exact .accepted s
  · obtain ⟨s, hs, hr⟩ := h.exists_run_eq
    rw [hr, h.parse_eq, List.map_append, List.map_map, List.map_map]
    change Logged text _ (s.rules.map Record.ofRule
      ++ (b.report text k).texts.map fun said => Record.ofText "minicss" said)
    rw [map_ofRule hs, List.map_congr_left fun said _ => Record.ofText_own said]
    exact .rejected rfl (Sheet.parse_derives hs)

theorem Record.le_level_ofEvent : ∀ e : Event, 10 ≤ (Record.ofEvent e).level
  | .rule _ => Int.le_refl 10
  | .sheet _ => Int.le_refl 10
  | .sent _ => (by decide : (10 : Int) ≤ 40)

/-- A logger for debugging keeps everything. -/
theorem Run.log_of_le (r : Run) {levels : List Level} (h : Level.effective levels ≤ 10) :
    r.log levels = r.events.map Record.ofEvent := by
  refine List.filter_eq_self.2 fun record hrecord => ?_
  obtain ⟨e, -, rfl⟩ := List.mem_map.1 hrecord
  exact decide_eq_true (Int.le_trans h (Record.le_level_ofEvent e))

theorem Run.log_debug (r : Run) (above : List Level) :
    r.log (10 :: above) = r.events.map Record.ofEvent :=
  r.log_of_le (Int.le_refl 10)

end Logs

theorem Level.effective_cons (level : Level) (above : List Level) :
    effective (level :: above) = if level = 0 then effective above else level := by
  unfold effective
  by_cases h : level = 0 <;> simp [h, notSet]

/-- A run logs the rules that it completes and then how it ends, each in a record of its own. Of
these a logger keeps the records of its level and above. One without a level of its own keeps what
the logger above it would keep, and all of them if there is none. -/
theorem Sheet.log_run (text : List Char) :
    (∀ above, Logged text (Sheet.parse text) ((Sheet.run text).log (10 :: above))) ∧
      (∀ level above, (Sheet.run text).log (level :: above)
        = if level = 0 then (Sheet.run text).log above
          else ((Sheet.run text).log (10 :: above)).filter fun r => level ≤ r.level) ∧
      (Sheet.run text).log [] = (Sheet.run text).log [10] := by
  refine ⟨fun above => ?_, fun level above => ?_, ?_⟩
  · rw [Run.log_debug]
    exact logged_run text
  · rw [Run.log_debug]
    unfold Run.log Record.isKept
    rw [Level.effective_cons]
    split <;> rfl
  · rw [Run.log_debug, Run.log_of_le]
    decide

/-- A logger that has no level of its own can keep nothing of what is above its level. -/
theorem Sheet.log_notSet :
    (Sheet.run ['p', '\x7b', '\x7d']).log [0, 30] = [] ∧
      ((Sheet.run ['p', '\x7b', '\x7d']).log [10, 30]).filter (fun r => 0 ≤ r.level) ≠ [] := by
  have hp : IsWord ['p'] := by decide
  have hs : Sheet.Derives ['p', '\x7b', '\x7d'] ⟨[⟨"p", []⟩]⟩ :=
    .mk isBlanks_nil (.cons (.mk hp isBlanks_nil isBlanks_nil .nil) isBlanks_nil .nil)
  rw [Sheet.run_derives hs]
  exact ⟨rfl, List.cons_ne_nil _ _⟩

end Stylesheet
