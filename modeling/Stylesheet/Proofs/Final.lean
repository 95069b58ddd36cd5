import Stylesheet.Proofs.Alike
import Stylesheet.Proofs.Places
import Stylesheet.Proofs.Viable

/-!
# The first failure is final

Once a text has gone on past the place where a failure is decided, nothing that is put behind the
text changes the failure, its place, or how much is said of it. What is said shows the line of the
failure, so that stays the same as soon as the line has ended.
-/

namespace Stylesheet

/-- The place where the failure is decided: for a word that names no property, the end of it. -/
def Report.stop (r : Report) : Int :=
  match r.cause with
  | .unknownProperty word => r.offset + word.length
  | _ => r.offset

/-- The second report is of the same failure in a text that goes on. -/
structure Report.Stays (text : List Char) (r r' : Report) : Prop where
  offset : r'.offset = r.offset
  place : r'.place = r.place
  texts : (∃ i : Nat, r.offset ≤ i ∧ text[i]? = some '\n') → r'.texts = r.texts

section

variable {b : Breach} {text : List Char} {k : Nat}

theorem Breach.stop_report : (b.report text k).stop = b.stop k := by
  cases b <;> rfl

theorem Breach.At.report_stays (h : b.At text k) (t : List Char) :
    (b.report text k).Stays text (b.report (text ++ t) k) := by
  obtain ⟨u, v, rfl, rfl, -⟩ := h.exists_parted
  have hplace : Location.ofOffset (u ++ v ++ t) u.length = Location.ofOffset (u ++ v) u.length := by
    rw [List.append_assoc, Location.ofOffset_append, Location.ofOffset_append]
  refine ⟨rfl, congrArg some hplace, ?_⟩
  rintro ⟨i, hi, hnewline⟩
  have hv : '\n' ∈ v := by
    rw [List.getElem?_append_right (Int.ofNat_le.1 hi)] at hnewline
    exact List.mem_of_getElem? hnewline
  have hline : lineAt (u ++ v ++ t) u.length = lineAt (u ++ v) u.length := by
    rw [List.append_assoc, lineAt_append, lineAt_append, firstLine_append hv]
  simp only [Breach.report, Notice.point, hplace, hline]

end

/-- A failure that is decided before the end of the text is the failure of every text that goes on
from there. -/
theorem Sheet.failure_final {text : List Char} {a : Announcement}
    (ha : Sheet.parse text = .error (.failed a)) (hstop : a.report.stop < text.length)
    (t : List Char) :
    ∃ a', Sheet.parse (text ++ t) = .error (.failed a') ∧ a'.report.cause = a.report.cause ∧
      a'.report.texts.length = a.report.texts.length ∧ a.report.Stays text a'.report := by
  obtain ⟨b, k, h, rfl⟩ := Sheet.exists_at_of_parse ha
  rw [Breach.announcement, Breach.stop_report] at hstop
  have h' := h.append (Int.ofNat_lt.1 hstop) t
  exact ⟨_, h'.parse_eq, rfl, Breach.length_texts, h.report_stays t⟩

theorem Sheet.failure_final_property :
    ∃ a, Sheet.parse ['p', '\x7b', 'h', 'u', 'e', '\n'] = .error (.failed a) ∧
      a.report.stop < (['p', '\x7b', 'h', 'u', 'e', '\n'].length : Int) ∧
      ∃ a', Sheet.parse (['p', '\x7b', 'h', 'u', 'e', '\n'] ++ [':', 'x', ';', '\x7d'])
          = .error (.failed a') ∧
        a'.report.cause = a.report.cause ∧
        a'.report.texts.length = a.report.texts.length ∧
        a.report.Stays ['p', '\x7b', 'h', 'u', 'e', '\n'] a'.report := by
  have hopen : OpenBlock ['p', '\x7b'] :=
    .mk (.mk isBlanks_nil .nil) (show IsWord ['p'] by decide) isBlanks_nil isBlanks_nil .nil
  have h : (Breach.property "hue").At ['p', '\x7b', 'h', 'u', 'e', '\n'] 2 := by
    refine .property hopen (show IsWord ['h', 'u', 'e'] by decide) (endsRun_cons.2 (by decide)) ?_
    intro p
    cases p <;> decide
  have hstop : ((Breach.property "hue").report ['p', '\x7b', 'h', 'u', 'e', '\n'] 2).stop < 6 := by
    decide
  exact ⟨_, h.parse_eq, hstop, Sheet.failure_final h.parse_eq hstop _⟩

end Stylesheet
