import Stylesheet.Proofs.Alike
import Stylesheet.Proofs.Joined
import Stylesheet.Proofs.Places

/-!
# A text behind a sheet

A sheet in front of a text changes nothing about the text: it is accepted with the rules of the
sheet in front of its own, or it is rejected for what it was rejected for, that much further on.
The blanks where the two meet are read as one run. They count to the sheet in front, which is why
the text behind it may start with any blanks at all (`Sheet.Derives.append`).
-/

namespace Stylesheet

section

variable {front : List Char} {sheet : Sheet}

theorem OpenBlock.behind (hf : Sheet.Derives front sheet) {u : List Char} (hu : OpenBlock u) :
    OpenBlock (front ++ u) := by
  obtain ⟨hv, hsel, h₁, h₂, hds⟩ := hu
  simpa using OpenBlock.mk (hf.append hv) hsel h₁ h₂ hds

theorem Breach.At.behind (hf : Sheet.Derives front sheet) {b : Breach} {text : List Char}
    {k : Nat} (h : b.At text k) : b.At (front ++ text) (front.length + k) := by
  cases h with
  | selector hv hc hl =>
    simpa using Breach.At.selector (hf.append hv) hc hl
  | opening hv hsel hw hl hs hbrace =>
    simpa using Breach.At.opening (hf.append hv) hsel hw hl hs hbrace
  | closing hu => simpa using Breach.At.closing (hu.behind hf)
  | name hu hc hl hbrace => simpa using Breach.At.name (hu.behind hf) hc hl hbrace
  | property hu hn hl hp => simpa using Breach.At.property (hu.behind hf) hn hl hp
  | colon p hu hw hl hs hcolon =>
    simpa using Breach.At.colon p (hu.behind hf) hw hl hs hcolon
  | value p hu h₁ h₂ hs hl => simpa using Breach.At.value p (hu.behind hf) h₁ h₂ hs hl
  | semicolon p hu h₁ h₂ hv hl hsemi =>
    simpa using Breach.At.semicolon p (hu.behind hf) h₁ h₂ hv hl hsemi

end

/-! ## The outcome -/

/-- The second report is of the same failure with this text in front. -/
structure Report.Behind (front : List Char) (r r' : Report) : Prop where
  offset : r'.offset = front.length + r.offset
  place : ∃ l, r.place = some l ∧ r'.place = some (l.behind front)

theorem Breach.At.report_behind {b : Breach} {text : List Char} {k : Nat} (h : b.At text k)
    (front : List Char) :
    (b.report text k).Behind front (b.report (front ++ text) (front.length + k)) := by
  obtain ⟨u, v, rfl, rfl, -⟩ := h.exists_parted
  exact ⟨Int.natCast_add _ _, _, rfl, congrArg some (Location.ofOffset_behind u v front)⟩

/-- A sheet in front of a text puts its rules in front of those of the text, and moves the place of
its failure. -/
theorem Sheet.parse_behind {front : List Char} {sheet : Sheet}
    (hf : Sheet.parse front = .ok sheet) (text : List Char) :
    Alike (fun s s' => s'.rules = sheet.rules ++ s.rules) (Report.Behind front)
      (Sheet.parse text) (Sheet.parse (front ++ text)) := by
  have hd := Sheet.derives_of_parse hf
  refine Sheet.alike (fun s hs => ?_) fun b k h => ?_
  · exact ⟨_, hd.append hs, rfl⟩
  · exact ⟨_, h.behind hd, h.report_behind front⟩

theorem Sheet.parse_behind_blanks :
    Sheet.parse ['p', '\x7b', '\x7d', '\n', ' '] = .ok ⟨[⟨"p", []⟩]⟩ ∧
      Alike (fun s s' => s'.rules = [⟨"p", []⟩] ++ s.rules)
        (Report.Behind ['p', '\x7b', '\x7d', '\n', ' '])
        (Sheet.parse [' ', 'q', '\x7b', 'h', 'u', 'e', ':'])
        (Sheet.parse (['p', '\x7b', '\x7d', '\n', ' ']
          ++ [' ', 'q', '\x7b', 'h', 'u', 'e', ':'])) := by
  have hrule : Rule.Derives ['p', '\x7b', '\x7d'] ⟨"p", []⟩ :=
    .mk (show IsWord ['p'] by decide) isBlanks_nil isBlanks_nil .nil
  have h : Sheet.parse ['p', '\x7b', '\x7d', '\n', ' '] = .ok ⟨[⟨"p", []⟩]⟩ :=
    Sheet.parse_derives (.mk isBlanks_nil (.cons hrule (show IsBlanks ['\n', ' '] by decide) .nil))
  exact ⟨h, Sheet.parse_behind h _⟩

end Stylesheet
