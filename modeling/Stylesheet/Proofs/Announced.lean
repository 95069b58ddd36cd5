import Stylesheet.Proofs.Filling
import Stylesheet.Proofs.Origins
import Stylesheet.Run

/-!
# What is announced of a failure

Every failure is announced in full and only once, whichever production it comes up in and from
wherever it was called: the notice at the failure's offset with its message, placed there, and a
note if a word of a declaration was missing. The message can always be made, although one of them
is filled from a template, since its argument is not looked at (`Breach.exists_announcement`).

What a production called by another one fails with is passed on as it is: a rule that fails in a
declaration fails as that declaration would on its own, and a sheet as the rule would
(`Rule.Notes`, `Sheet.Notes`).
-/

namespace Stylesheet

/-! ## One failure -/

/-- The announcement says all that there is to say of its failure, and has sent just that. -/
structure Announcement.Tells (text : List Char) (a : Announcement) (part : Option Part) :
    Prop where
  place : a.report.place = some (Location.ofOffset text a.report.offset)
  texts : a.report.texts
    = (Notice.point text a.report.offset a.report.cause.message).toText
      :: (part.map Part.note).toList
  sent : a.sent = a.report.texts

section One

variable {text : List Char}

/-- A failure that was pointed at once, and then noted for a part of it if there is one. -/
theorem Failure.exists_announcement {f : Failure} {template : String}
    {arguments : List Template.Argument} {part : Option Part}
    (hs : f.steps = .point f.offset template arguments
      :: (part.map fun p => Step.note p.note).toList)
    (hm : Notice.ofTemplate (Template.fill none) text f.offset template arguments
      = .ok (.point text f.offset f.cause.message)) :
    ∃ a, Trouble.ofFailure text f = .failed a ∧ a.report.cause = f.cause
      ∧ a.report.offset = f.offset ∧ a.Tells text part := by
  let n := Notice.point text f.offset f.cause.message
  let texts := n.toText :: (part.map Part.note).toList
  refine ⟨⟨⟨f.cause, f.offset, some n.line, some n.column, texts⟩, texts⟩, ?_, rfl, rfl,
    ⟨rfl, rfl, rfl⟩⟩
  have hstep : (Announcement.step (Template.fill none) text
      (.point f.offset template arguments)).run (.start f.report)
        = .ok () ⟨⟨f.cause, f.offset, some n.line, some n.column, [n.toText]⟩, [n.toText]⟩ := by
    rw [Announcement.step, hm]
    rfl
  have hsteps : f.announce text
      = .ok () ⟨⟨f.cause, f.offset, some n.line, some n.column, texts⟩, texts⟩ := by
    rw [Failure.announce, hs, List.forM_cons, EStateM.run_bind, hstep]
    cases part <;> rfl
  rw [Trouble.ofFailure, hsteps]

theorem Failure.exists_announcement_pointed (text : List Char) (cause : Cause) (offset : Int) :
    ∃ a, Trouble.ofFailure text (Failure.pointed ⟨cause, offset, []⟩) = .failed a
      ∧ a.report.cause = cause ∧ a.report.offset = offset ∧ a.Tells text none :=
  Failure.exists_announcement rfl rfl

/-- The name of the property may be any text. -/
theorem fill_unknownProperty (room : Room) (name : String) :
    Template.fill room "Unknown property: '%s'." [.text name]
      = .ok (Cause.unknownProperty name).message := by
  have htemplate : "Unknown property: '%s'."
      = (Template.Pattern.mk "Unknown property: '" ["'."]).template := by decide
  have hmessage : (Cause.unknownProperty name).message
      = (Template.Pattern.mk "Unknown property: '" ["'."]).filled [.text name] := by
    rw [Template.Pattern.filled_cons, Template.Pattern.filled_nil]
    exact String.append_assoc
  rw [htemplate, hmessage]
  exact Template.Pattern.fill_template _ _

theorem Breach.exists_announcement (text : List Char) (b : Breach) (k : Int) :
    ∃ a, Trouble.ofFailure text (b.failure k) = .failed a ∧ a.report.cause = b.cause
      ∧ a.report.offset = k ∧ a.Tells text b.part := by
  cases b with
  | property name =>
    refine Failure.exists_announcement (f := .unknownProperty name k) rfl ?_
    change (Template.fill none "Unknown property: '%s'." [.text name]).map (Notice.point text k) = _
    rw [fill_unknownProperty]
    rfl
  | selector => exact Failure.exists_announcement (f := Breach.selector.failure k) rfl rfl
  | opening => exact Failure.exists_announcement (f := Breach.opening.failure k) rfl rfl
  | closing => exact Failure.exists_announcement (f := Breach.closing.failure k) rfl rfl
  | name => exact Failure.exists_announcement (f := Breach.name.failure k) rfl rfl
  | colon => exact Failure.exists_announcement (f := Breach.colon.failure k) rfl rfl
  | value => exact Failure.exists_announcement (f := Breach.value.failure k) rfl rfl
  | semicolon => exact Failure.exists_announcement (f := Breach.semicolon.failure k) rfl rfl

end One

/-! ## The notes -/

/-- Behind the blanks at this position there is no word. -/
def NoWordAt (text : List Char) (pos : Int) : Prop :=
  ∃ c, Cursor.place text pos = .ok c ∧ EndsRun isLetter c.skipBlanks.ahead

/-- The part that is noted of a failure in the declaration at this position: the name or the value,
if that is the word that is missing. -/
inductive Declaration.Notes (text : List Char) (pos : Int) (a : Announcement) :
    Option Part → Prop where
  | name : a.report.cause = .noWord → NoWordAt text pos → Notes text pos a (some .name)
  | value : a.report.cause = .noWord → ¬ NoWordAt text pos → Notes text pos a (some .value)
  | none : a.report.cause ≠ .noWord → Notes text pos a none

/-- The part that is noted of a failure in the rule at this position. There is none for the words
of the rule itself, and for a declaration in it what is noted for the declaration alone. -/
inductive Rule.Notes (text : List Char) (pos : Int) (a : Announcement) : Option Part → Prop where
  | selector : a.report.cause = .noWord → NoWordAt text pos → Notes text pos a none
  | brace : a.report.cause ≠ .noWord → Notes text pos a none
  | declaration {pos' : Int} {part : Option Part} :
    ¬ NoWordAt text pos → pos ≤ pos' → Declaration.parseAt text pos' = .error (.failed a) →
      Declaration.Notes text pos' a part → Notes text pos a part

/-- The part that is noted of a failure in a sheet, which is a failure in one of its rules. -/
inductive Sheet.Notes (text : List Char) (a : Announcement) : Option Part → Prop where
  | rule {pos : Int} {part : Option Part} :
    0 ≤ pos → Rule.parseAt text pos = .error (.failed a) → Rule.Notes text pos a part →
      Notes text a part

section Notes

variable {text : List Char} {c : Cursor} {f : Failure}

theorem noWordAt_pos (hc : c.StandsIn text) :
    NoWordAt text c.pos ↔ EndsRun isLetter c.skipBlanks.ahead := by
  refine ⟨fun ⟨c', hc', hl⟩ => ?_, fun hl => ⟨c, hc, hl⟩⟩
  unfold Cursor.StandsIn at hc
  rw [hc'] at hc
  cases hc
  exact hl

theorem parseAt_ok {α : Type} {read : Cursor → Except Failure α} {start : Int} {x : α}
    (hc : Cursor.place text start = .ok c) (h : read c = .ok x) :
    parseAt text start read = .ok x := by
  rw [parseAt, hc, mapError_ok]
  change (read c).mapError _ = _
  rw [h, mapError_ok]

theorem parseAt_error {α : Type} {read : Cursor → Except Failure α} (hc : c.StandsIn text)
    (h : read c = .error f) : parseAt text c.pos read = .error (.ofFailure text f) := by
  unfold Cursor.StandsIn at hc
  rw [parseAt, hc, mapError_ok]
  change (read c).mapError _ = _
  rw [h, mapError_error]

/-- The failure is that of a breach, and the notes on it are those of the breach. -/
def NotesOf (notes : Announcement → Option Part → Prop) (text : List Char) (f : Failure) : Prop :=
  ∃ b k, f = Breach.failure b k ∧
    ∀ a, a.report.cause = b.cause → Trouble.ofFailure text f = .failed a → notes a b.part

theorem Breach.part_eq_none {b : Breach} (h : b.cause ≠ .noWord) : b.part = none := by
  cases b <;> simp_all [Breach.cause, Breach.part]

theorem Declaration.notes_of_read (hc : c.StandsIn text) (h : Declaration.read c = .error f) :
    NotesOf (Declaration.Notes text c.pos) text f := by
  obtain ⟨b, c', -, rfl, hb⟩ := Declaration.read_error h
  refine ⟨b, c'.pos, rfl, fun a ha _ => ?_⟩
  rcases hb with ⟨rfl, hl⟩ | ⟨rfl, hl⟩ | hb
  · exact .name ha ((noWordAt_pos hc).2 hl)
  · exact .value ha fun hn => hl ((noWordAt_pos hc).1 hn)
  · rw [Breach.part_eq_none hb]
    exact .none (ha ▸ hb)

theorem Rule.notes_of_read (hc : c.StandsIn text) (h : Rule.read c = .error f) :
    NotesOf (Rule.Notes text c.pos) text f := by
  rcases Rule.read_error h with ⟨b, c', -, rfl, hb⟩ | ⟨hl, c', hc', hd⟩
  · refine ⟨b, c'.pos, rfl, fun a ha _ => ?_⟩
    rcases hb with ⟨rfl, hl⟩ | hb
    · exact .selector ha ((noWordAt_pos hc).2 hl)
    · rw [Breach.part_eq_none hb]
      exact .brace (ha ▸ hb)
  · have hstands := hc.of_leadsTo hc'
    obtain ⟨b, k, rfl, hnotes⟩ := Declaration.notes_of_read hstands hd
    refine ⟨b, k, rfl, fun a ha hf => ?_⟩
    refine .declaration (fun hn => hl ((noWordAt_pos hc).1 hn)) hc'.pos_le ?_ (hnotes a ha hf)
    rw [Declaration.parseAt, parseAt_error hstands hd, hf]

theorem Sheet.notes_of_read (h : Sheet.read text = .error f) :
    NotesOf (Sheet.Notes text) text f := by
  obtain ⟨c, hc, hr⟩ := Sheet.read_error h
  have hstands := (Cursor.standsIn_start text).of_leadsTo hc
  obtain ⟨b, k, rfl, hnotes⟩ := Rule.notes_of_read hstands hr
  refine ⟨b, k, rfl, fun a ha hf => ?_⟩
  refine .rule hc.pos_le ?_ (hnotes a ha hf)
  rw [Rule.parseAt, parseAt_error hstands hr, hf]

end Notes

/-! ## Every entry point -/

/-- Nothing is said of a success or of a start outside the text, and of a failure all that there is
to say, with the note that is due. -/
def SaidOnce {α : Type} (text : List Char) (notes : Announcement → Option Part → Prop)
    (r : Except Trouble α) : Prop :=
  match r with
  | .ok _ => sentOn r = []
  | .error (.outside _) => sentOn r = []
  | .error (.template _) => False
  | .error (.failed a) => sentOn r = a.report.texts ∧
    (∀ message, a.report.cause ≠ .other message) ∧ ∃ part, a.Tells text part ∧ notes a part

section SaidOnce

variable {α : Type} {text : List Char} {notes : Announcement → Option Part → Prop}

theorem saidOnce_pointed {cause : Cause} (hc : ∀ message, cause ≠ .other message) (k : Int) :
    SaidOnce (α := α) text (fun _ part => part = none)
      (.error (.ofFailure text (Failure.pointed ⟨cause, k, []⟩))) := by
  obtain ⟨a, ha, hcause, -, ht⟩ := Failure.exists_announcement_pointed text cause k
  rw [ha]
  exact ⟨ht.sent, fun m => hcause ▸ hc m, none, ht, rfl⟩

theorem NotesOf.saidOnce {f : Failure} (h : NotesOf notes text f) :
    SaidOnce (α := α) text notes (.error (.ofFailure text f)) := by
  obtain ⟨b, k, rfl, hnotes⟩ := h
  obtain ⟨a, ha, hcause, -, ht⟩ := b.exists_announcement text k
  rw [ha]
  refine ⟨ht.sent, fun m => ?_, b.part, ht, hnotes a hcause ha⟩
  rw [hcause]
  cases b <;> simp [Breach.cause]

theorem saidOnce_parseAt {start : Int} {read : Cursor → Except Failure α}
    (h : ∀ c f, c.StandsIn text → c.pos = start → read c = .error f →
      SaidOnce (α := α) text notes (.error (.ofFailure text f))) :
    SaidOnce text notes (parseAt text start read) := by
  rcases hp : Cursor.place text start with o | c
  · rw [parseAt, hp]
    rfl
  obtain ⟨hpos, hc⟩ := Cursor.place_eq_ok hp
  rcases hr : read c with f | x
  · rw [← hpos, parseAt_error hc hr]
    exact h c f hc hpos hr
  · rw [parseAt_ok hp hr]
    rfl

end SaidOnce

/-- A failure is announced once and in full, from every entry point and every start. -/
theorem announced_once (text : List Char) (start : Int) (expected : String) :
    SaidOnce text (fun _ part => part = none) (parseAt text start Cursor.readWord)
      ∧ SaidOnce text (fun _ part => part = none) (parseAt text start (Cursor.readExactly expected))
      ∧ SaidOnce text (Declaration.Notes text start) (Declaration.parseAt text start)
      ∧ SaidOnce text (Rule.Notes text start) (Rule.parseAt text start)
      ∧ SaidOnce text (Sheet.Notes text) (Sheet.parse text)
      ∧ (Sheet.run text).sent = sentOn (Sheet.parse text) := by
  refine ⟨?_, ?_, ?_, ?_, ?_, ?_⟩
  · refine saidOnce_parseAt fun c f _ _ h => ?_
    rw [(Cursor.readWord_error h).2]
    exact saidOnce_pointed (by simp) _
  · refine saidOnce_parseAt fun c f _ _ h => ?_
    rw [Cursor.readExactly_error h]
    exact saidOnce_pointed (by simp) _
  · refine saidOnce_parseAt ?_
    rintro c f hc rfl h
    exact (Declaration.notes_of_read hc h).saidOnce
  · refine saidOnce_parseAt ?_
    rintro c f hc rfl h
    exact (Rule.notes_of_read hc h).saidOnce
  · rcases hr : Sheet.read text with f | s
    · rw [Sheet.parse, hr, mapError_error]
      exact (Sheet.notes_of_read hr).saidOnce
    · rw [Sheet.parse, hr, mapError_ok]
      rfl
  · exact Sheet.sent_run text

end Stylesheet
