import Stylesheet.Notice
import Stylesheet.Failure

/-!
# Reports

Each step that a failure is announced in makes one text, which is kept with the report and sent
on. The first step that points somewhere also sets the line and the column of the report, for good.
A step can fail at its message, which is made before anything else is done.
-/

namespace Stylesheet

structure Report where
  cause : Cause
  offset : Int
  /-- The line where the first notice pointed. -/
  line : Option Int
  column : Option Int
  texts : List String
deriving DecidableEq

/-- Where the first notice pointed, by the line and the column. -/
def Report.place (r : Report) : Option Location :=
  match r.line, r.column with
  | some (.ofNat line), some (.ofNat column) => some ⟨line, column⟩
  | _, _ => none

theorem Report.place_eq_some {r : Report} {l : Location} :
    r.place = some l ↔ r.line = some (l.line : Int) ∧ r.column = some (l.column : Int) := by
  obtain ⟨cause, offset, line, column, texts⟩ := r
  obtain ⟨line', column'⟩ := l
  unfold Report.place
  dsimp only
  constructor
  · intro h
    split at h <;> cases h
    exact ⟨rfl, rfl⟩
  · rintro ⟨rfl, rfl⟩
    rfl

def Failure.report (f : Failure) : Report :=
  ⟨f.cause, f.offset, none, none, []⟩

/-- A report being announced. -/
structure Announcement where
  report : Report
  /-- The texts sent so far, first to last. -/
  sent : List String
deriving DecidableEq

namespace Announcement

def start (r : Report) : Announcement :=
  ⟨r, []⟩

/-- The line tells whether a step has pointed somewhere before. -/
def settle (line column : Int) (a : Announcement) : Announcement :=
  if a.report.line.isNone then
    { a with report := { a.report with line := some line, column := some column } }
  else a

def keep (text : String) (a : Announcement) : Announcement :=
  { a with report := { a.report with texts := a.report.texts ++ [text] } }

def send (text : String) (a : Announcement) : Announcement :=
  { a with sent := a.sent ++ [text] }

section Steps

variable {α ε : Type}

def tell (text : String) : EStateM ε Announcement Unit := do
  modify (keep text)
  modify (send text)

/-- Takes a step, as far as it can be taken. -/
def step (format : String → List α → Except ε String) (text : List Char) :
    Step α → EStateM ε Announcement Unit
  | .point offset template arguments => do
    let n ← MonadExcept.ofExcept (Notice.ofTemplate format text offset template arguments)
    modify (settle n.line n.column)
    tell n.toText
  | .note s => tell s

variable (format : String → List α → Except ε String) (text : List Char)

/-- What a step comes to, and what was wrong with it if it failed. -/
def attempt (a : Announcement) (s : Step α) : Announcement × Option ε :=
  match (step format text s).run a with
  | .ok _ a' => (a', none)
  | .error fault a' => (a', some fault)

/-- What each step of a run comes to, whatever became of the steps before. -/
def attempts : Announcement → List (Step α) → List (Announcement × Option ε)
  | _, [] => []
  | a, s :: steps =>
    let result := attempt format text a s
    result :: attempts result.1 steps

end Steps

end Announcement

/-- Announces a failure in its steps, up to the first that fails. -/
def Failure.announce (text : List Char) (f : Failure) :
    EStateM.Result Template.Fault Announcement Unit :=
  (forM f.steps (Announcement.step (Template.fill none) text)).run (.start f.report)

end Stylesheet
