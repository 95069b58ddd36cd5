import Stylesheet.Reading
import Stylesheet.Report

/-!
# Parsing

The entry points of the library. Each places a cursor, reads, and announces the failure if there
is one. A run over a whole text also tells what it did on the way: the rules that it completed,
the texts that it sent, and at the end the sheet.
-/

namespace Stylesheet

inductive Trouble where
  /-- The start is before the text. -/
  | outside (o : Outside)
  /-- The text is wrong, and this was said about it. -/
  | failed (a : Announcement)
  /-- The message of a failure could not be made. -/
  | template (fault : Template.Fault)

namespace Trouble

def sent : Trouble → List String
  | failed a => a.sent
  | _ => []

def ofFailure (text : List Char) (f : Failure) : Trouble :=
  match f.announce text with
  | .ok _ a => .failed a
  | .error fault _ => .template fault

end Trouble

def parseAt {α : Type} (text : List Char) (start : Int) (read : Cursor → Except Failure α) :
    Except Trouble α := do
  let c ← (Cursor.place text start).mapError .outside
  (read c).mapError (.ofFailure text)

def Declaration.parseAt (text : List Char) (start : Int) :
    Except Trouble (Declaration × Cursor) :=
  Stylesheet.parseAt text start Declaration.read

def Rule.parseAt (text : List Char) (start : Int) : Except Trouble (Rule × Cursor) :=
  Stylesheet.parseAt text start Rule.read

def Sheet.parse (text : List Char) : Except Trouble Sheet :=
  (Sheet.read text).mapError (.ofFailure text)

def sentOn {α : Type} : Except Trouble α → List String
  | .ok _ => []
  | .error t => t.sent

/-! ## Runs -/

/-- What a run over a text does that can be seen from outside. -/
inductive Event where
  | rule (r : Rule)
  | sheet (s : Sheet)
  | sent (text : String)
deriving DecidableEq

structure Run where
  outcome : Except Trouble Sheet
  events : List Event

def Run.sent (r : Run) : List String :=
  r.events.filterMap fun
    | .sent text => some text
    | _ => none

/-- Reads a whole text, and tells what happened on the way. -/
def Sheet.run (text : List Char) : Run :=
  match Rule.readAll (.start text) with
  | (rules, none) => ⟨.ok ⟨rules⟩, rules.map .rule ++ [.sheet ⟨rules⟩]⟩
  | (rules, some f) =>
    let trouble := Trouble.ofFailure text f
    ⟨.error trouble, rules.map .rule ++ trouble.sent.map .sent⟩

theorem Sheet.outcome_run (text : List Char) : (Sheet.run text).outcome = Sheet.parse text := by
  unfold Sheet.run Sheet.parse Sheet.read
  rcases Rule.readAll (.start text) with ⟨rules, _ | f⟩ <;> rfl

theorem Sheet.sent_run (text : List Char) :
    (Sheet.run text).sent = sentOn (Sheet.parse text) := by
  unfold Sheet.run Sheet.parse Sheet.read
  rcases Rule.readAll (.start text) with ⟨rules, _ | f⟩
  · simp [Run.sent, mapError_ok, sentOn]
  · rw [mapError_error, sentOn, Run.sent, List.filterMap_append, List.filterMap_map,
      List.filterMap_map]
    change rules.filterMap (fun _ => none) ++ (Trouble.ofFailure text f).sent.filterMap some = _
    rw [List.filterMap_some, List.filterMap_eq_nil_iff.2 fun _ _ => rfl, List.nil_append]

end Stylesheet
