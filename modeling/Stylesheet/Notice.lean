import Stylesheet.Text.Filler
import Stylesheet.Text.Location
import Stylesheet.Text.Template

/-!
# Notices

A notice is a message at a place of a text. It is shown with the whole line of that place and a
caret under the column. The place need not be in the line, but its numbers have to be short enough
to be written, and it cannot be so far to the right that no text reaches there.
-/

namespace Stylesheet

structure Notice where
  line : Int
  column : Int
  message : String
  sourceLine : String
deriving DecidableEq

namespace Notice

/-- A column below zero puts the caret under the first character. -/
def toText (n : Notice) : String :=
  "Error at line " ++ String.ofList (decimal n.line) ++ ", column "
    ++ String.ofList (decimal n.column) ++ ". " ++ n.message ++ "\n\n" ++ n.sourceLine ++ "\n"
    ++ String.ofList (List.replicate n.column.toNat ' ') ++ "^ Near here."

inductive Fault where
  /-- The line or the column has too many digits. -/
  | numberTooLong
  /-- The column does not fit a machine word. -/
  | columnOverflow
  | noRoom
deriving DecidableEq

def Fault.message : Fault → String
  | numberTooLong => Template.Fault.numberTooLong.message
  | columnOverflow => "cannot fit 'int' into an index-sized integer"
  | noRoom => ""

/-- Shows a notice at any column at all. -/
def display (room : Room) (n : Notice) : Except Fault String :=
  if isTooLong n.line || isTooLong n.column then .error .numberTooLong
  else if n.column < -0x8000000000000000 || 0x8000000000000000 ≤ n.column then
    .error .columnOverflow
  else if !room.holds n.column.toNat then .error .noRoom
  else .ok n.toText

def point (text : List Char) (offset : Int) (message : String) : Notice :=
  let place := Location.ofOffset text offset
  ⟨place.line, place.column, message, String.ofList (lineAt text offset)⟩

/-- A notice whose message is a template for the arguments, filled by `format`. A template without
arguments is taken as it is, whatever directives it holds. -/
def ofTemplate {α ε : Type} (format : String → List α → Except ε String) (text : List Char)
    (offset : Int) (template : String) (arguments : List α) : Except ε Notice :=
  if arguments.isEmpty then .ok (point text offset template)
  else (format template arguments).map (point text offset)

/-- A template decides about the message only. -/
theorem eq_point_of_ofTemplate {α ε : Type} {format : String → List α → Except ε String}
    {text : List Char} {offset : Int} {template : String} {arguments : List α} {n : Notice}
    (h : ofTemplate format text offset template arguments = .ok n) :
    n = point text offset n.message := by
  unfold ofTemplate at h
  split at h
  · cases h
    rfl
  · rcases hf : format template arguments with fault | message <;> rw [hf] at h <;> cases h
    rfl

end Notice

end Stylesheet
