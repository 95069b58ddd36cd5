/-!
# Filling

A text is filled up with copies of one character. There may be only so much room for them: then
more copies than that are refused by their number alone, before any is made.
-/

namespace Stylesheet

/-- The most copies that there is room for, if there is a bound. -/
abbrev Room := Option Nat

def Room.holds (room : Room) (n : Nat) : Bool :=
  room.all fun most => n ≤ most

theorem Room.holds_zero (room : Room) : room.holds 0 = true := by
  cases room <;> simp [Room.holds]

/-- So many copies of a character, if there is room for them. -/
def copies? (room : Room) (n : Nat) (c : Char) : Option (List Char) :=
  if room.holds n then some (List.replicate n c) else none

theorem copies?_zero (room : Room) (c : Char) : copies? room 0 c = some [] :=
  if_pos room.holds_zero

end Stylesheet
