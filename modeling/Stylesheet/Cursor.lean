import Stylesheet.Failure
import Stylesheet.Text.Alphabet

/-!
# Cursors

A cursor stands at a position of a text and holds the characters that it meets from there on. A
position past the end is legal and meets nothing. A negative position counts from the end of the
text: from there the cursor meets the end of the text, and then, as its position goes through
zero, the whole text from its start. A position before the start of the text cannot be placed.
-/

namespace Stylesheet

/-- A position before the start of a text, although counted from its end. -/
structure Outside where
  pos : Int
deriving DecidableEq

/-- A position that no index of a machine word can hold is refused in other words. -/
def Outside.message (o : Outside) : String :=
  if o.pos < -0x8000000000000000 then "cannot fit 'int' into an index-sized integer"
  else "string index out of range"

structure Cursor where
  /-- The length of the whole text. -/
  size : Nat
  pos : Int
  /-- The characters met from here on. -/
  ahead : List Char
deriving DecidableEq

namespace Cursor

def start (text : List Char) : Cursor :=
  ⟨text.length, 0, text⟩

def place (text : List Char) (pos : Int) : Except Outside Cursor :=
  if 0 ≤ pos then .ok ⟨text.length, pos, text.drop pos.toNat⟩
  else if 0 ≤ text.length + pos then
    .ok ⟨text.length, pos, text.drop (text.length + pos).toNat ++ text⟩
  else .error ⟨pos⟩

def fail (c : Cursor) (cause : Cause) : Failure :=
  ⟨cause, c.pos, []⟩

def advance (c : Cursor) (n : Nat) : Cursor :=
  { c with pos := c.pos + n, ahead := c.ahead.drop n }

def skipBlanks (c : Cursor) : Cursor :=
  c.advance (c.ahead.takeWhile isBlank).length

/-- The text between this position and the one `n` characters on. Where the cursor goes through
zero, the two positions enclose what lies between them in the text, not what the cursor met: it
is nothing, unless the cursor comes past the place that it started from. -/
def stretch (c : Cursor) (n : Nat) : List Char :=
  c.ahead.take (if c.pos < 0 ∧ 0 ≤ c.pos + n then n - c.size else n)

theorem stretch_aside {c : Cursor} {n : Nat} (h : 0 ≤ c.pos ∨ c.pos + n < 0) :
    c.stretch n = c.ahead.take n := by
  rw [stretch, if_neg (by omega)]

theorem stretch_through {c : Cursor} {n : Nat} (h : c.pos < 0) (h' : 0 ≤ c.pos + n) :
    c.stretch n = c.ahead.take (n - c.size) := by
  rw [stretch, if_pos ⟨h, h'⟩]

/-- Reads as many letters as there are, and at least one. -/
def word (c : Cursor) : Except Failure (String × Cursor) :=
  let n := (c.ahead.takeWhile isLetter).length
  if n = 0 then .error (c.fail .noWord)
  else .ok (String.ofList (c.stretch n), c.advance n)

/-- Reads one character, which has to be all of `expected`. -/
def exactly (expected : String) (c : Cursor) : Except Failure Cursor :=
  if c.ahead.head?.any fun d => [d] = expected.toList then .ok (c.advance 1)
  else .error (c.fail (.missing expected))

/-! ## Progress -/

theorem length_advance (c : Cursor) (n : Nat) :
    (c.advance n).ahead.length = c.ahead.length - n := by
  simp [advance]

theorem length_skipBlanks_le (c : Cursor) : c.skipBlanks.ahead.length ≤ c.ahead.length := by
  rw [skipBlanks, length_advance]
  omega

theorem length_word_lt {c c' : Cursor} {s : String} (h : c.word = .ok (s, c')) :
    c'.ahead.length < c.ahead.length := by
  have hn := (List.takeWhile_prefix (l := c.ahead) isLetter).length_le
  simp only [word] at h
  split at h
  · cases h
  · cases h
    rw [length_advance]
    omega

theorem length_exactly_lt {c c' : Cursor} {s : String} (h : c.exactly s = .ok c') :
    c'.ahead.length < c.ahead.length := by
  simp only [exactly] at h
  split at h
  · rename_i hd
    cases h
    rw [length_advance]
    rcases ha : c.ahead with _ | ⟨d, rest⟩
    · simp [ha] at hd
    · simp
  · cases h

end Cursor

end Stylesheet
