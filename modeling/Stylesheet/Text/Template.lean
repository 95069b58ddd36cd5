import Stylesheet.Text.Numeral
import Stylesheet.Text.Quoted
import Stylesheet.Text.RealNumeral

/-!
# Message templates

A template is text with directives, each of which takes the next argument and shows it in its
place. A directive is a percent sign, flags, a least width, a point and a precision, a size
letter that means nothing, and the letter of the conversion; all but the first and the last may
be left out, and a star for the width or the precision takes that count from the arguments too. Two
percent signs stand for one. Every argument has to be used. What is wrong with a template is found
from left to right, the conversion of a directive only after its argument, and that there is no
room for what a directive shows only after all else that is wrong with it.

An argument is a text, an integer or one of the two truth values, which count as the integers one
and zero unless they are shown in words. An integer beyond the limit to numerals cannot be shown in
decimal digits, but in other bases it can.
-/

namespace Stylesheet

namespace Template

inductive Argument where
  | text (s : String)
  | number (n : Int)
  | truth (b : Bool)
deriving DecidableEq

inductive Fault where
  | tooFewArguments
  | tooManyArguments
  /-- A directive asks for an argument by name. -/
  | namedArgument
  /-- The template ends inside a directive. -/
  | unfinished
  | unknownConversion (letter : Char) (index : Nat)
  /-- A decimal conversion was given a text. -/
  | notNumber (letter : Char)
  /-- A conversion in another base was given a text. -/
  | notInteger (letter : Char)
  /-- A conversion to a real number was given a text. -/
  | notReal
  /-- There is no real number as great as the argument. -/
  | tooGreat
  | notCharacter
  | characterOutOfRange
  | countNotNumber
  | widthTooBig
  | precisionTooBig
  /-- A width among the arguments does not fit a machine word. -/
  | widthOverflow
  /-- A precision among the arguments does not fit half a machine word. -/
  | precisionOverflow
  /-- The precision is fit for a text but not for an integer. -/
  | tooManyDigits
  /-- The decimal digits of an integer are beyond the limit. -/
  | numberTooLong
  | noRoom
deriving DecidableEq

structure Layout where
  leftAligned : Bool
  zeroFilled : Bool
  signed : Bool
  spaced : Bool
  marked : Bool
  width : Nat
  precision : Option Nat

def mostDigits : Nat := 0x7ffffffc

/-- What was written, if there was room for it. -/
def orNoRoom : Option (List Char) → Except Fault (List Char)
  | some cs => .ok cs
  | none => .error .noRoom

section Filling

variable (room : Room)

def filler (n : Nat) (c : Char) : Except Fault (List Char) :=
  orNoRoom (copies? room n c)

namespace Layout

def pad (l : Layout) (s : List Char) : Except Fault (List Char) := do
  let spaces ← filler room (l.width - s.length) ' '
  return if l.leftAligned then s ++ spaces else spaces ++ s

theorem pad_of_width_le {l : Layout} {s : List Char} (h : l.width ≤ s.length) :
    l.pad room s = .ok s := by
  have hc : filler room (l.width - s.length) ' ' = .ok [] := by
    rw [Nat.sub_eq_zero_of_le h, filler, copies?_zero]
    rfl
  rw [pad, hc]
  cases hl : l.leftAligned <;> simp [bind, Except.bind, pure, Except.pure]

/-- A text is cut to the precision. -/
def text (l : Layout) (s : List Char) : Except Fault (List Char) :=
  l.pad room (match l.precision with
    | none => s
    | some n => s.take n)

def sign (l : Layout) (n : Int) : List Char :=
  if n < 0 then ['-'] else if l.signed then ['+'] else if l.spaced then [' '] else []

/-- A number, with a marker in front of its digits. Zeros that fill up to the width go after the
sign and the marker. -/
def number (l : Layout) (n : Int) (marker digits : List Char) : Except Fault (List Char) := do
  let front := l.sign n ++ marker
  if l.zeroFilled && !l.leftAligned then
    return front ++ (← filler room (l.width - (front.length + digits.length)) '0') ++ digits
  else l.pad room (front ++ digits)

/-- An integer has at least as many digits as the precision says. -/
def integer (l : Layout) (n : Int) (marker : List Char) (digits : Except Fault (List Char)) :
    Except Fault (List Char) := do
  let precision := l.precision.getD 0
  if mostDigits < precision then throw .tooManyDigits
  let digits ← digits
  let zeros ← filler room (precision - digits.length) '0'
  l.number room n (if l.marked then marker else []) (zeros ++ digits)

end Layout

end Filling

namespace Argument

/-- The integer that an argument counts as. -/
def number? : Argument → Option Int
  | text _ => none
  | number n => some n
  | truth b => some b.toInt

def plain : Argument → Except Fault (List Char)
  | text s => .ok s.toList
  | number n => if isTooLong n then .error .numberTooLong else .ok (decimal n)
  | truth b => .ok (if b then "True" else "False").toList

/-- The argument as it would be written in a program: a text in quotes, by `quote`. -/
def written (quote : List Char → List Char) : Argument → Except Fault (List Char)
  | text s => .ok (quote s.toList)
  | a => a.plain

end Argument

/-- The character at a code point. That of a surrogate stands for the null character. -/
def characterAt (n : Int) : Except Fault Char :=
  if n < 0 || 0x110000 ≤ n then .error .characterOutOfRange else .ok (Char.ofNat n.toNat)

/-- The argument as one character, by its code point or as itself. -/
def Argument.character : Argument → Except Fault Char
  | text s =>
    match s.toList with
    | [c] => .ok c
    | _ => .error .notCharacter
  | number n => characterAt n
  | truth b => characterAt b.toInt

/-- The digits of a number; those in base ten can be too many. -/
def digitsIn (base : Nat) (n : Int) : Except Fault (List Char) :=
  if base = 10 && isTooLong n then .error .numberTooLong else .ok (Nat.toDigits base n.natAbs)

section Converting

variable (room : Room)

def convertInteger (l : Layout) (base : Nat) (marker : List Char) (upper : Bool) (fault : Fault)
    (a : Argument) : Except Fault (List Char) :=
  match a.number? with
  | none => .error fault
  | some n =>
    let digits := digitsIn base n
    l.integer room n marker (if upper then digits.map (·.map Char.toUpper) else digits)

def convertReal (l : Layout) (write : Nat → Option (List Char)) (a : Argument) :
    Except Fault (List Char) :=
  match a.number? with
  | none => .error .notReal
  | some n =>
    match RealNumeral.nearest? n.natAbs with
    | none => .error .tooGreat
    | some r => do l.number room n [] (← orNoRoom (write r))

/-- How many digits stand with an exponent for so many places. The greatest half of a machine word
has none above it and leaves no places. -/
def scientificDigits (places : Nat) : Nat :=
  if places = 0x7fffffff then 1 else places + 1

/-- Shows one argument by the conversion letter, which is found at this index of the template. -/
def convert (l : Layout) (letter : Char) (index : Nat) (a : Argument) :
    Except Fault (List Char) :=
  let places := l.precision.getD 6
  let scientific (e : Char) := RealNumeral.scientific room e l.marked (scientificDigits places)
  let shorter (e : Char) := RealNumeral.shorter room e l.marked (max places 1)
  match letter with
  | 's' => do l.text room (← a.plain)
  | 'r' => do l.text room (← a.written quoted)
  | 'a' => do l.text room (← a.written quotedAscii)
  | 'd' | 'i' | 'u' => convertInteger room l 10 [] false (.notNumber letter) a
  | 'o' => convertInteger room l 8 ['0', 'o'] false (.notInteger letter) a
  | 'x' => convertInteger room l 16 ['0', 'x'] false (.notInteger letter) a
  | 'X' => convertInteger room l 16 ['0', 'X'] true (.notInteger letter) a
  | 'f' | 'F' => convertReal room l (RealNumeral.fixed room l.marked places) a
  | 'e' => convertReal room l (scientific 'e') a
  | 'E' => convertReal room l (scientific 'E') a
  | 'g' => convertReal room l (shorter 'e') a
  | 'G' => convertReal room l (shorter 'E') a
  | 'c' => do l.pad room [← a.character]
  | _ => .error (.unknownConversion letter index)

end Converting

/-! ## Reading a directive -/

/-- The greatest value that a count may have, and what is wrong with a greater one that is written
out or given as an argument. -/
structure Bound where
  most : Int
  written : Fault
  given : Fault

def widthBound : Bound := ⟨0x7fffffffffffffff, .widthTooBig, .widthOverflow⟩

def precisionBound : Bound := ⟨0x7fffffff, .precisionTooBig, .precisionOverflow⟩

/-- Reads a count: a star for the next argument, or digits, which may be none at all. -/
def readCount (b : Bound) (cs : List Char) (arguments : List Argument) :
    Except Fault (Int × List Char × List Argument) :=
  match cs, arguments with
  | '*' :: _, [] => .error .tooFewArguments
  | '*' :: rest, a :: arguments =>
    match a.number? with
    | none => .error .countNotNumber
    | some n =>
      if -b.most - 1 ≤ n ∧ n ≤ b.most then .ok (n, rest, arguments) else .error b.given
  | cs, arguments =>
    let n : Nat := (cs.takeWhile Char.isDigit).foldl (fun n c => 10 * n + (c.toNat - 48)) 0
    if n ≤ b.most then .ok (n, cs.dropWhile Char.isDigit, arguments) else .error b.written

/-- Reads the precision behind a point, if there is one. A negative precision counts as zero. -/
def readPrecision (cs : List Char) (arguments : List Argument) :
    Except Fault (Option Nat × List Char × List Argument) :=
  match cs with
  | '.' :: rest => do
    let (n, rest, arguments) ← readCount precisionBound rest arguments
    return (some n.toNat, rest, arguments)
  | _ => .ok (none, cs, arguments)

/-- The width that a count asks for, whatever its sign. The least machine word has no opposite
among them and asks for nothing. -/
def widthOf (n : Int) : Nat :=
  if n = -0x8000000000000000 then 0 else n.natAbs

/-- Reads a directive behind its percent sign, up to the letter of the conversion. A negative
width is the width of a layout to the left. -/
def readLayout (cs : List Char) (arguments : List Argument) :
    Except Fault (Layout × List Char × List Argument) := do
  if cs.head? = some '(' then throw .namedArgument
  let isFlag (c : Char) : Bool := ['-', '0', '+', ' ', '#'].contains c
  let flags := cs.takeWhile isFlag
  let (width, cs, arguments) ← readCount widthBound (cs.dropWhile isFlag) arguments
  let (precision, cs, arguments) ← readPrecision cs arguments
  let isSize (c : Char) : Bool := ['h', 'l', 'L'].contains c
  let layout := {
    leftAligned := flags.contains '-' || width < 0
    zeroFilled := flags.contains '0'
    signed := flags.contains '+'
    spaced := flags.contains ' '
    marked := flags.contains '#'
    width := widthOf width
    precision }
  return (layout, if cs.head?.any isSize then cs.tail else cs, arguments)

theorem length_readCount_le {b : Bound} {cs rest : List Char} {as as' : List Argument} {n : Int}
    (h : readCount b cs as = .ok (n, rest, as')) : rest.length ≤ cs.length := by
  unfold readCount at h
  split at h
  · cases h
  · split at h
    · cases h
    · split at h <;> cases h
      simp
  · simp only at h
    split at h <;> cases h
    exact (List.dropWhile_suffix _).length_le

theorem length_readPrecision_le {cs rest : List Char} {as as' : List Argument} {p : Option Nat}
    (h : readPrecision cs as = .ok (p, rest, as')) : rest.length ≤ cs.length := by
  unfold readPrecision at h
  split at h
  · rename_i cs'
    rcases hc : readCount precisionBound cs' as with f | ⟨n, rest', as''⟩ <;>
      rw [hc] at h <;> cases h
    have := length_readCount_le hc
    simp only [List.length_cons]
    omega
  · cases h
    exact Nat.le_refl _

theorem length_readLayout_le {cs rest : List Char} {as as' : List Argument} {l : Layout}
    (h : readLayout cs as = .ok (l, rest, as')) : rest.length ≤ cs.length := by
  simp only [readLayout, bind, Except.bind] at h
  split at h
  · cases h
  split at h <;> try cases h
  rename_i p hp
  obtain ⟨width, cs₁, as₁⟩ := p
  have h₁ := length_readCount_le hp
  simp only at h
  split at h <;> cases h
  rename_i q hq
  have h₂ := length_readPrecision_le hq
  have h₃ := (List.dropWhile_suffix (l := cs) (['-', '0', '+', ' ', '#'].contains ·)).length_le
  split
  · simp only [List.length_tail]
    omega
  · omega

/-! ## Filling a template -/

variable (room : Room)

/-- Fills what is left of a template of this size. -/
def fillFrom (size : Nat) (cs : List Char) (arguments : List Argument) :
    Except Fault (List Char) :=
  match cs with
  | [] => if arguments.isEmpty then .ok [] else .error .tooManyArguments
  | '%' :: '%' :: rest => (fillFrom size rest arguments).map ('%' :: ·)
  | '%' :: rest =>
    match _h : readLayout rest arguments with
    | .error fault => .error fault
    | .ok (_, [], _) => .error .unfinished
    | .ok (_, _ :: _, []) => .error .tooFewArguments
    | .ok (layout, letter :: rest', a :: arguments') =>
      match convert room layout letter (size - (rest'.length + 1)) a with
      | .error fault => .error fault
      | .ok shown => (fillFrom size rest' arguments').map (shown ++ ·)
  | c :: rest => (fillFrom size rest arguments).map (c :: ·)
termination_by cs.length
decreasing_by
  · simp only [List.length_cons]
    omega
  · have := length_readLayout_le _h
    simp only [List.length_cons] at this ⊢
    omega
  · simp only [List.length_cons]
    omega

def fill (template : String) (arguments : List Argument) : Except Fault String :=
  (fillFrom room template.toList.length template.toList arguments).map String.ofList

/-! ## What is said of a fault -/

/-- A character as a message about it can show it. -/
def shownInMessage (c : Char) : Char :=
  if 31 ≤ c.toNat && c.toNat ≤ 126 then c else '?'

def Fault.message : Fault → String
  | tooFewArguments => "not enough arguments for format string"
  | tooManyArguments => "not all arguments converted during string formatting"
  | namedArgument => "format requires a mapping"
  | unfinished => "incomplete format"
  | unknownConversion letter index =>
    "unsupported format character '" ++ String.singleton (shownInMessage letter) ++ "' (0x"
      ++ String.ofList (Nat.toDigits 16 letter.toNat) ++ ") at index "
      ++ String.ofList (decimal index)
  | notNumber letter =>
    "%" ++ String.singleton letter ++ " format: a real number is required, not str"
  | notInteger letter =>
    "%" ++ String.singleton letter ++ " format: an integer is required, not str"
  | notReal => "must be real number, not str"
  | tooGreat => "int too large to convert to float"
  | notCharacter => "%c requires int or char"
  | characterOutOfRange => "%c arg not in range(0x110000)"
  | countNotNumber => "* wants int"
  | widthTooBig => "width too big"
  | precisionTooBig => "precision too big"
  | widthOverflow => "Python int too large to convert to C ssize_t"
  | precisionOverflow => "Python int too large to convert to C int"
  | tooManyDigits => "precision too large"
  | numberTooLong =>
    "Exceeds the limit (4300 digits) for integer string conversion; "
      ++ "use sys.set_int_max_str_digits() to increase the limit"
  | noRoom => ""

end Template

end Stylesheet
