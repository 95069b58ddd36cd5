import Stylesheet.Text.Printable

/-!
# Quoted text

A text is quoted between two single quotes, or between two double quotes if it holds a single
quote and no double one. The quote in use and the backslash are written after a backslash, the
common control characters as letters after one, and every other character that is not shown as
itself by its code point, in two, four or eight hexadecimal digits.
-/

namespace Stylesheet

namespace Quoted

def quoteFor (s : List Char) : Char :=
  if s.contains '\x27' && !s.contains '"' then '"' else '\x27'

/-- The last `width` hexadecimal digits of a number. -/
def hexDigits : (width n : Nat) → List Char
  | 0, _ => []
  | width + 1, n => hexDigits width (n / 16) ++ [Nat.digitChar (n % 16)]

def codePoint (c : Char) : List Char :=
  if c.toNat < 0x100 then '\\' :: 'x' :: hexDigits 2 c.toNat
  else if c.toNat < 0x10000 then '\\' :: 'u' :: hexDigits 4 c.toNat
  else '\\' :: 'U' :: hexDigits 8 c.toNat

/-- One character between the quotes; `shown` says which characters stand for themselves. -/
def escape (shown : Char → Bool) (quote c : Char) : List Char :=
  if c = quote || c = '\\' then ['\\', c]
  else if c = '\n' then ['\\', 'n']
  else if c = '\r' then ['\\', 'r']
  else if c = '\t' then ['\\', 't']
  else if shown c then [c]
  else codePoint c

def encode (shown : Char → Bool) (s : List Char) : List Char :=
  quoteFor s :: s.flatMap (escape shown (quoteFor s)) ++ [quoteFor s]

end Quoted

/-- A text in quotes, with every printable character as itself. -/
def quoted (s : List Char) : List Char :=
  Quoted.encode isPrintable s

/-- A text in quotes, in printable ASCII only. -/
def quotedAscii (s : List Char) : List Char :=
  Quoted.encode isPrintableAscii s

end Stylesheet
