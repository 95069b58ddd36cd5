import Stylesheet.Encoding.Decoder

/-!
# Encodings of one byte to a character
-/

namespace Stylesheet

namespace Encoding

namespace SingleByte

def ascii : Decoder where
  codec := "ascii"
  front b _ := if b < 0x80 then .char (Char.ofNat b.toNat) 0 else .fault 1 .notAscii

/-- Every byte is the character of its own number. -/
def latin1 : Decoder where
  codec := "latin-1"
  front b _ := .char (Char.ofNat b.toNat) 0

def windows1252Upper : List (Option Char) :=
  [some '€', none, some '‚', some 'ƒ', some '„', some '…', some '†', some '‡',
    some 'ˆ', some '‰', some 'Š', some '‹', some 'Œ', none, some 'Ž', none,
    none, some '\u2018', some '\u2019', some '“', some '”', some '•', some '–', some '—',
    some '˜', some '™', some 'š', some '›', some 'œ', none, some 'ž', some 'Ÿ']

/-- As `latin1`, but for the bytes from 0x80 to 0x9f. -/
def windows1252 : Decoder where
  codec := "charmap"
  front b _ :=
    if b < 0x80 || 0xa0 ≤ b then .char (Char.ofNat b.toNat) 0
    else
      match windows1252Upper[b.toNat - 0x80]? with
      | some (some c) => .char c 0
      | _ => .fault 1 .undefined

end SingleByte

end Encoding

end Stylesheet
