import Stylesheet.Encoding.Decoder

/-!
# UTF-8

A character takes one byte to four. The first byte says how many more follow and what the next
one may be; that is where overlong forms, surrogates and values past the last character are
refused. The fault of a sequence that breaks off spoils the bytes that could still have made a
character.
-/

namespace Stylesheet

namespace Encoding

namespace Utf8

structure Lead where
  /-- The bits of the character in the byte itself. -/
  bits : Nat
  behind : Nat
  /-- The least and the greatest next byte. -/
  least : Nat
  most : Nat

def lead? (b : Nat) : Option Lead :=
  if b < 0x80 then some ⟨b, 0, 0x80, 0xbf⟩
  else if b < 0xc2 then none
  else if b < 0xe0 then some ⟨b - 0xc0, 1, 0x80, 0xbf⟩
  else if b < 0xf0 then
    some ⟨b - 0xe0, 2, if b = 0xe0 then 0xa0 else 0x80, if b = 0xed then 0x9f else 0xbf⟩
  else if b < 0xf5 then
    some ⟨b - 0xf0, 3, if b = 0xf0 then 0x90 else 0x80, if b = 0xf4 then 0x8f else 0xbf⟩
  else none

/-- Takes the remaining bytes of a character of which `taken` bytes are read already. -/
def follow (bits taken least most : Nat) : (behind : Nat) → List UInt8 → Front
  | 0, _ => .char (Char.ofNat bits) (taken - 1)
  | _ + 1, [] => .fault taken .unexpectedEnd
  | behind + 1, b :: rest =>
    if least ≤ b.toNat && b.toNat ≤ most then
      follow (bits * 64 + (b.toNat - 0x80)) (taken + 1) 0x80 0xbf behind rest
    else .fault taken .invalidContinuation

def decoder : Decoder where
  codec := "utf-8"
  front b rest :=
    match lead? b.toNat with
    | none => .fault 1 .invalidStart
    | some l => follow l.bits 1 l.least l.most l.behind rest

def decode (bytes : List UInt8) : Except Fault (List Char) :=
  decoder.decode bytes

def mark : List UInt8 := [0xef, 0xbb, 0xbf]

/-- Drops a mark at the start, after which positions count from zero again. Bytes that only begin
a mark are nothing. -/
def decodeMarked (bytes : List UInt8) : Except Fault (List Char) :=
  if mark.isPrefixOf bytes then decode (bytes.drop mark.length)
  else if bytes.isPrefixOf mark then .ok []
  else decode bytes

def encodeChar (c : Char) : List UInt8 :=
  let n := c.toNat
  let tail (k : Nat) : UInt8 := UInt8.ofNat (0x80 + n / Nat.pow 64 k % 64)
  if n < 0x80 then [UInt8.ofNat n]
  else if n < 0x800 then [UInt8.ofNat (0xc0 + n / 64), tail 0]
  else if n < 0x10000 then [UInt8.ofNat (0xe0 + n / 0x1000), tail 1, tail 0]
  else [UInt8.ofNat (0xf0 + n / 0x40000), tail 2, tail 1, tail 0]

def encode (text : List Char) : List UInt8 :=
  text.flatMap encodeChar

end Utf8

end Encoding

end Stylesheet
