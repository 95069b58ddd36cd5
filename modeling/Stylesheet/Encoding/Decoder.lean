import Stylesheet.Text.Numeral
import Stylesheet.Text.Quoted

/-!
# Decoders

A decoder turns bytes into text one character at a time: it looks at the front of the bytes and
finds a character there or a fault. Decoding stops at the first fault, which is placed by the
position of its first byte and by how many bytes it spoils.
-/

namespace Stylesheet

namespace Encoding

inductive Reason where
  | invalidStart
  | invalidContinuation
  | unexpectedEnd
  | notAscii
  | undefined
  | truncated
  | loneHighSurrogate
  | loneLowSurrogate
  | tooGreat
  | surrogate
deriving DecidableEq

def Reason.text : Reason → String
  | invalidStart => "invalid start byte"
  | invalidContinuation => "invalid continuation byte"
  | unexpectedEnd => "unexpected end of data"
  | notAscii => "ordinal not in range(128)"
  | undefined => "character maps to <undefined>"
  | truncated => "truncated data"
  | loneHighSurrogate => "illegal UTF-16 surrogate"
  | loneLowSurrogate => "illegal encoding"
  | tooGreat => "code point not in range(0x110000)"
  | surrogate => "code point in surrogate code point range(0xd800, 0xe000)"

structure Fault where
  codec : String
  /-- The first byte that is spoilt, and its position. -/
  byte : UInt8
  start : Nat
  count : Nat
  reason : Reason
deriving DecidableEq

/-- A single byte is shown, several are only placed. -/
def Fault.message (f : Fault) : String :=
  let spoilt :=
    if f.count = 1 then
      "byte 0x" ++ String.ofList (Quoted.hexDigits 2 f.byte.toNat) ++ " in position "
        ++ String.ofList (decimal f.start)
    else
      "bytes in position " ++ String.ofList (decimal f.start) ++ "-"
        ++ String.ofList (decimal (f.start + f.count - 1))
  "'" ++ f.codec ++ "' codec can't decode " ++ spoilt ++ ": " ++ f.reason.text

/-- What a decoder finds at the front of some bytes. -/
inductive Front where
  /-- A character that takes so many bytes behind the first. -/
  | char (c : Char) (behind : Nat)
  /-- So many bytes that make no character. -/
  | fault (count : Nat) (reason : Reason)
deriving DecidableEq

structure Decoder where
  codec : String
  /-- What the first byte and those behind it begin with. -/
  front : UInt8 → List UInt8 → Front

/-- Decodes bytes of which the first is at this position. -/
def Decoder.decodeFrom (d : Decoder) (pos : Nat) (bytes : List UInt8) :
    Except Fault (List Char) :=
  match bytes with
  | [] => .ok []
  | b :: rest =>
    match d.front b rest with
    | .fault count reason => .error ⟨d.codec, b, pos, count, reason⟩
    | .char c behind =>
      (d.decodeFrom (pos + behind + 1) (rest.drop behind)).map (c :: ·)
termination_by bytes.length
decreasing_by
  simp only [List.length_drop, List.length_cons]
  omega

def Decoder.decode (d : Decoder) (bytes : List UInt8) : Except Fault (List Char) :=
  d.decodeFrom 0 bytes

end Encoding

end Stylesheet
