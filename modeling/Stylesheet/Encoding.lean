import Stylesheet.Encoding.SingleByte
import Stylesheet.Encoding.Utf8
import Stylesheet.Encoding.Utf32

/-!
# Encodings

The encodings that a file can be read in. Those with units of more than one byte come in both
orders of bytes, and in a form where a mark at the start tells the order and has to be there.
-/

namespace Stylesheet

inductive Encoding where
  | utf8
  /-- UTF-8 with a mark at the start, if there is one. -/
  | utf8Marked
  | ascii
  | latin1
  | windows1252
  | utf16 (order : Encoding.ByteOrder)
  /-- UTF-16 in the order that a mark tells. -/
  | utf16Marked
  | utf32 (order : Encoding.ByteOrder)
  /-- UTF-32 in the order that a mark tells. -/
  | utf32Marked
deriving DecidableEq

namespace Encoding

inductive Undecodable where
  | fault (f : Fault)
  /-- The mark that tells the order of bytes is not there. -/
  | noMark (standard : String)
deriving DecidableEq

def Undecodable.message : Undecodable → String
  | fault f => f.message
  | noMark standard => standard ++ " stream does not start with BOM"

/-- Decodes by a mark at the start, which takes `size` bytes and counts in positions. Bytes
without a mark are first decoded in little order, and found to have none only if that succeeds. -/
def decodeByMark (standard : String) (size : Nat) (order? : List UInt8 → Option ByteOrder)
    (decoder : ByteOrder → Decoder) (bytes : List UInt8) : Except Undecodable (List Char) :=
  match order? bytes with
  | some order => ((decoder order).decodeFrom size (bytes.drop size)).mapError .fault
  | none => do
    let text ← ((decoder .little).decode bytes).mapError .fault
    if bytes.isEmpty then return text else throw (.noMark standard)

def decode (e : Encoding) (bytes : List UInt8) : Except Undecodable (List Char) :=
  match e with
  | utf8 => (Utf8.decode bytes).mapError .fault
  | utf8Marked => (Utf8.decodeMarked bytes).mapError .fault
  | ascii => (SingleByte.ascii.decode bytes).mapError .fault
  | latin1 => (SingleByte.latin1.decode bytes).mapError .fault
  | windows1252 => (SingleByte.windows1252.decode bytes).mapError .fault
  | utf16 order => ((Utf16.decoder order).decode bytes).mapError .fault
  | utf16Marked => decodeByMark "UTF-16" 2 Utf16.markedOrder? Utf16.decoder bytes
  | utf32 order => ((Utf32.decoder order).decode bytes).mapError .fault
  | utf32Marked => decodeByMark "UTF-32" 4 Utf32.markedOrder? Utf32.decoder bytes

end Encoding

end Stylesheet
