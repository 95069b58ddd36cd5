import Stylesheet.Encoding.Decoder

/-!
# UTF-16

A character takes a unit of two bytes or, past the first 65536 characters, a high surrogate and a
low one. The order of the bytes in a unit is given, or told by a mark at the start.
-/

namespace Stylesheet

namespace Encoding

inductive ByteOrder where
  | little
  | big
deriving DecidableEq

def ByteOrder.value : ByteOrder → List UInt8 → Nat
  | little, bytes => bytes.foldr (fun b n => n * 256 + b.toNat) 0
  | big, bytes => bytes.foldl (fun n b => n * 256 + b.toNat) 0

namespace Utf16

def isHigh (n : Nat) : Bool := 0xd800 ≤ n && n < 0xdc00

def isLow (n : Nat) : Bool := 0xdc00 ≤ n && n < 0xe000

def pair (high low : Nat) : Char :=
  Char.ofNat (0x10000 + (high - 0xd800) * 0x400 + (low - 0xdc00))

/-- A high surrogate at the end spoils what is left. -/
def front (order : ByteOrder) (b : UInt8) : List UInt8 → Front
  | [] => .fault 1 .truncated
  | b' :: rest =>
    let n := order.value [b, b']
    if isLow n then .fault 2 .loneLowSurrogate
    else if isHigh n then
      match rest with
      | c :: c' :: _ =>
        let n' := order.value [c, c']
        if isLow n' then .char (pair n n') 3 else .fault 2 .loneHighSurrogate
      | rest => .fault (2 + rest.length) .unexpectedEnd
    else .char (Char.ofNat n) 1

def decoder : ByteOrder → Decoder
  | .little => ⟨"utf-16-le", front .little⟩
  | .big => ⟨"utf-16-be", front .big⟩

def markedOrder? : List UInt8 → Option ByteOrder
  | 0xff :: 0xfe :: _ => some .little
  | 0xfe :: 0xff :: _ => some .big
  | _ => none

end Utf16

end Encoding

end Stylesheet
