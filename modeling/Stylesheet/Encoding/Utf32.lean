import Stylesheet.Encoding.Utf16

/-!
# UTF-32

A character takes four bytes, which hold its code point.
-/

namespace Stylesheet

namespace Encoding

namespace Utf32

def front (order : ByteOrder) (b : UInt8) : List UInt8 → Front
  | b₁ :: b₂ :: b₃ :: _ =>
    let n := order.value [b, b₁, b₂, b₃]
    if 0xd800 ≤ n && n < 0xe000 then .fault 4 .surrogate
    else if 0x110000 ≤ n then .fault 4 .tooGreat
    else .char (Char.ofNat n) 3
  | rest => .fault (1 + rest.length) .truncated

def decoder : ByteOrder → Decoder
  | .little => ⟨"utf-32-le", front .little⟩
  | .big => ⟨"utf-32-be", front .big⟩

def markedOrder? : List UInt8 → Option ByteOrder
  | 0xff :: 0xfe :: 0 :: 0 :: _ => some .little
  | 0 :: 0 :: 0xfe :: 0xff :: _ => some .big
  | _ => none

end Utf32

end Encoding

end Stylesheet
