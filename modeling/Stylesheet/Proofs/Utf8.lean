import Stylesheet.Encoding.Utf8

/-!
# UTF-8 there and back

What UTF-8 makes of a text is decoded as that text, whatever characters it holds. The first byte of
a character tells how many follow, and each of these gives back the six bits that were put into it.
The bounds on the second byte leave room for all that is encoded: a character is no surrogate, and
it is given no more bytes than it needs (`lead?_three`, `lead?_four`).
-/

namespace Stylesheet

namespace Encoding

namespace Utf8

variable {n : Nat}

/-! ## One character -/

theorem front_of_lead {x bits behind least most : Nat} (hx : x < 256)
    (h : lead? x = some ⟨bits, behind, least, most⟩) (rest : List UInt8) :
    decoder.front (UInt8.ofNat x) rest = follow bits 1 least most behind rest := by
  have hb : (UInt8.ofNat x).toNat = x := UInt8.toNat_ofNat_of_lt' hx
  simp only [decoder, hb, h]

/-- A byte behind the first gives six more bits. -/
theorem follow_tail {bits taken least most behind x : Nat} (hx : x < 64) (h : least ≤ 0x80 + x)
    (h' : 0x80 + x ≤ most) (rest : List UInt8) :
    follow bits taken least most (behind + 1) (UInt8.ofNat (0x80 + x) :: rest)
      = follow (bits * 64 + x) (taken + 1) 0x80 0xbf behind rest := by
  have hb : (UInt8.ofNat (0x80 + x)).toNat = 0x80 + x :=
    UInt8.toNat_ofNat_of_lt' (show 0x80 + x < 256 by omega)
  simp only [follow, hb, h, h', decide_true, Bool.and_self, if_true, Nat.add_sub_cancel_left]

theorem follow_last {bits taken least most x : Nat} (hx : x < 64) (h : least ≤ 0x80 + x)
    (h' : 0x80 + x ≤ most) (rest : List UInt8) :
    follow bits taken least most 1 (UInt8.ofNat (0x80 + x) :: rest)
      = .char (Char.ofNat (bits * 64 + x)) taken :=
  follow_tail hx h h' rest

theorem lead?_two (h : 0x80 ≤ n) (h' : n < 0x800) :
    lead? (0xc0 + n / 64) = some ⟨n / 64, 1, 0x80, 0xbf⟩ := by
  rw [lead?, if_neg (by omega), if_neg (by omega), if_pos (by omega), Nat.add_sub_cancel_left]

theorem lead?_three (h : 0x800 ≤ n) (h' : n < 0x10000) (hv : n.isValidChar) :
    ∃ least most, lead? (0xe0 + n / 0x1000) = some ⟨n / 0x1000, 2, least, most⟩
      ∧ least ≤ 0x80 + n / 64 % 64 ∧ 0x80 + n / 64 % 64 ≤ most := by
  have hl : lead? (0xe0 + n / 0x1000) = some ⟨n / 0x1000, 2,
      if 0xe0 + n / 0x1000 = 0xe0 then 0xa0 else 0x80,
      if 0xe0 + n / 0x1000 = 0xed then 0x9f else 0xbf⟩ := by
    rw [lead?, if_neg (by omega), if_neg (by omega), if_neg (by omega), if_pos (by omega),
      Nat.add_sub_cancel_left]
  refine ⟨_, _, hl, ?_, ?_⟩
  · split <;> omega
  · rcases hv with hv | ⟨hv, -⟩ <;> split <;> omega

theorem lead?_four (h : 0x10000 ≤ n) (h' : n < 0x110000) :
    ∃ least most, lead? (0xf0 + n / 0x40000) = some ⟨n / 0x40000, 3, least, most⟩
      ∧ least ≤ 0x80 + n / 0x1000 % 64 ∧ 0x80 + n / 0x1000 % 64 ≤ most := by
  have hl : lead? (0xf0 + n / 0x40000) = some ⟨n / 0x40000, 3,
      if 0xf0 + n / 0x40000 = 0xf0 then 0x90 else 0x80,
      if 0xf0 + n / 0x40000 = 0xf4 then 0x8f else 0xbf⟩ := by
    rw [lead?, if_neg (by omega), if_neg (by omega), if_neg (by omega), if_neg (by omega),
      if_pos (by omega), Nat.add_sub_cancel_left]
  refine ⟨_, _, hl, ?_, ?_⟩
  · split <;> omega
  · split <;> omega

theorem front_one (h : n < 0x80) (rest : List UInt8) :
    decoder.front (UInt8.ofNat n) rest = .char (Char.ofNat n) 0 := by
  rw [front_of_lead (by omega) (if_pos h)]
  rfl

theorem front_two (h : 0x80 ≤ n) (h' : n < 0x800) (rest : List UInt8) :
    decoder.front (UInt8.ofNat (0xc0 + n / 64)) (UInt8.ofNat (0x80 + n % 64) :: rest)
      = .char (Char.ofNat n) 1 := by
  have hn : n / 64 * 64 + n % 64 = n := by omega
  rw [front_of_lead (by omega) (lead?_two h h'), follow_last (by omega) (by omega) (by omega), hn]

theorem front_three (h : 0x800 ≤ n) (h' : n < 0x10000) (hv : n.isValidChar) (rest : List UInt8) :
    decoder.front (UInt8.ofNat (0xe0 + n / 0x1000))
        (UInt8.ofNat (0x80 + n / 64 % 64) :: UInt8.ofNat (0x80 + n % 64) :: rest)
      = .char (Char.ofNat n) 2 := by
  obtain ⟨least, most, hl, hleast, hmost⟩ := lead?_three h h' hv
  have hn : (n / 0x1000 * 64 + n / 64 % 64) * 64 + n % 64 = n := by omega
  rw [front_of_lead (by omega) hl, follow_tail (by omega) hleast hmost,
    follow_last (by omega) (by omega) (by omega), hn]

theorem front_four (h : 0x10000 ≤ n) (h' : n < 0x110000) (rest : List UInt8) :
    decoder.front (UInt8.ofNat (0xf0 + n / 0x40000)) (UInt8.ofNat (0x80 + n / 0x1000 % 64)
        :: UInt8.ofNat (0x80 + n / 64 % 64) :: UInt8.ofNat (0x80 + n % 64) :: rest)
      = .char (Char.ofNat n) 3 := by
  obtain ⟨least, most, hl, hleast, hmost⟩ := lead?_four h h'
  have hn : ((n / 0x40000 * 64 + n / 0x1000 % 64) * 64 + n / 64 % 64) * 64 + n % 64 = n := by
    omega
  rw [front_of_lead (by omega) hl, follow_tail (by omega) hleast hmost,
    follow_tail (by omega) (by omega) (by omega), follow_last (by omega) (by omega) (by omega), hn]

theorem encodeChar_eq (c : Char) : encodeChar c =
    if c.toNat < 0x80 then [UInt8.ofNat c.toNat]
    else if c.toNat < 0x800 then
      [UInt8.ofNat (0xc0 + c.toNat / 64), UInt8.ofNat (0x80 + c.toNat % 64)]
    else if c.toNat < 0x10000 then
      [UInt8.ofNat (0xe0 + c.toNat / 0x1000), UInt8.ofNat (0x80 + c.toNat / 64 % 64),
        UInt8.ofNat (0x80 + c.toNat % 64)]
    else
      [UInt8.ofNat (0xf0 + c.toNat / 0x40000), UInt8.ofNat (0x80 + c.toNat / 0x1000 % 64),
        UInt8.ofNat (0x80 + c.toNat / 64 % 64), UInt8.ofNat (0x80 + c.toNat % 64)] := by
  have h₀ : c.toNat / Nat.pow 64 0 = c.toNat := Nat.div_one _
  have h₁ : Nat.pow 64 1 = 64 := rfl
  have h₂ : Nat.pow 64 2 = 0x1000 := rfl
  simp only [encodeChar, h₀, h₁, h₂]

theorem front_encodeChar (c : Char) : ∃ b behind, encodeChar c = b :: behind ∧
    ∀ rest, decoder.front b (behind ++ rest) = .char c behind.length := by
  have hv : c.toNat.isValidChar := c.valid
  have hc : Char.ofNat c.toNat = c := Char.ofNat_toNat c
  rw [encodeChar_eq]
  generalize c.toNat = n at *
  subst hc
  by_cases h₁ : n < 0x80
  · exact ⟨_, _, if_pos h₁, fun rest => front_one h₁ rest⟩
  rw [if_neg h₁]
  by_cases h₂ : n < 0x800
  · exact ⟨_, _, if_pos h₂, fun rest => front_two (by omega) h₂ rest⟩
  rw [if_neg h₂]
  by_cases h₃ : n < 0x10000
  · exact ⟨_, _, if_pos h₃, fun rest => front_three (by omega) h₃ hv rest⟩
  · have hn : n < 0x110000 := by
      rcases hv with hv | ⟨-, hv⟩ <;> omega
    exact ⟨_, _, if_neg h₃, fun rest => front_four (by omega) hn rest⟩

/-! ## Texts -/

theorem decodeFrom_encode (text : List Char) (pos : Nat) :
    decoder.decodeFrom pos (encode text) = .ok text := by
  induction text generalizing pos with
  | nil => rw [encode, List.flatMap_nil, Decoder.decodeFrom]
  | cons c text ih =>
    obtain ⟨b, behind, hc, hfront⟩ := front_encodeChar c
    have htext : encode (c :: text) = b :: (behind ++ encode text) := by
      rw [encode, List.flatMap_cons, hc]
      rfl
    rw [htext, Decoder.decodeFrom, hfront]
    dsimp only
    rw [List.drop_left, ih]
    rfl

theorem decode_encode (text : List Char) : decode (encode text) = .ok text :=
  decodeFrom_encode text 0

end Utf8

end Encoding

end Stylesheet
