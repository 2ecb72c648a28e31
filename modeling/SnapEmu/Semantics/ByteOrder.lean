import Mathlib.Data.Nat.Digits.Defs

/-! Fixed-width bytes of natural numbers, little-endian, and big-endian as the
same bytes in reverse order. -/
namespace Semantics.LittleEndian

/-- The `width` low bytes of a number, least significant first. -/
def encode : Nat → Nat → List UInt8
  | 0, _ => []
  | width + 1, n => UInt8.ofNat n :: encode width (n / 256)

/-- The number written by a list of bytes, least significant first. -/
def value (bytes : List UInt8) : Nat := Nat.ofDigits 256 (bytes.map UInt8.toNat)

@[simp] theorem value_nil : value [] = 0 := rfl

@[simp] theorem value_cons (byte : UInt8) (rest : List UInt8) :
    value (byte :: rest) = byte.toNat + 256 * value rest := by
  simp [value, Nat.ofDigits_cons]

@[simp] theorem encode_length (width n : Nat) : (encode width n).length = width := by
  induction width generalizing n with
  | zero => rfl
  | succ width ih => simp [encode, ih]

@[simp] theorem value_encode {width n : Nat} (h : n < 256 ^ width) :
    value (encode width n) = n := by
  induction width generalizing n with
  | zero =>
      have hZero : n = 0 := by simpa using h
      simp [encode, hZero]
  | succ width ih =>
      have hDiv : n / 256 < 256 ^ width := by
        apply Nat.div_lt_of_lt_mul
        rw [Nat.pow_succ] at h
        omega
      simp only [encode, value_cons, ih hDiv, UInt8.toNat_ofNat']
      omega

/-- A number of some bytes is below the power of 256 with that exponent. -/
theorem value_lt (bytes : List UInt8) : value bytes < 256 ^ bytes.length := by
  induction bytes with
  | nil => simp
  | cons byte rest ih =>
      have hByte := byte.toNat_lt
      simp only [value_cons, List.length_cons, Nat.pow_succ]
      omega

@[simp] theorem encode_value (bytes : List UInt8) :
    encode bytes.length (value bytes) = bytes := by
  induction bytes with
  | nil => rfl
  | cons byte rest ih =>
      have hByte := byte.toNat_lt
      have hDiv : (byte.toNat + 256 * value rest) / 256 = value rest := by omega
      have hHead : UInt8.ofNat (byte.toNat + 256 * value rest) = byte := by
        apply UInt8.toNat_inj.mp
        simp only [UInt8.toNat_ofNat']
        omega
      simp only [List.length_cons, encode, value_cons, hDiv, ih, hHead]

/-- A list of the right length is the encoding of its own value. -/
theorem eq_encode {bytes : List UInt8} {width : Nat} (h : bytes.length = width) :
    bytes = encode width (value bytes) := by
  rw [← h, encode_value]

/-- Joining bits that do not overlap is adding. -/
theorem or_shiftLeft {low width : Nat} (h : low < 2 ^ width) (high : Nat) :
    low ||| high <<< width = low + high * 2 ^ width := by
  rw [Nat.or_comm, ← Nat.shiftLeft_add_eq_or_of_lt h, Nat.shiftLeft_eq, Nat.add_comm]

/-- Two bytes put together by shifts. -/
theorem uint16_toNat (b0 b1 : UInt8) :
    (b0.toUInt16 ||| b1.toUInt16 <<< 8).toNat = value [b0, b1] := by
  have h0 := b0.toNat_lt
  have h1 := b1.toNat_lt
  have hShift : (b1.toUInt16 <<< 8).toNat = b1.toNat <<< 8 := by
    rw [UInt16.toNat_shiftLeft, UInt8.toNat_toUInt16, show (8 : UInt16).toNat % 16 = 8 by rfl,
      Nat.mod_eq_of_lt (by rw [Nat.shiftLeft_eq]; omega)]
  rw [UInt16.toNat_or, hShift, UInt8.toNat_toUInt16, or_shiftLeft h0]
  simp only [value_cons, value_nil]
  omega

/-- Two bytes joined by shifts are their little-endian number. -/
theorem uint32_toNat_two (b0 b1 : UInt8) :
    (b0.toUInt32 ||| b1.toUInt32 <<< 8).toNat = value [b0, b1] := by
  have h0 := b0.toNat_lt
  have h1 := b1.toNat_lt
  have hShift : (b1.toUInt32 <<< 8).toNat = b1.toNat <<< 8 := by
    rw [UInt32.toNat_shiftLeft, UInt8.toNat_toUInt32, show (8 : UInt32).toNat % 32 = 8 by rfl,
      Nat.mod_eq_of_lt (by rw [Nat.shiftLeft_eq]; omega)]
  rw [UInt32.toNat_or, hShift, UInt8.toNat_toUInt32, or_shiftLeft h0]
  simp only [value_cons, value_nil]
  omega

/-- Four bytes put together by shifts. -/
theorem uint32_toNat_four (b0 b1 b2 b3 : UInt8) :
    (b0.toUInt32 ||| b1.toUInt32 <<< 8 ||| b2.toUInt32 <<< 16 ||| b3.toUInt32 <<< 24).toNat =
      value [b0, b1, b2, b3] := by
  have h0 := b0.toNat_lt
  have h1 := b1.toNat_lt
  have h2 := b2.toNat_lt
  have h3 := b3.toNat_lt
  have hThird : (b2.toUInt32 <<< 16).toNat = b2.toNat <<< 16 := by
    rw [UInt32.toNat_shiftLeft, UInt8.toNat_toUInt32, show (16 : UInt32).toNat % 32 = 16 by rfl,
      Nat.mod_eq_of_lt (by rw [Nat.shiftLeft_eq]; omega)]
  have hFourth : (b3.toUInt32 <<< 24).toNat = b3.toNat <<< 24 := by
    rw [UInt32.toNat_shiftLeft, UInt8.toNat_toUInt32, show (24 : UInt32).toNat % 32 = 24 by rfl,
      Nat.mod_eq_of_lt (by rw [Nat.shiftLeft_eq]; omega)]
  have hTwo : value [b0, b1] < 2 ^ 16 := by
    simp only [value_cons, value_nil]
    omega
  have hThree : value [b0, b1] + b2.toNat * 2 ^ 16 < 2 ^ 24 := by omega
  rw [UInt32.toNat_or, UInt32.toNat_or, uint32_toNat_two, hThird, hFourth, or_shiftLeft hTwo,
    or_shiftLeft hThree]
  simp only [value_cons, value_nil]
  omega

/-- Three bytes joined by shifts are their little-endian number. -/
theorem uint32_toNat_three (b0 b1 b2 : UInt8) :
    (b0.toUInt32 ||| b1.toUInt32 <<< 8 ||| b2.toUInt32 <<< 16).toNat = value [b0, b1, b2] := by
  have hFour := uint32_toNat_four b0 b1 b2 0
  simpa using hFour

end Semantics.LittleEndian

namespace Semantics.BigEndian

def encode (width n : Nat) : List UInt8 := (LittleEndian.encode width n).reverse

def value (bytes : List UInt8) : Nat := LittleEndian.value bytes.reverse

@[simp] theorem encode_length (width n : Nat) : (encode width n).length = width := by
  simp [encode]

theorem value_lt (bytes : List UInt8) : value bytes < 256 ^ bytes.length := by
  simpa [value] using LittleEndian.value_lt bytes.reverse

@[simp] theorem encode_value (bytes : List UInt8) : encode bytes.length (value bytes) = bytes := by
  have hReversed := LittleEndian.encode_value bytes.reverse
  rw [List.length_reverse] at hReversed
  rw [encode, value, hReversed, List.reverse_reverse]

/-- Read in one order and written in the other, bytes come out reversed. -/
theorem littleEndian_encode_value (bytes : List UInt8) :
    LittleEndian.encode bytes.length (value bytes) = bytes.reverse := by
  simpa [value] using LittleEndian.encode_value bytes.reverse

end Semantics.BigEndian
