import SnapEmu.Semantics.ByteOrder

/-! Bytes as six-bit digits, least significant first: three bytes make four
digits, and one or two bytes at the end make two or three. -/
namespace Semantics.SixBit

/-- The `count` low digits of a number. -/
def digits : Nat → Nat → List Nat
  | 0, _ => []
  | count + 1, n => n % 64 :: digits count (n / 64)

def value (digits : List Nat) : Nat := Nat.ofDigits 64 digits

@[simp] theorem digits_length (count n : Nat) : (digits count n).length = count := by
  induction count generalizing n with
  | zero => rfl
  | succ count ih => rw [digits, List.length_cons, ih]

/-- Digits are read back as the number written. -/
theorem value_digits {count n : Nat} (h : n < 64 ^ count) : value (digits count n) = n := by
  induction count generalizing n with
  | zero =>
      have hZero : n = 0 := by simpa using h
      rw [hZero]
      rfl
  | succ count ih =>
      have hDiv : n / 64 < 64 ^ count := by
        apply Nat.div_lt_of_lt_mul
        rw [Nat.pow_succ] at h
        omega
      rw [digits, value, Nat.ofDigits_cons, ← value, ih hDiv]
      exact Nat.mod_add_div n 64

/-- Digits are below 64. -/
theorem lt_of_mem_digits {count n digit : Nat} (h : digit ∈ digits count n) : digit < 64 := by
  induction count generalizing n with
  | zero => cases h
  | succ count ih =>
      rcases List.mem_cons.mp h with rfl | hRest
      · exact Nat.mod_lt n (by decide)
      · exact ih hRest

def encode : List UInt8 → List Nat
  | a :: b :: c :: rest => digits 4 (LittleEndian.value [a, b, c]) ++ encode rest
  | [a, b] => digits 3 (LittleEndian.value [a, b])
  | [a] => digits 2 (LittleEndian.value [a])
  | [] => []

/-- Digits that hold the given number of bytes, with zero in the bits left over. -/
def block (count : Nat) (digits : List Nat) : Option (List UInt8) :=
  if value digits < 256 ^ count then some (LittleEndian.encode count (value digits)) else none

def decode : List Nat → Option (List UInt8)
  | p :: q :: r :: s :: rest => do
      let bytes ← block 3 [p, q, r, s]
      let others ← decode rest
      some (bytes ++ others)
  | [p, q, r] => block 2 [p, q, r]
  | [p, q] => block 1 [p, q]
  | [_] => none
  | [] => some []

/-- Digits that are enough for the bytes give the bytes back. -/
theorem block_digits {width count : Nat} {bytes : List UInt8} (hWidth : bytes.length = width)
    (h : 256 ^ width ≤ 64 ^ count) :
    block width (digits count (LittleEndian.value bytes)) = some bytes := by
  have hLt : LittleEndian.value bytes < 256 ^ width := hWidth ▸ LittleEndian.value_lt bytes
  rw [block, value_digits (hLt.trans_le h), if_pos hLt, ← LittleEndian.eq_encode hWidth]

/-- Decoding undoes encoding. -/
theorem decode_encode (bytes : List UInt8) : decode (encode bytes) = some bytes := by
  induction bytes using encode.induct with
  | case1 a b c rest ih =>
      have hBlock : block 3 (digits 4 (LittleEndian.value [a, b, c])) = some [a, b, c] :=
        block_digits rfl (by decide)
      simp only [encode, digits, List.cons_append, List.nil_append] at hBlock ⊢
      rw [decode, hBlock, ih]
      rfl
  | case2 a b =>
      have hBlock : block 2 (digits 3 (LittleEndian.value [a, b])) = some [a, b] :=
        block_digits rfl (by decide)
      exact hBlock
  | case3 a =>
      have hBlock : block 1 (digits 2 (LittleEndian.value [a])) = some [a] :=
        block_digits rfl (by decide)
      exact hBlock
  | case4 => rfl

/-- Six bits of every character carry eight bits of every byte. -/
theorem encode_length (bytes : List UInt8) :
    (encode bytes).length = (8 * bytes.length + 5) / 6 := by
  induction bytes using encode.induct with
  | case1 a b c rest ih =>
      simp only [encode, List.length_append, digits_length, ih, List.length_cons]
      omega
  | case2 a b => simp [encode]
  | case3 a => simp [encode]
  | case4 => rfl

/-- The encoded digits are below 64. -/
theorem lt_of_mem_encode {bytes : List UInt8} {digit : Nat} (h : digit ∈ encode bytes) :
    digit < 64 := by
  induction bytes using encode.induct with
  | case1 a b c rest ih =>
      rcases List.mem_append.mp h with hBlock | hRest
      · exact lt_of_mem_digits hBlock
      · exact ih hRest
  | case2 a b => exact lt_of_mem_digits h
  | case3 a => exact lt_of_mem_digits h
  | case4 => cases h

end Semantics.SixBit
