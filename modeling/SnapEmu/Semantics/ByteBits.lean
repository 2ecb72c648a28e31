import SnapEmu.Semantics.ByteOrder

/-! Single bits of bytes, and of the big-endian word that two bytes make. -/
namespace Semantics.ByteBits

/-- A mask shifted below the width of a byte is a power of two. -/
theorem toNat_mask {position : UInt8} (hPosition : position < 8) :
    ((1 : UInt8) <<< position).toNat = 2 ^ position.toNat := by
  have hLt : position.toNat < 8 := UInt8.lt_iff_toNat_lt.mp hPosition
  have hPow : 2 ^ position.toNat < 2 ^ 8 := Nat.pow_lt_pow_right (by decide) hLt
  rw [UInt8.toNat_shiftLeft, Nat.mod_eq_of_lt hLt, UInt8.toNat_one, Nat.one_shiftLeft,
    Nat.mod_eq_of_lt hPow]

/-- Setting a bit sets that bit only. -/
theorem testBit_set (byte : UInt8) {position : UInt8} (hPosition : position < 8) (i : Nat) :
    (byte ||| 1 <<< position).toNat.testBit i =
      (byte.toNat.testBit i || decide (position.toNat = i)) := by
  rw [UInt8.toNat_or, toNat_mask hPosition, Nat.testBit_or, Nat.testBit_two_pow]

/-- Clearing a bit clears that bit only. -/
theorem testBit_clear (byte : UInt8) {position : UInt8} (hPosition : position < 8) (i : Nat) :
    (byte &&& ~~~(1 <<< position)).toNat.testBit i =
      (byte.toNat.testBit i && !decide (position.toNat = i)) := by
  rw [UInt8.toNat_and, Nat.testBit_and, UInt8.toNat_not, toNat_mask hPosition]
  by_cases hBound : i < 8
  · have hPow : 2 ^ position.toNat < 2 ^ 8 :=
      Nat.pow_lt_pow_right (by decide) (UInt8.lt_iff_toNat_lt.mp hPosition)
    have hComplement : UInt8.size - 1 - 2 ^ position.toNat = 2 ^ 8 - (2 ^ position.toNat + 1) := by
      rw [Nat.sub_sub, Nat.add_comm]
      rfl
    rw [hComplement, Nat.testBit_two_pow_sub_succ hPow, Nat.testBit_two_pow]
    simp [hBound]
  · have hHigh : byte.toNat.testBit i = false :=
      Nat.testBit_lt_two_pow
        (byte.toNat_lt.trans_le (Nat.pow_le_pow_right (by decide) (Nat.le_of_not_lt hBound)))
    rw [hHigh, Bool.false_and, Bool.false_and]

/-- A byte with one bit given. -/
def put (byte position : UInt8) (value : Bool) : UInt8 :=
  if value then byte ||| 1 <<< position else byte &&& ~~~(1 <<< position)

/-- Putting a bit changes that bit and no other. -/
theorem testBit_put (byte : UInt8) {position : UInt8} (value : Bool) (hPosition : position < 8)
    (i : Nat) :
    (put byte position value).toNat.testBit i =
      if position.toNat = i then value else byte.toNat.testBit i := by
  cases value with
  | true =>
      rw [put, if_pos rfl, testBit_set byte hPosition]
      by_cases hAt : position.toNat = i <;> simp [hAt]
  | false =>
      rw [put, if_neg (by decide), testBit_clear byte hPosition]
      by_cases hAt : position.toNat = i <;> simp [hAt]

/-- Bytes with the same bits are equal. -/
theorem eq_of_testBit {first second : UInt8}
    (h : ∀ i, first.toNat.testBit i = second.toNat.testBit i) : first = second :=
  UInt8.toNat_inj.mp (Nat.eq_of_testBit_eq h)

/-- The last value given to a bit counts. -/
theorem put_put_self (byte : UInt8) {position : UInt8} (first second : Bool)
    (hPosition : position < 8) :
    put (put byte position first) position second = put byte position second := by
  refine eq_of_testBit fun i => ?_
  rw [testBit_put _ second hPosition, testBit_put byte first hPosition,
    testBit_put byte second hPosition]
  split_ifs <;> rfl

/-- Bits put at two positions commute. -/
theorem put_comm (byte : UInt8) {first second : UInt8} (value other : Bool)
    (hFirst : first < 8) (hSecond : second < 8) (hNe : first ≠ second) :
    put (put byte first value) second other = put (put byte second other) first value := by
  have hNat : first.toNat ≠ second.toNat := fun hEq => hNe (UInt8.toNat_inj.mp hEq)
  refine eq_of_testBit fun i => ?_
  rw [testBit_put _ other hSecond, testBit_put byte value hFirst, testBit_put _ value hFirst,
    testBit_put byte other hSecond]
  split_ifs with hSecondAt hFirstAt
  · exact absurd (hFirstAt.trans hSecondAt.symm) hNat
  · rfl
  · rfl
  · rfl

theorem value_pair (high low : UInt8) :
    BigEndian.value [high, low] = 2 ^ 8 * high.toNat + low.toNat := by
  rw [BigEndian.value, List.reverse_cons, List.reverse_singleton, List.singleton_append,
    LittleEndian.value_cons, LittleEndian.value_cons, LittleEndian.value_nil]
  omega

/-- The low byte holds the bits below eight. -/
theorem testBit_value_pair (high low : UInt8) (i : Nat) :
    (BigEndian.value [high, low]).testBit i =
      if i < 8 then low.toNat.testBit i else high.toNat.testBit (i - 8) := by
  rw [value_pair, Nat.testBit_two_pow_mul_add _ low.toNat_lt]

theorem value_pair_lt (high low : UInt8) : BigEndian.value [high, low] < 2 ^ 16 :=
  (BigEndian.value_lt [high, low]).trans_eq (by rw [List.length_cons, List.length_singleton]; rfl)

/-- Words of two bytes that have the same bits are equal. -/
theorem eq_of_testBit_positions {first second : Nat} (hFirst : first < 2 ^ 16)
    (hSecond : second < 2 ^ 16)
    (h : ∀ position : UInt8, first.testBit position.toNat = second.testBit position.toNat) :
    first = second := by
  refine Nat.eq_of_testBit_eq fun i => ?_
  by_cases hi : i < 16
  · have hPosition := h (UInt8.ofNat i)
    rwa [UInt8.toNat_ofNat_of_lt' (hi.trans (by decide))] at hPosition
  · have hPow : 2 ^ 16 ≤ 2 ^ i := Nat.pow_le_pow_right (by decide) (Nat.le_of_not_lt hi)
    rw [Nat.testBit_lt_two_pow (hFirst.trans_le hPow),
      Nat.testBit_lt_two_pow (hSecond.trans_le hPow)]

end Semantics.ByteBits
