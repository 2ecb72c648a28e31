import SnapEmu.Semantics.Exec
import SnapEmu.Semantics.SixBit
import SnapEmu.Semantics.Text

/-! The text form of a password digest. -/
namespace SnapEmu.User

open Semantics Semantics.Exec

def passwordTable : List UInt8 :=
  Text.ascii "./0123456789ABCDEFGHIJKLMNOPQRSTUVWXYZabcdefghijklmnopqrstuvwxyz"

/-- One round of the loop of `password_encode`. The state is the counter and
the characters so far. -/
def passwordRound (source : List UInt8) :
    Nat × List UInt8 → Exec Empty ((Nat × List UInt8) ⊕ List UInt8)
  | (count, v) =>
    if count < source.length then do
      let value := (← index source count).toUInt32
      let count := count + 1
      let v := v ++ [← index passwordTable (value &&& 0x3f).toNat]
      let value ← if count < source.length then do
          ok (value ||| (← index source count).toUInt32 <<< 8)
        else ok value
      let v := v ++ [← index passwordTable (value >>> 6 &&& 0x3f).toNat]
      if count ≥ source.length then ok (.inr v)
      else do
        let count := count + 1
        let value ← if count < source.length then do
            ok (value ||| (← index source count).toUInt32 <<< 16)
          else ok value
        let v := v ++ [← index passwordTable (value >>> 12 &&& 0x3f).toNat]
        if count ≥ source.length then ok (.inr v)
        else do
          let count := count + 1
          let v := v ++ [← index passwordTable (value >>> 18 &&& 0x3f).toNat]
          ok (.inl (count, v))
    else ok (.inr v)

/-- `Base64::password_encode`, within `fuel` rounds. -/
def passwordEncode (fuel : Nat) (source : List UInt8) : Exec Empty (List UInt8) := do
  let v ← loop (passwordRound source) fuel (0, [])
  if Text.isUtf8 v then ok v else panic

/-- The character of a digit. -/
def passwordChar (digit : Nat) : UInt8 := passwordTable.getD digit 0

theorem index_passwordTable {digit : Nat} (h : digit < 64) :
    (index passwordTable digit : Exec Empty UInt8) = ok (passwordChar digit) := by
  have hLength : passwordTable.length = 64 := by decide
  rw [index_eq_ok, passwordChar, List.getD_eq_getElem?_getD,
    List.getElem?_eq_getElem (hLength ▸ h), Option.getD_some]

theorem index_lowSix (value : UInt32) :
    (index passwordTable (value &&& 0x3f).toNat : Exec Empty UInt8) =
      ok (passwordChar (value.toNat % 64)) := by
  have hAnd : (value &&& 0x3f).toNat = value.toNat % 64 := by
    rw [UInt32.toNat_and]
    exact Nat.and_two_pow_sub_one_eq_mod _ 6
  rw [hAnd, index_passwordTable (Nat.mod_lt _ (by decide))]

/-- The six bits of a word from a position on. -/
theorem shiftRight_toNat (value : UInt32) {shift : UInt32} (hShift : shift < 32) :
    (value >>> shift).toNat = value.toNat / 2 ^ shift.toNat := by
  have hLt : shift.toNat < 32 := UInt32.lt_iff_toNat_lt.mp hShift
  rw [UInt32.toNat_shiftRight, Nat.mod_eq_of_lt hLt, Nat.shiftRight_eq_div_pow]

section Rounds

variable {source rest : List UInt8} {count : Nat} {v : List UInt8} {a b c : UInt8}

theorem index_drop (position : Nat) (h : (source.drop count)[position]? = some a) :
    (index source (count + position) : Exec Empty UInt8) = ok a := by
  rw [index_eq_ok, ← List.getElem?_drop, h]

theorem length_of_drop (h : source.drop count = rest) (hRest : rest ≠ []) :
    source.length = count + rest.length := by
  have hLength := congrArg List.length h
  rw [List.length_drop] at hLength
  have hPos := List.length_pos_of_ne_nil hRest
  omega

/-- The digits of a word, by the positions of their bits. -/
theorem digits_three (n : Nat) :
    SixBit.digits 3 n = [n % 64, n / 2 ^ 6 % 64, n / 2 ^ 12 % 64] := by
  have hThird : n / 64 / 64 = n / 2 ^ 12 := Nat.div_div_eq_div_mul n 64 64
  rw [SixBit.digits, SixBit.digits, SixBit.digits, SixBit.digits, hThird]
  rfl

/-- The four digits of a group of three bytes. -/
theorem digits_four (n : Nat) :
    SixBit.digits 4 n = [n % 64, n / 2 ^ 6 % 64, n / 2 ^ 12 % 64, n / 2 ^ 18 % 64] := by
  have hThird : n / 64 / 64 = n / 2 ^ 12 := Nat.div_div_eq_div_mul n 64 64
  have hFourth : n / 2 ^ 12 / 64 = n / 2 ^ 18 := Nat.div_div_eq_div_mul n (2 ^ 12) 64
  rw [SixBit.digits, SixBit.digits, SixBit.digits, SixBit.digits, SixBit.digits, hThird, hFourth]
  rfl

/-- Three bytes ahead: four characters, and the loop goes on. -/
theorem passwordRound_three (h : source.drop count = a :: b :: c :: rest) (v : List UInt8) :
    passwordRound source (count, v) =
      ok (.inl (count + 3,
        v ++ (SixBit.digits 4 (LittleEndian.value [a, b, c])).map passwordChar)) := by
  have hLength := length_of_drop h (List.cons_ne_nil _ _)
  simp only [List.length_cons] at hLength
  have hFirst : (index source count : Exec Empty UInt8) = ok a := index_drop 0 (by rw [h]; rfl)
  have hSecond : (index source (count + 1) : Exec Empty UInt8) = ok b :=
    index_drop 1 (by rw [h]; rfl)
  have hThird : (index source (count + 1 + 1) : Exec Empty UInt8) = ok c :=
    index_drop 2 (by rw [h]; rfl)
  have hOne : count + 1 < source.length := by omega
  have hTwo : count + 1 + 1 < source.length := by omega
  -- the first two characters are made before the third byte is read
  have hLow : a.toNat % 64 = LittleEndian.value [a, b, c] % 64 := by
    simp only [LittleEndian.value_cons, LittleEndian.value_nil]
    omega
  have hMiddle : LittleEndian.value [a, b] / 2 ^ 6 % 64 =
      LittleEndian.value [a, b, c] / 2 ^ 6 % 64 := by
    simp only [LittleEndian.value_cons, LittleEndian.value_nil]
    omega
  simp only [passwordRound, if_pos (show count < source.length by omega), hFirst, hSecond, hThird,
    if_pos hOne, if_pos hTwo, if_neg (Nat.not_le.mpr hOne), if_neg (Nat.not_le.mpr hTwo), ok_bind,
    index_lowSix, ge_iff_le, shiftRight_toNat _ (show (6 : UInt32) < 32 by decide),
    shiftRight_toNat _ (show (12 : UInt32) < 32 by decide),
    shiftRight_toNat _ (show (18 : UInt32) < 32 by decide), UInt8.toNat_toUInt32,
    LittleEndian.uint32_toNat_two, LittleEndian.uint32_toNat_three]
  rw [hLow, show (6 : UInt32).toNat = 6 from rfl, hMiddle, digits_four, List.append_assoc,
    List.append_assoc, List.append_assoc]
  rfl

/-- Two bytes ahead: three characters, and the loop ends. -/
theorem passwordRound_two (h : source.drop count = [a, b]) (v : List UInt8) :
    passwordRound source (count, v) =
      ok (.inr (v ++ (SixBit.digits 3 (LittleEndian.value [a, b])).map passwordChar)) := by
  have hLength := length_of_drop h (List.cons_ne_nil _ _)
  simp only [List.length_cons, List.length_nil] at hLength
  have hFirst : (index source count : Exec Empty UInt8) = ok a := index_drop 0 (by rw [h]; rfl)
  have hSecond : (index source (count + 1) : Exec Empty UInt8) = ok b :=
    index_drop 1 (by rw [h]; rfl)
  have hOne : count + 1 < source.length := by omega
  have hTwo : ¬count + 1 + 1 < source.length := by omega
  have hLow : a.toNat % 64 = LittleEndian.value [a, b] % 64 := by
    simp only [LittleEndian.value_cons, LittleEndian.value_nil]
    omega
  simp only [passwordRound, if_pos (show count < source.length by omega), hFirst, hSecond,
    if_pos hOne, if_neg hTwo, if_neg (Nat.not_le.mpr hOne), if_pos (Nat.le_of_not_lt hTwo), ok_bind,
    index_lowSix, ge_iff_le, shiftRight_toNat _ (show (6 : UInt32) < 32 by decide),
    shiftRight_toNat _ (show (12 : UInt32) < 32 by decide), UInt8.toNat_toUInt32,
    LittleEndian.uint32_toNat_two]
  rw [hLow, digits_three, List.append_assoc, List.append_assoc]
  rfl

/-- One byte ahead: two characters, and the loop ends. -/
theorem passwordRound_one (h : source.drop count = [a]) (v : List UInt8) :
    passwordRound source (count, v) =
      ok (.inr (v ++ (SixBit.digits 2 (LittleEndian.value [a])).map passwordChar)) := by
  have hLength := length_of_drop h (List.cons_ne_nil _ _)
  simp only [List.length_cons, List.length_nil] at hLength
  have hFirst : (index source count : Exec Empty UInt8) = ok a := index_drop 0 (by rw [h]; rfl)
  have hOne : ¬count + 1 < source.length := by omega
  simp only [passwordRound, if_pos (show count < source.length by omega), hFirst, if_neg hOne,
    if_pos (Nat.le_of_not_lt hOne), ok_bind, index_lowSix, ge_iff_le,
    shiftRight_toNat _ (show (6 : UInt32) < 32 by decide), UInt8.toNat_toUInt32]
  rw [List.append_assoc]
  rfl

/-- The loop stops at the end of the bytes. -/
theorem passwordRound_end (h : source.drop count = []) (v : List UInt8) :
    passwordRound source (count, v) = ok (.inr v) := by
  have hLength : ¬count < source.length := Nat.not_lt.mpr (List.drop_eq_nil_iff.mp h)
  rw [passwordRound, if_neg hLength]

/-- The loop writes the digits of what is left. -/
theorem loop_passwordRound {fuel : Nat} (h : source.drop count = rest)
    (hFuel : rest.length < fuel) (v : List UInt8) :
    loop (passwordRound source) fuel (count, v) =
      ok (v ++ (SixBit.encode rest).map passwordChar) := by
  induction rest using SixBit.encode.induct generalizing count v fuel with
  | case1 a b c rest ih =>
      obtain ⟨fuel, rfl⟩ := Nat.exists_eq_add_of_lt hFuel
      have hNext : source.drop (count + 3) = rest := by
        rw [← List.drop_drop, h]
        rfl
      rw [loop_next _ (passwordRound_three h v), ih hNext (by simp only [List.length_cons]; omega),
        SixBit.encode, List.map_append, List.append_assoc]
  | case2 a b =>
      obtain ⟨fuel, rfl⟩ := Nat.exists_eq_add_of_lt hFuel
      rw [loop_break _ (passwordRound_two h v), SixBit.encode]
  | case3 a =>
      obtain ⟨fuel, rfl⟩ := Nat.exists_eq_add_of_lt hFuel
      rw [loop_break _ (passwordRound_one h v), SixBit.encode]
  | case4 =>
      obtain ⟨fuel, rfl⟩ := Nat.exists_eq_add_of_lt hFuel
      rw [loop_break _ (passwordRound_end h v), SixBit.encode, List.map_nil, List.append_nil]

end Rounds

theorem passwordChar_mem {digit : Nat} (h : digit < 64) : passwordChar digit ∈ passwordTable := by
  have hChar := index_eq_ok.mp (index_passwordTable h)
  exact List.mem_of_getElem? hChar

/-- What `password_encode` makes, whatever the bytes. -/
theorem passwordEncode_eq {fuel : Nat} {source : List UInt8} (hFuel : source.length < fuel) :
    passwordEncode fuel source = ok ((SixBit.encode source).map passwordChar) := by
  have hAscii : ∀ char ∈ passwordTable, char < 128 := by decide +kernel
  have hUtf8 : Text.isUtf8 ((SixBit.encode source).map passwordChar) = true := by
    refine Text.isUtf8_ascii fun char hChar => ?_
    obtain ⟨digit, hDigit, rfl⟩ := List.mem_map.mp hChar
    exact hAscii _ (passwordChar_mem (SixBit.lt_of_mem_encode hDigit))
  rw [passwordEncode, loop_passwordRound List.drop_zero hFuel, ok_bind, List.nil_append,
    if_pos hUtf8]

/-- The digit of a character. -/
def passwordDigit (char : UInt8) : Option Nat := passwordTable.idxOf? char

/-- The bytes that a text stands for: each character is a digit, and four
digits are three bytes, the lowest six bits first. -/
def passwordDecode (text : List UInt8) : Option (List UInt8) :=
  text.mapM passwordDigit >>= SixBit.decode

/-- Each character of the table is read back as its digit. -/
theorem passwordDigit_passwordChar {digit : Nat} (h : digit < 64) :
    passwordDigit (passwordChar digit) = some digit := by
  have hAll : ∀ digit : Fin 64, passwordDigit (passwordChar digit) = some digit.val := by
    decide +kernel
  exact hAll ⟨digit, h⟩

/-- The text written is decoded to the bytes. -/
theorem passwordDecode_encode (source : List UInt8) :
    passwordDecode ((SixBit.encode source).map passwordChar) = some source := by
  have hDigits : ∀ digits : List Nat, (∀ digit ∈ digits, digit < 64) →
      (digits.map passwordChar).mapM passwordDigit = some digits := by
    intro digits
    induction digits with
    | nil => intro _; rfl
    | cons digit digits ih =>
        intro h
        obtain ⟨hDigit, hRest⟩ := List.forall_mem_cons.mp h
        rw [List.map_cons, List.mapM_cons, passwordDigit_passwordChar hDigit, ih hRest]
        rfl
  rw [passwordDecode, hDigits _ fun _ => SixBit.lt_of_mem_encode]
  exact SixBit.decode_encode source

/-- `password_encode` ends for every byte list, with characters of the table,
six bits each, from which the bytes can be read back. -/
theorem password_encode_decodes (source : List UInt8) :
    ∃ text, (∀ fuel, source.length < fuel → passwordEncode fuel source = ok text) ∧
      text.length = (8 * source.length + 5) / 6 ∧ (∀ char ∈ text, char ∈ passwordTable) ∧
      passwordDecode text = some source ∧
      ∀ other fuel, other.length < fuel → passwordEncode fuel other = ok text → other = source := by
  refine ⟨(SixBit.encode source).map passwordChar, fun fuel => passwordEncode_eq, ?_, ?_,
    passwordDecode_encode source, ?_⟩
  · rw [List.length_map, SixBit.encode_length]
  · intro char hChar
    obtain ⟨digit, hDigit, rfl⟩ := List.mem_map.mp hChar
    exact passwordChar_mem (SixBit.lt_of_mem_encode hDigit)
  · intro other fuel hFuel hSame
    rw [passwordEncode_eq hFuel, ok.injEq] at hSame
    have hDecoded := passwordDecode_encode other
    rw [hSame, passwordDecode_encode, Option.some.injEq] at hDecoded
    exact hDecoded.symm

end SnapEmu.User
