import Mathlib.Tactic.SplitIfs

/-! Base64 with the standard alphabet and padding. -/
namespace Semantics.Base64

def alphabet : List Char :=
  "ABCDEFGHIJKLMNOPQRSTUVWXYZabcdefghijklmnopqrstuvwxyz0123456789+/".toList

def digit (value : Nat) : Char := alphabet.getD value '='

def digitValue (char : Char) : Option Nat := alphabet.idxOf? char

/-- Each digit of the alphabet is read back as its value. -/
theorem digitValue_digit {value : Nat} (h : value < 64) :
    digitValue (digit value) = some value := by
  have hAll : ∀ value : Fin 64, digitValue (digit value) = some value.val := by decide +kernel
  exact hAll ⟨value, h⟩

/-- No digit is the padding character. -/
theorem digit_ne_pad {value : Nat} (h : value < 64) : digit value ≠ '=' := by
  have hAll : ∀ value : Fin 64, digit value ≠ '=' := by decide +kernel
  exact hAll ⟨value, h⟩

/-- Three bytes to four digits; one or two bytes at the end are padded. -/
def encodeChars : List UInt8 → List Char
  | a :: b :: c :: rest =>
      digit (a.toNat / 4) :: digit (a.toNat % 4 * 16 + b.toNat / 16) ::
        digit (b.toNat % 16 * 4 + c.toNat / 64) :: digit (c.toNat % 64) :: encodeChars rest
  | [a, b] =>
      [digit (a.toNat / 4), digit (a.toNat % 4 * 16 + b.toNat / 16), digit (b.toNat % 16 * 4), '=']
  | [a] => [digit (a.toNat / 4), digit (a.toNat % 4 * 16), '=', '=']
  | [] => []

/-- Four digits to three bytes. Padding stands at the end only, and the bits
it leaves over are zero. -/
def decodeChars : List Char → Option (List UInt8)
  | p :: q :: r :: s :: rest => do
      let first ← digitValue p
      let second ← digitValue q
      if r = '=' then
        if s = '=' ∧ rest = [] ∧ second % 16 = 0 then
          some [UInt8.ofNat (first * 4 + second / 16)]
        else none
      else
        let third ← digitValue r
        if s = '=' then
          if rest = [] ∧ third % 4 = 0 then
            some [UInt8.ofNat (first * 4 + second / 16), UInt8.ofNat (second * 16 + third / 4)]
          else none
        else
          let fourth ← digitValue s
          let bytes ← decodeChars rest
          some (UInt8.ofNat (first * 4 + second / 16) :: UInt8.ofNat (second * 16 + third / 4) ::
            UInt8.ofNat (third * 64 + fourth) :: bytes)
  | [] => some []
  | _ => none

def encode (bytes : List UInt8) : String := String.ofList (encodeChars bytes)

def decode (text : String) : Option (List UInt8) := decodeChars text.toList

theorem ofNat_eq (byte : UInt8) {value : Nat} (h : value % 256 = byte.toNat) :
    UInt8.ofNat value = byte := by
  apply UInt8.toNat_inj.mp
  rw [UInt8.toNat_ofNat', h]

/-- The characters written are decoded to the bytes. -/
theorem decodeChars_encodeChars (bytes : List UInt8) :
    decodeChars (encodeChars bytes) = some bytes := by
  induction bytes using encodeChars.induct with
  | case1 a b c rest ih =>
      have hA := a.toNat_lt
      have hB := b.toNat_lt
      have hC := c.toNat_lt
      have hThird : b.toNat % 16 * 4 + c.toNat / 64 < 64 := by omega
      have hFourth : c.toNat % 64 < 64 := by omega
      rw [encodeChars, decodeChars, digitValue_digit (by omega), digitValue_digit (by omega)]
      simp only [Option.bind_eq_bind, Option.bind_some, digit_ne_pad hThird, digit_ne_pad hFourth,
        if_false, digitValue_digit hThird, digitValue_digit hFourth, ih]
      rw [ofNat_eq a (by omega), ofNat_eq b (by omega),
        ofNat_eq c (by omega)]
  | case2 a b =>
      have hA := a.toNat_lt
      have hB := b.toNat_lt
      have hThird : b.toNat % 16 * 4 < 64 := by omega
      rw [encodeChars, decodeChars, digitValue_digit (by omega), digitValue_digit (by omega)]
      simp only [Option.bind_eq_bind, Option.bind_some, digit_ne_pad hThird, if_false, if_true,
        digitValue_digit hThird]
      rw [if_pos ⟨trivial, by omega⟩, ofNat_eq a (by omega), ofNat_eq b (by omega)]
  | case3 a =>
      have hA := a.toNat_lt
      rw [encodeChars, decodeChars, digitValue_digit (by omega), digitValue_digit (by omega)]
      simp only [Option.bind_eq_bind, Option.bind_some, if_true]
      rw [if_pos ⟨trivial, trivial, by omega⟩, ofNat_eq a (by omega)]
  | case4 => rfl

/-- Decoding undoes encoding. -/
theorem decode_encode (bytes : List UInt8) : decode (encode bytes) = some bytes := by
  rw [decode, encode, String.toList_ofList, decodeChars_encodeChars]

end Semantics.Base64
