import SnapEmu.Semantics.Text

/-! Decimal numerals of integers, as they are read and printed. -/
namespace Semantics.Numeral

open Text

def isDigit (byte : UInt8) : Bool := 48 ≤ byte && byte ≤ 57

/-- The number of a nonempty sequence of digits. -/
def natOf (text : List UInt8) : Option Nat :=
  if text ≠ [] ∧ text.all isDigit then
    some (text.foldl (fun value byte => 10 * value + (byte.toNat - 48)) 0)
  else none

/-- The integer of digits that may follow a sign. -/
def intOf : List UInt8 → Option Int
  | 43 :: digits => (natOf digits).map Int.ofNat
  | 45 :: digits => (natOf digits).map fun value => -Int.ofNat value
  | digits => (natOf digits).map Int.ofNat

def IsI32 (value : Int) : Prop := -2 ^ 31 ≤ value ∧ value < 2 ^ 31

instance (value : Int) : Decidable (IsI32 value) :=
  inferInstanceAs (Decidable (-2 ^ 31 ≤ value ∧ value < 2 ^ 31))

/-- `str::parse::<i32>`: an integer out of range is refused. -/
def parseI32 (text : List UInt8) : Option Int := (intOf text).filter fun value => IsI32 value

/-- `Display` of an integer. -/
def printInt (value : Int) : List UInt8 :=
  if value < 0 then 45 :: decimal value.natAbs else decimal value.natAbs

/-- A text is read as a 32-bit integer when it is an integer in range. -/
theorem parseI32_eq_some {text : List UInt8} {value : Int} :
    parseI32 text = some value ↔ intOf text = some value ∧ IsI32 value := by
  rw [parseI32, Option.filter_eq_some_iff, decide_eq_true_iff]

/-- A text read as a number consists of digits. -/
theorem isDigit_of_natOf {text : List UInt8} {value : Nat} (h : natOf text = some value) :
    ∀ byte ∈ text, isDigit byte = true := by
  rw [natOf] at h
  split_ifs at h with hText
  exact List.all_eq_true.mp hText.2

/-- A numeral has digits and signs only. -/
theorem mem_of_intOf {text : List UInt8} {value : Int} (h : intOf text = some value)
    {byte : UInt8} (hByte : byte ∈ text) : byte = 43 ∨ byte = 45 ∨ isDigit byte = true := by
  rw [intOf.eq_def] at h
  split at h
  · obtain ⟨number, hNumber, -⟩ := Option.map_eq_some_iff.mp h
    rcases List.mem_cons.mp hByte with hSign | hDigit
    · exact .inl hSign
    · exact .inr (.inr (isDigit_of_natOf hNumber byte hDigit))
  · obtain ⟨number, hNumber, -⟩ := Option.map_eq_some_iff.mp h
    rcases List.mem_cons.mp hByte with hSign | hDigit
    · exact .inr (.inl hSign)
    · exact .inr (.inr (isDigit_of_natOf hNumber byte hDigit))
  · obtain ⟨number, hNumber, -⟩ := Option.map_eq_some_iff.mp h
    exact .inr (.inr (isDigit_of_natOf hNumber byte hByte))

end Semantics.Numeral
