import Mathlib.Algebra.GroupWithZero.Nat
import Mathlib.Tactic.SplitIfs

/-! Calculations on unsigned numbers of 64 bits. In a build with overflow checks
one that leaves the range stops; in a build without, it wraps. That a
subtraction has underflowed is remembered in both. -/
namespace Semantics

/-- How a calculation ends, and whether a subtraction underflowed in it. -/
structure Calculation (ε α : Type) where
  underflowed : Bool
  result : Except ε α

namespace Calculation

variable {ε α β : Type}

protected def bind (first : Calculation ε α) (next : α → Calculation ε β) : Calculation ε β :=
  match first.result with
  | .error error => { underflowed := first.underflowed, result := .error error }
  | .ok value =>
      { underflowed := first.underflowed || (next value).underflowed,
        result := (next value).result }

instance : Monad (Calculation ε) where
  pure value := { underflowed := false, result := .ok value }
  bind := Calculation.bind

/-- A result that comes from elsewhere. -/
def ofResult (result : Except ε α) : Calculation ε α := { underflowed := false, result := result }

def sub (checks : Bool) (stop : ε) (minuend subtrahend : UInt64) : Calculation ε UInt64 :=
  if subtrahend ≤ minuend then pure (minuend - subtrahend)
  else
    { underflowed := true
      result := if checks then .error stop else .ok (minuend - subtrahend) }

def mul (checks : Bool) (stop : ε) (first second : UInt64) : Calculation ε UInt64 :=
  if checks ∧ 2 ^ 64 ≤ first.toNat * second.toNat then ofResult (.error stop)
  else pure (first * second)

@[simp] theorem value_bind (value : α) (next : α → Calculation ε β) :
    ((pure value : Calculation ε α) >>= next) = next value := by
  change Calculation.bind _ _ = _
  rw [Calculation.bind]
  rfl

@[simp] theorem ok_bind (value : α) (next : α → Calculation ε β) :
    ((ofResult (.ok value) : Calculation ε α) >>= next) = next value := value_bind value next

@[simp] theorem error_bind (error : ε) (next : α → Calculation ε β) :
    ((ofResult (.error error) : Calculation ε α) >>= next) = ofResult (.error error) := rfl

/-- What has underflowed stays so. -/
theorem underflowed_bind {calculation : Calculation ε α} (h : calculation.underflowed = true)
    (next : α → Calculation ε β) : (calculation >>= next).underflowed = true := by
  change (Calculation.bind calculation next).underflowed = true
  unfold Calculation.bind
  split
  · exact h
  · exact Bool.or_eq_true_iff.mpr (.inl h)

section Steps

variable {checks : Bool} {stop : ε} {first second : UInt64}

/-- A difference that does not underflow is the difference. -/
theorem sub_of_le (h : second ≤ first) : sub checks stop first second = pure (first - second) :=
  if_pos h

/-- A difference that underflows is recorded as such. -/
theorem underflowed_sub (h : ¬second ≤ first) :
    (sub checks stop first second).underflowed = true := by
  rw [sub, if_neg h]

/-- With overflow checks a product that overflows stops. -/
theorem mul_of_overflow (hChecks : checks = true) (h : 2 ^ 64 ≤ first.toNat * second.toNat) :
    mul checks stop first second = ofResult (.error stop) := if_pos ⟨hChecks, h⟩

/-- A product that fits, or is not checked, is the wrapping product. -/
theorem mul_of_fits (h : ¬(checks = true ∧ 2 ^ 64 ≤ first.toNat * second.toNat)) :
    mul checks stop first second = pure (first * second) := if_neg h

end Steps

end Calculation
end Semantics
