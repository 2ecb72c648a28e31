import Mathlib.Data.List.Nodup
import Mathlib.Data.List.Range
import Mathlib.Order.Lattice

/-! Numbers given in turn from `1` to `size`, and windows of numbers given one
after the other. -/
namespace Semantics.CyclicWindow

/-- The number of an item that others have been given before. -/
def number (size before : Nat) : Nat := before % size + 1

/-- The numbers of the items from one to before another. -/
def window (size start count : Nat) : List Nat := (List.range' start count).map (number size)

variable {size count : Nat}

theorem number_pos (size before : Nat) : 0 < number size before := Nat.succ_pos _

/-- Numbers stay within the cycle. -/
theorem number_le (hSize : 0 < size) (before : Nat) : number size before ≤ size :=
  Nat.mod_lt before hSize

@[simp] theorem window_length (size start count : Nat) :
    (window size start count).length = count := by
  simp [window]

/-- A window grows by the number that follows it. -/
theorem window_succ (size start count : Nat) :
    window size start (count + 1) = window size start count ++ [number size (start + count)] := by
  rw [window, List.range'_concat, List.map_append, Nat.one_mul]
  rfl

/-- A window begins with its first number. -/
theorem window_cons (size start count : Nat) :
    window size start (count + 1) = number size start :: window size (start + 1) count := by
  rw [window, List.range'_succ, List.map_cons, window]

/-- The numbers of a window are those of the cycle. -/
theorem mem_window (hSize : 0 < size) {start value : Nat} (h : value ∈ window size start count) :
    1 ≤ value ∧ value ≤ size := by
  obtain ⟨before, _, rfl⟩ := List.mem_map.mp h
  exact ⟨number_pos size before, number_le hSize before⟩

/-- Places that are less than a cycle apart have different numbers. -/
theorem number_ne {first second : Nat} (hLess : first < second) (hNear : second - first < size) :
    number size first ≠ number size second := by
  intro hSame
  have hMod : second % size = first % size := (Nat.succ_injective hSame).symm
  have hZero := Nat.sub_mod_eq_zero_of_mod_eq hMod
  rw [Nat.mod_eq_of_lt hNear] at hZero
  omega

/-- Numbers of a window that is not larger than the cycle are distinct. -/
theorem nodup_window (start : Nat) (hCount : count ≤ size) : (window size start count).Nodup := by
  refine List.Nodup.map_on ?_ (List.nodup_range' _)
  intro first hFirst second hSecond hSame
  rw [List.mem_range'_1] at hFirst hSecond
  rcases Nat.lt_trichotomy first second with hLess | hEq | hLess
  · exact absurd hSame (number_ne hLess (by omega))
  · exact hEq
  · exact absurd hSame.symm (number_ne hLess (by omega))

end Semantics.CyclicWindow
