import Mathlib.Data.List.Basic

/-! Contiguous blocks of a list, by start and stop position. Blocks compose
and split, which is how cursor arithmetic is related to concatenation. -/
namespace Semantics

variable {α : Type*} {items : List α} {start stop : Nat}

/-- `items[start..stop]` is inside the list and equals `block`. -/
def Block (items : List α) (start stop : Nat) (block : List α) : Prop :=
  start ≤ stop ∧ stop ≤ items.length ∧ (items.drop start).take (stop - start) = block

namespace Block

/-- A block is as long as its bounds say. -/
theorem stop_eq {block : List α} (h : Block items start stop block) :
    stop = start + block.length ∧ stop ≤ items.length := by
  obtain ⟨hOrder, hBound, rfl⟩ := h
  simp only [List.length_take, List.length_drop]
  omega

/-- A block up to the end is a suffix. -/
theorem suffix {block : List α} :
    Block items start items.length block ↔ start ≤ items.length ∧ items.drop start = block := by
  unfold Block
  rw [List.take_of_length_le (by simp)]
  simp

/-- The block from the first to the last position is the whole list. -/
theorem whole {block : List α} : Block items 0 items.length block ↔ items = block := by
  simp [suffix]

/-- Two adjacent blocks make up the block that spans both. -/
theorem append {first second : List α} :
    Block items start stop (first ++ second) ↔
      Block items start (start + first.length) first ∧
      Block items (start + first.length) stop second := by
  unfold Block
  constructor
  · rintro ⟨hOrder, hBound, hBlock⟩
    have hLength := congrArg List.length hBlock
    simp only [List.length_take, List.length_drop, List.length_append] at hLength
    have hSplit : stop - start = first.length + second.length := by omega
    rw [hSplit, List.take_add, List.drop_drop] at hBlock
    obtain ⟨hFirst, hSecond⟩ := List.append_inj hBlock (by simp; omega)
    refine ⟨⟨by omega, by omega, by simpa using hFirst⟩, by omega, hBound, ?_⟩
    rwa [show stop - (start + first.length) = second.length by omega]
  · rintro ⟨⟨_, _, hFirst⟩, hOrder, hBound, hSecond⟩
    refine ⟨by omega, hBound, ?_⟩
    rw [show stop - start = first.length + (stop - (start + first.length)) by omega,
      List.take_add, List.drop_drop, hSecond]
    simpa using hFirst

/-- An empty block at a valid position. -/
theorem nil : Block items start stop [] ↔ start = stop ∧ stop ≤ items.length := by
  constructor
  · intro h
    have hStop := h.stop_eq
    simp only [List.length_nil] at hStop
    omega
  · rintro ⟨rfl, hBound⟩
    exact ⟨Nat.le_refl _, hBound, by simp⟩

/-- A block of one item is the item at its position. -/
theorem singleton {item : α} :
    Block items start stop [item] ↔ stop = start + 1 ∧ items[start]? = some item := by
  constructor
  · intro h
    obtain ⟨hStop, hBound⟩ := h.stop_eq
    have hLt : start < items.length := by simp only [List.length_singleton] at hStop; omega
    obtain ⟨_, _, hBlock⟩ := h
    simp only [List.length_singleton] at hStop
    subst hStop
    rw [List.drop_eq_getElem_cons hLt] at hBlock
    simp only [Nat.add_sub_cancel_left, List.take_succ_cons, List.take_zero, List.cons.injEq,
      and_true] at hBlock
    exact ⟨rfl, by rw [List.getElem?_eq_getElem hLt, hBlock]⟩
  · rintro ⟨rfl, hItem⟩
    obtain ⟨hLt, rfl⟩ := List.getElem?_eq_some_iff.mp hItem
    refine ⟨by omega, by omega, ?_⟩
    rw [List.drop_eq_getElem_cons hLt, Nat.add_sub_cancel_left, List.take_succ_cons,
      List.take_zero]

/-- The first element of a block stands at its start. -/
theorem cons {item : α} {rest : List α} :
    Block items start stop (item :: rest) ↔
      items[start]? = some item ∧ Block items (start + 1) stop rest := by
  have hSplit : Block items start stop ([item] ++ rest) ↔ _ := append
  simpa [singleton] using hSplit

/-- The block at a position is determined by its bounds. -/
theorem unique {first second : List α} (hFirst : Block items start stop first)
    (hSecond : Block items start stop second) : first = second :=
  hFirst.2.2.symm.trans hSecond.2.2

end Block
end Semantics
