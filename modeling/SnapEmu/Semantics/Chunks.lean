import Mathlib.Algebra.GroupWithZero.Nat
import Mathlib.Algebra.Order.BigOperators.Group.List
import Mathlib.Data.List.Induction
import Mathlib.Tactic.SplitIfs

/-! A stream cut into chunks as its items arrive: an item opens a new chunk
when the weight of the last one has reached a limit. -/
namespace Semantics.Chunks

variable {α : Type*} (weight : α → Nat) (limit : Nat)

def total (chunk : List α) : Nat := (chunk.map weight).sum

@[simp] theorem total_nil : total weight ([] : List α) = 0 := rfl

@[simp] theorem total_append (first second : List α) :
    total weight (first ++ second) = total weight first + total weight second := by
  simp [total]

@[simp] theorem total_singleton (item : α) : total weight [item] = weight item := by
  simp [total]

/-- The chunks that are closed, and the one that takes the next item. -/
structure Division (α : Type*) where
  closed : List (List α)
  last : List α
  deriving DecidableEq

namespace Division

def chunks (division : Division α) : List (List α) := division.closed ++ [division.last]

def push (division : Division α) (item : α) : Division α :=
  if limit ≤ total weight division.last then ⟨division.closed ++ [division.last], [item]⟩
  else ⟨division.closed, division.last ++ [item]⟩

end Division

def divide (items : List α) : Division α := items.foldl (Division.push weight limit) ⟨[], []⟩

@[simp] theorem divide_nil : divide weight limit ([] : List α) = ⟨[], []⟩ := rfl

/-- An item more is divided by pushing it onto the division. -/
theorem divide_append_singleton (items : List α) (item : α) :
    divide weight limit (items ++ [item]) =
      Division.push weight limit (divide weight limit items) item := by
  simp [divide]

/-- The chunks put together are the stream. -/
theorem flatten_chunks (items : List α) : (divide weight limit items).chunks.flatten = items := by
  induction items using List.reverseRecOn with
  | nil => rfl
  | append_singleton items item ih =>
      rw [Division.chunks, List.flatten_concat] at ih
      rw [divide_append_singleton, Division.push]
      split_ifs
      · rw [Division.chunks, List.flatten_concat, List.flatten_concat, ih]
      · rw [Division.chunks, List.flatten_concat, ← List.append_assoc, ih]

variable {weight limit}

/-- A closed chunk has reached the limit. -/
theorem limit_le_of_mem_closed {items chunk : List α}
    (h : chunk ∈ (divide weight limit items).closed) : limit ≤ total weight chunk := by
  induction items using List.reverseRecOn with
  | nil => simp at h
  | append_singleton items item ih =>
      rw [divide_append_singleton, Division.push] at h
      split_ifs at h with hFull
      · rcases List.mem_append.mp h with hOld | hLast
        · exact ih hOld
        · rw [List.mem_singleton.mp hLast]
          exact hFull
      · exact ih h

/-- A chunk is below the limit without its last item. -/
theorem dropLast_lt_limit (hLimit : 0 < limit) {items chunk : List α}
    (h : chunk ∈ (divide weight limit items).chunks) : total weight chunk.dropLast < limit := by
  induction items using List.reverseRecOn generalizing chunk with
  | nil =>
      rw [List.mem_singleton.mp h]
      exact hLimit
  | append_singleton items item ih =>
      rw [divide_append_singleton, Division.push] at h
      split_ifs at h with hFull
      · rcases List.mem_append.mp h with hOld | hLast
        · exact ih hOld
        · rw [List.mem_singleton.mp hLast]
          exact hLimit
      · rcases List.mem_append.mp h with hOld | hLast
        · exact ih (List.mem_append_left _ hOld)
        · rw [List.mem_singleton.mp hLast, List.dropLast_concat]
          exact not_le.mp hFull

/-- Once the stream has an item, no chunk is empty. -/
theorem ne_nil_of_mem_chunks (hLimit : 0 < limit) {items chunk : List α} (hItems : items ≠ [])
    (h : chunk ∈ (divide weight limit items).chunks) : chunk ≠ [] := by
  induction items using List.reverseRecOn generalizing chunk with
  | nil => exact absurd rfl hItems
  | append_singleton items item ih =>
      rw [divide_append_singleton, Division.push] at h
      split_ifs at h with hFull
      · have hSome : items ≠ [] := by
          rintro rfl
          exact absurd hFull (not_le.mpr hLimit)
        rcases List.mem_append.mp h with hOld | hLast
        · exact ih hSome hOld
        · rw [List.mem_singleton.mp hLast]
          exact List.cons_ne_nil _ _
      · rcases List.mem_append.mp h with hOld | hLast
        · have hSome : items ≠ [] := by
            rintro rfl
            simp at hOld
          exact ih hSome (List.mem_append_left _ hOld)
        · rw [List.mem_singleton.mp hLast]
          exact List.append_ne_nil_of_right_ne_nil _ (List.cons_ne_nil _ _)

/-- Pushing closes at most one chunk and reopens none. -/
theorem length_closed_le_push (division : Division α) (item : α) :
    division.closed.length ≤ (Division.push weight limit division item).closed.length := by
  rw [Division.push]
  split_ifs
  · simp
  · exact le_refl _

/-- A new item leaves the closed chunks as they are. -/
theorem take_chunks_push (division : Division α) (item : α) {count : Nat}
    (h : count ≤ division.closed.length) :
    (Division.push weight limit division item).chunks.take count = division.chunks.take count := by
  rw [Division.push]
  split_ifs
  · simp only [Division.chunks, List.append_assoc]
    rw [List.take_append_of_le_length h, List.take_append_of_le_length h]
  · rw [Division.chunks, Division.chunks, List.take_append_of_le_length h,
      List.take_append_of_le_length h]

/-- The place in the stream where a chunk starts. -/
def offset (chunks : List (List α)) (number : Nat) : Nat := (chunks.take number).flatten.length

/-- Later chunks begin at later offsets. -/
theorem offset_mono (chunks : List (List α)) {number later : Nat} (h : number ≤ later) :
    offset chunks number ≤ offset chunks later := by
  have hSplit : chunks.take later = chunks.take number ++ (chunks.take later).drop number := by
    rw [← Nat.min_eq_left h, ← List.take_take, Nat.min_eq_left h, List.take_append_drop]
  rw [offset, offset, hSplit, List.flatten_append, List.length_append]
  exact Nat.le_add_right _ _

/-- Pushing leaves the offsets of the closed chunks and of the active one. -/
theorem offset_push {division : Division α} (item : α) {number : Nat}
    (h : number ≤ division.closed.length) :
    offset (Division.push weight limit division item).chunks number =
      offset division.chunks number := by
  rw [offset, take_chunks_push division item h, offset]

/-- The chunk that takes an item starts in front of it. -/
theorem offset_push_last_le (division : Division α) (item : α) :
    offset (Division.push weight limit division item).chunks
        (Division.push weight limit division item).closed.length ≤
      division.chunks.flatten.length := by
  rw [offset, Division.push]
  split_ifs
  · simp [Division.chunks]
  · simp [Division.chunks]

/-- Chunks behind the one that was last start behind what was there. -/
theorem length_le_offset_push (weight : α → Nat) (limit : Nat) (division : Division α) (item : α)
    {number : Nat} (h : division.closed.length < number) :
    division.chunks.flatten.length ≤
      offset (Division.push weight limit division item).chunks number := by
  refine le_trans ?_ (offset_mono _ (Nat.succ_le_of_lt h))
  rw [offset, Division.push]
  split_ifs
  · have hTake :
        (division.closed ++ [division.last] ++ [[item]]).take (division.closed.length + 1) =
        division.closed ++ [division.last] := List.take_left' (by simp)
    rw [Division.chunks, Division.chunks, hTake]
  · rw [Division.chunks, Division.chunks, List.take_of_length_le (by simp)]
    simp only [List.flatten_concat, List.length_append]
    omega

end Semantics.Chunks
