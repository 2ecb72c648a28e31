import Mathlib.Data.List.Basic
import Mathlib.Data.List.Perm.Subperm
import Mathlib.Order.Lattice
import Mathlib.Tactic.SplitIfs

/-! A stream that grows at its end and forgets at its start, and readers that
follow it from the place where they join. -/
namespace Semantics.Feed

variable {α : Type*}

/-- The items from one place to before another. -/
def stretch (items : List α) (start stop : Nat) : List α := (items.drop start).take (stop - start)

/-- Adjacent stretches join. -/
theorem stretch_append (items : List α) {start middle stop : Nat} (hStart : start ≤ middle)
    (hStop : middle ≤ stop) :
    stretch items start middle ++ stretch items middle stop = stretch items start stop := by
  have hSum : stop - start = (middle - start) + (stop - middle) := by omega
  rw [stretch, stretch, stretch, hSum, List.take_add, List.drop_drop, Nat.add_sub_cancel' hStart]

/-- A stretch of a history stays as it is when the history grows. -/
theorem stretch_append_left {items : List α} {stop : Nat} (hStop : stop ≤ items.length)
    (start : Nat) (more : List α) :
    stretch (items ++ more) start stop = stretch items start stop := by
  by_cases hStart : start ≤ items.length
  · rw [stretch, List.drop_append_of_le_length hStart,
      List.take_append_of_le_length (by rw [List.length_drop]; omega), stretch]
  · rw [stretch, stretch, Nat.sub_eq_zero_of_le (by omega), List.take_zero, List.take_zero]

/-- The items of a stretch, by position. -/
theorem getElem?_stretch (items : List α) (start stop position : Nat) :
    (stretch items start stop)[position]? =
      if position < stop - start then items[start + position]? else none := by
  rw [stretch, List.getElem?_take, List.getElem?_drop]

/-- Taking some items from a position on is a stretch. -/
theorem take_drop_eq_stretch (items : List α) (start len : Nat) :
    (items.drop start).take len =
      stretch items start (start + ((items.drop start).take len).length) := by
  rw [stretch, Nat.add_sub_cancel_left, List.length_take, ← List.take_eq_take_min]

/-- A reader: where it joined, where it is, and what it received from where. -/
structure Reader (α : Type*) where
  since : Nat
  position : Nat
  received : List (α × Nat)

/-- All items, the first place that is not forgotten, and the readers. -/
structure State (α : Type*) where
  items : List α
  first : Nat
  readers : List (Reader α)

inductive Input (α : Type*) where
  | grow (item : α) (first : Nat)
  | join
  | read (number len : Nat)

namespace Reader

/-- What a read of at most `len` items takes. -/
def got (reader : Reader α) (items : List α) (first len : Nat) : List (α × Nat) :=
  (items.zipIdx.drop (max reader.position first)).take len

def read (items : List α) (first len : Nat) (reader : Reader α) : Reader α :=
  { reader with
    position := max reader.position first + (reader.got items first len).length
    received := reader.received ++ reader.got items first len }

/-- What a reader received is, in order and without repetition, what was there
since it joined, and only forgotten items may be missing. -/
structure Follows (items : List α) (first : Nat) (reader : Reader α) : Prop where
  joined : reader.since ≤ reader.position
  bound : reader.position ≤ items.length
  sublist : reader.received.Sublist (stretch items.zipIdx reader.since reader.position)
  complete : ∀ place item, reader.since ≤ place → place < reader.position → first ≤ place →
    items[place]? = some item → (item, place) ∈ reader.received

end Reader

namespace State

def empty : State α := ⟨[], 0, []⟩

def step (state : State α) : Input α → State α
  | .grow item first =>
      { state with
        items := state.items ++ [item]
        first := min (max state.first first) state.items.length }
  | .join =>
      { state with readers := state.readers ++ [⟨state.items.length, state.items.length, []⟩] }
  | .read number len =>
      { state with
        readers := state.readers.modify number (Reader.read state.items state.first len) }

structure Followed (state : State α) : Prop where
  bound : state.first ≤ state.items.length
  readers : ∀ reader ∈ state.readers, reader.Follows state.items state.first

end State

namespace Reader.Follows

variable {items : List α} {first len : Nat} {reader : Reader α}

/-- A reader that joins has missed nothing. -/
theorem join (items : List α) (first : Nat) :
    (⟨items.length, items.length, []⟩ : Reader α).Follows items first where
  joined := le_rfl
  bound := le_rfl
  sublist := List.nil_sublist _
  complete := by
    intro place item hSince hBefore
    exact absurd hSince (not_le.mpr hBefore)

/-- Items are added behind a reader, and forgotten. -/
theorem grow (h : reader.Follows items first) (item : α) {later : Nat} (hLater : first ≤ later) :
    reader.Follows (items ++ [item]) later where
  joined := h.joined
  bound := h.bound.trans (by simp)
  sublist := by
    rw [List.zipIdx_append, stretch_append_left (by simpa using h.bound)]
    exact h.sublist
  complete := by
    intro place value hSince hBefore hKept hItem
    rw [List.getElem?_append_left (hBefore.trans_le h.bound)] at hItem
    exact h.complete place value hSince hBefore (hLater.trans hKept) hItem

/-- An item at a place of the stretch belongs to it with that place. -/
theorem mem_stretch_zipIdx {start stop place : Nat} {item : α} (hStart : start ≤ place)
    (hStop : place < stop) (hItem : items[place]? = some item) :
    (item, place) ∈ stretch items.zipIdx start stop := by
  refine List.mem_of_getElem? (i := place - start) ?_
  rw [getElem?_stretch, if_pos (by omega), Nat.add_sub_cancel' hStart, List.getElem?_zipIdx, hItem,
    Option.map_some, Nat.zero_add]

/-- A reader goes on behind what it has, or behind what is forgotten. -/
theorem read (h : reader.Follows items first) (hFirst : first ≤ items.length) (len : Nat) :
    (reader.read items first len).Follows items first := by
  have hGot : reader.got items first len =
      stretch items.zipIdx (max reader.position first) (reader.read items first len).position :=
    take_drop_eq_stretch _ _ _
  have hStart : reader.position ≤ max reader.position first := le_max_left _ _
  have hStop : max reader.position first ≤ (reader.read items first len).position :=
    Nat.le_add_right _ _
  have hSkip := stretch_append items.zipIdx h.joined hStart
  have hAll := stretch_append items.zipIdx (h.joined.trans hStart) hStop
  refine ⟨h.joined.trans (hStart.trans hStop), ?_, ?_, ?_⟩
  · have hLength :
        (reader.got items first len).length ≤ items.length - max reader.position first := by
      rw [got, List.length_take, List.length_drop, List.length_zipIdx]
      exact Nat.min_le_right _ _
    have hBound := h.bound
    change max reader.position first + (reader.got items first len).length ≤ items.length
    omega
  · change (reader.received ++ reader.got items first len).Sublist
      (stretch items.zipIdx reader.since (reader.read items first len).position)
    rw [← hAll, ← hSkip, hGot]
    exact (h.sublist.trans (List.sublist_append_left _ _)).append (List.Sublist.refl _)
  · intro place item hSince hBefore hKept hItem
    change (item, place) ∈ reader.received ++ reader.got items first len
    by_cases hOld : place < reader.position
    · exact List.mem_append_left _ (h.complete place item hSince hOld hKept hItem)
    · refine List.mem_append_right _ ?_
      rw [hGot]
      exact mem_stretch_zipIdx (max_le (not_lt.mp hOld) hKept) hBefore hItem

/-- A reader that nothing was forgotten before received everything. -/
theorem received_eq (h : reader.Follows items first) (hKept : first ≤ reader.since) :
    reader.received = stretch items.zipIdx reader.since reader.position := by
  refine h.sublist.eq_of_length_le ?_
  have hNodup : (stretch items.zipIdx reader.since reader.position).Nodup := by
    have hPlaces : (items.zipIdx.map Prod.snd).Nodup := by
      rw [List.zipIdx_map_snd]
      exact List.nodup_range'
    have hEntries : items.zipIdx.Nodup :=
      List.Pairwise.of_map Prod.snd (fun _ _ hNe hEq => hNe (congrArg Prod.snd hEq)) hPlaces
    exact hEntries.sublist ((List.take_sublist _ _).trans (List.drop_sublist _ _))
  refine (hNodup.subperm ?_).length_le
  intro entry hEntry
  obtain ⟨position, hPosition⟩ := List.mem_iff_getElem?.mp hEntry
  rw [getElem?_stretch] at hPosition
  split_ifs at hPosition with hBefore
  rw [List.getElem?_zipIdx, Option.map_eq_some_iff] at hPosition
  obtain ⟨item, hItem, rfl⟩ := hPosition
  rw [Nat.zero_add]
  exact h.complete _ item (by omega) (by omega) (by omega) hItem

end Reader.Follows

namespace State

/-- At the start there is nothing to follow. -/
theorem followed_empty : (empty : State α).Followed where
  bound := le_rfl
  readers := by simp [empty]

/-- Every input keeps each reader following. -/
theorem Followed.step {state : State α} (h : state.Followed) (input : Input α) :
    (state.step input).Followed := by
  cases input with
  | grow item first =>
      refine ⟨?_, fun reader hReader => (h.readers reader hReader).grow item ?_⟩
      · change min (max state.first first) state.items.length ≤ (state.items ++ [item]).length
        rw [List.length_append]
        omega
      · exact le_min (le_max_left _ _) h.bound
  | join =>
      refine ⟨h.bound, fun reader hReader => ?_⟩
      rcases List.mem_append.mp hReader with hOld | hNew
      · exact h.readers reader hOld
      · rw [List.mem_singleton.mp hNew]
        exact Reader.Follows.join _ _
  | read number len =>
      refine ⟨h.bound, fun reader hReader => ?_⟩
      obtain ⟨position, hPosition⟩ := List.mem_iff_getElem?.mp hReader
      rw [State.step, List.getElem?_modify] at hPosition
      obtain ⟨old, hOld, rfl⟩ := Option.map_eq_some_iff.mp hPosition
      have hFollows := h.readers old (List.mem_of_getElem? hOld)
      split_ifs
      · exact hFollows.read h.bound len
      · exact hFollows

end State
end Semantics.Feed
