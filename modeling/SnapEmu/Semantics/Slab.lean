import Mathlib.Data.List.Nodup
import Mathlib.Order.Lattice
import Mathlib.Tactic.SplitIfs

/-! Tables of values under small keys: a new value takes the key freed last, or
the next one if no key is free. -/
namespace Semantics

/-- The free keys are the vacant places, each once. -/
structure Slab (α : Type*) where
  entries : List (Option α)
  free : List Nat
  hFree : ∀ key, key ∈ free ↔ entries[key]? = some none
  hNodup : free.Nodup

namespace Slab

variable {α : Type*}

def empty : Slab α where
  entries := []
  free := []
  hFree := by simp
  hNodup := List.nodup_nil

def get? (slab : Slab α) (key : Nat) : Option α := slab.entries[key]?.join

/-- The key of the next value. -/
def nextKey (slab : Slab α) : Nat := slab.free.headD slab.entries.length

def count (slab : Slab α) : Nat := slab.entries.countP Option.isSome

/-- A value that is present stands among the entries. -/
theorem getElem?_of_get? {slab : Slab α} {key : Nat} {value : α} (h : slab.get? key = some value) :
    slab.entries[key]? = some (some value) := by
  rw [get?] at h
  cases hEntry : slab.entries[key]? with
  | none => simp [hEntry] at h
  | some entry => simpa [hEntry] using h

/-- A key in use is within the entries. -/
theorem lt_of_get? {slab : Slab α} {key : Nat} {value : α} (h : slab.get? key = some value) :
    key < slab.entries.length :=
  (List.getElem?_eq_some_iff.mp (getElem?_of_get? h)).1

/-- A key in use is not free. -/
theorem notMem_free {slab : Slab α} {key : Nat} {value : α} (h : slab.get? key = some value) :
    key ∉ slab.free := by
  rw [slab.hFree, getElem?_of_get? h]
  simp

/-- The next key is not in use. -/
theorem get?_nextKey (slab : Slab α) : slab.get? slab.nextKey = none := by
  rw [get?, nextKey]
  cases hFree : slab.free with
  | nil => simp
  | cons key rest =>
      have hVacant := (slab.hFree key).mp (hFree ▸ List.mem_cons_self)
      rw [List.headD_cons, hVacant]
      rfl

def insert (slab : Slab α) (value : α) : Slab α :=
  match hKeys : slab.free with
  | [] =>
      { entries := slab.entries ++ [some value]
        free := []
        hFree := by
          intro key
          have hNone := slab.hFree key
          rw [hKeys] at hNone
          rw [List.getElem?_append]
          split_ifs with hOld
          · exact hNone
          · rw [List.getElem?_singleton]
            split_ifs <;> simp
        hNodup := List.nodup_nil }
  | key :: rest =>
      { entries := slab.entries.set key (some value)
        free := rest
        hFree := by
          intro other
          have hNodup := slab.hNodup
          have hOther := slab.hFree other
          rw [hKeys] at hNodup hOther
          rw [List.getElem?_set]
          by_cases hSame : key = other
          · subst hSame
            have hBound : key < slab.entries.length :=
              (List.getElem?_eq_some_iff.mp (hOther.mp List.mem_cons_self)).1
            simp [hBound, (List.nodup_cons.mp hNodup).1]
          · rw [if_neg hSame, ← hOther, List.mem_cons]
            exact ⟨Or.inr, fun h => h.resolve_left (Ne.symm hSame)⟩
        hNodup := by
          have hNodup := slab.hNodup
          rw [hKeys] at hNodup
          exact (List.nodup_cons.mp hNodup).2 }

/-- The value under a key in use, which becomes free. -/
def remove (slab : Slab α) (key : Nat) : Slab α :=
  match hEntry : slab.get? key with
  | none => slab
  | some value =>
      { entries := slab.entries.set key none
        free := key :: slab.free
        hFree := by
          intro other
          rw [List.getElem?_set, List.mem_cons]
          by_cases hSame : key = other
          · subst hSame
            simp [lt_of_get? hEntry]
          · rw [if_neg hSame, ← slab.hFree]
            exact ⟨fun h => h.resolve_left (Ne.symm hSame), Or.inr⟩
        hNodup := List.nodup_cons.mpr ⟨notMem_free hEntry, slab.hNodup⟩ }

/-- Change the value under a key, if there is one. -/
def modify (slab : Slab α) (key : Nat) (change : α → α) : Slab α where
  entries := slab.entries.modify key (Option.map change)
  free := slab.free
  hFree := by
    intro other
    rw [slab.hFree, List.getElem?_modify]
    cases slab.entries[other]? with
    | none => simp
    | some entry => cases entry <;> by_cases hSame : key = other <;> simp [hSame]
  hNodup := slab.hNodup

@[simp] theorem get?_empty (key : Nat) : (empty : Slab α).get? key = none := rfl

/-- Inserting fills the next key and leaves the others. -/
theorem get?_insert (slab : Slab α) (value : α) (key : Nat) :
    (slab.insert value).get? key = if key = slab.nextKey then some value else slab.get? key := by
  unfold insert
  split
  · rename_i hKeys
    have hKey : slab.nextKey = slab.entries.length := by rw [nextKey, hKeys, List.headD_nil]
    change (slab.entries ++ [some value])[key]?.join = _
    rw [hKey, get?, List.getElem?_append]
    split_ifs with hOld hSame hSame
    · omega
    · rfl
    · rw [List.getElem?_singleton, if_pos (by omega)]
      rfl
    · rw [List.getElem?_singleton, if_neg (by omega), List.getElem?_eq_none (Nat.not_lt.mp hOld)]
  · rename_i first rest hKeys
    have hBound : first < slab.entries.length :=
      (List.getElem?_eq_some_iff.mp ((slab.hFree first).mp (hKeys ▸ List.mem_cons_self))).1
    have hKey : slab.nextKey = first := by rw [nextKey, hKeys, List.headD_cons]
    change (slab.entries.set first (some value))[key]?.join = _
    rw [hKey, get?, List.getElem?_set]
    by_cases hSame : first = key
    · simp [hSame, hSame ▸ hBound]
    · rw [if_neg hSame, if_neg (Ne.symm hSame)]

/-- Removing clears one key and leaves the others. -/
theorem get?_remove (slab : Slab α) (removed key : Nat) :
    (slab.remove removed).get? key = if key = removed then none else slab.get? key := by
  unfold remove
  split
  · rename_i hNone
    split_ifs with hSame
    · rw [hSame, hNone]
    · rfl
  · change (slab.entries.set removed none)[key]?.join = _
    rw [get?, List.getElem?_set]
    by_cases hSame : removed = key
    · subst hSame
      rw [if_pos rfl, if_pos rfl]
      split_ifs <;> rfl
    · rw [if_neg hSame, if_neg (Ne.symm hSame)]

/-- Modifying changes one value and leaves the others. -/
theorem get?_modify (slab : Slab α) (changed key : Nat) (change : α → α) :
    (slab.modify changed change).get? key =
      if key = changed then (slab.get? key).map change else slab.get? key := by
  rw [get?, get?, modify, List.getElem?_modify]
  by_cases hSame : changed = key
  · subst hSame
    cases slab.entries[changed]? with
    | none => simp
    | some entry => cases entry <;> simp
  · rw [if_neg (Ne.symm hSame)]
    simp [hSame]

/-- There is nothing to change under a key that is not in use. -/
theorem modify_of_none {slab : Slab α} {key : Nat} (h : slab.get? key = none)
    (change : α → α) : slab.modify key change = slab := by
  have hEntries : slab.entries.modify key (Option.map change) = slab.entries := by
    refine List.ext_getElem? fun other => ?_
    rw [List.getElem?_modify]
    by_cases hSame : key = other
    · subst hSame
      rw [get?] at h
      cases hEntry : slab.entries[key]? with
      | none => rfl
      | some entry =>
          rw [hEntry, Option.join_some] at h
          simp [h]
    · simp [hSame]
  obtain ⟨entries, free, hFree, hNodup⟩ := slab
  unfold modify
  congr

/-- Inserting adds one value. -/
theorem count_insert (slab : Slab α) (value : α) : (slab.insert value).count = slab.count + 1 := by
  unfold insert
  split
  · change (slab.entries ++ [some value]).countP _ = _
    rw [List.countP_append]
    rfl
  · rename_i first rest hKeys
    have hVacant := (slab.hFree first).mp (hKeys ▸ List.mem_cons_self)
    obtain ⟨hBound, hEntry⟩ := List.getElem?_eq_some_iff.mp hVacant
    change (slab.entries.set first (some value)).countP _ = _
    rw [List.countP_set hBound, hEntry]
    rfl

/-- Removing a value that is present takes one away. -/
theorem count_remove {slab : Slab α} {key : Nat} {value : α} (h : slab.get? key = some value) :
    (slab.remove key).count + 1 = slab.count := by
  unfold remove
  split
  · rename_i hNone
    rw [h] at hNone
    cases hNone
  · rename_i value hEntry
    have hAt := getElem?_of_get? hEntry
    obtain ⟨hBound, hAt⟩ := List.getElem?_eq_some_iff.mp hAt
    have hPos : 0 < slab.entries.countP Option.isSome :=
      List.countP_pos_iff.mpr ⟨_, List.getElem_mem hBound, by rw [hAt]; rfl⟩
    change (slab.entries.set key none).countP _ + 1 = slab.entries.countP _
    rw [List.countP_set hBound, hAt]
    simp only [Option.isSome_some, Option.isSome_none, if_true, Bool.false_eq_true, if_false]
    omega

/-- Removing adds no value. -/
theorem count_remove_le (slab : Slab α) (key : Nat) : (slab.remove key).count ≤ slab.count := by
  cases hEntry : slab.get? key with
  | none =>
      have hSame : slab.remove key = slab := by
        unfold remove
        split
        · rfl
        · rename_i hSome
          rw [hEntry] at hSome
          cases hSome
      rw [hSame]
  | some value => exact (Nat.le_succ _).trans_eq (count_remove hEntry)

/-- Modifying keeps the number of values. -/
theorem count_modify (slab : Slab α) (key : Nat) (change : α → α) :
    (slab.modify key change).count = slab.count := by
  change (slab.entries.modify key (Option.map change)).countP _ = slab.entries.countP _
  induction slab.entries generalizing key with
  | nil => rw [List.modify_nil]
  | cons entry entries ih =>
      cases key with
      | zero => simp [List.countP_cons]
      | succ key => simp [List.countP_cons, ih]

end Slab
end Semantics
