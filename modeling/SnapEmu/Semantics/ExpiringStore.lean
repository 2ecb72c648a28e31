import Mathlib.Logic.Function.Basic
import Mathlib.Tactic.SplitIfs

/-! A key-value store whose entries expire. The clock is a natural number
and only moves forward; an entry is readable up to its deadline. -/
namespace Semantics

structure ExpiringStore (κ ν : Type*) where
  now : Nat
  entries : κ → Option (ν × Nat)

namespace ExpiringStore

variable {κ ν : Type*}

/-- An empty store has an empty log. -/
def empty : ExpiringStore κ ν := ⟨0, fun _ => none⟩

/-- Time passing adds nothing to the log. -/
def advance (store : ExpiringStore κ ν) (time : Nat) : ExpiringStore κ ν :=
  { store with now := store.now + time }

/-- Write a value that lives for `lifetime` from now on. -/
def set [DecidableEq κ] (store : ExpiringStore κ ν) (key : κ) (value : ν) (lifetime : Nat) :
    ExpiringStore κ ν :=
  { store with entries := Function.update store.entries key (some (value, store.now + lifetime)) }

def delete [DecidableEq κ] (store : ExpiringStore κ ν) (key : κ) : ExpiringStore κ ν :=
  { store with entries := Function.update store.entries key none }

def get (store : ExpiringStore κ ν) (key : κ) : Option ν :=
  match store.entries key with
  | some (value, deadline) => if store.now ≤ deadline then some value else none
  | none => none

/-- A value stored is read back. -/
theorem get_set_self [DecidableEq κ] (store : ExpiringStore κ ν) (key : κ) (value : ν)
    (lifetime : Nat) : (store.set key value lifetime).get key = some value := by
  have hEntry : (store.set key value lifetime).entries key = some (value, store.now + lifetime) :=
    Function.update_self _ _ _
  rw [get, hEntry]
  exact if_pos (Nat.le_add_right _ _)

/-- Storing leaves the other keys. -/
theorem get_set_of_ne [DecidableEq κ] (store : ExpiringStore κ ν) {key other : κ} (value : ν)
    (lifetime : Nat) (h : other ≠ key) : (store.set key value lifetime).get other =
      store.get other := by
  have hEntry : (store.set key value lifetime).entries other = store.entries other :=
    Function.update_of_ne h _ _
  rw [get, get, hEntry]
  rfl

/-- Time may take an entry away but does not change it. -/
theorem get_advance (store : ExpiringStore κ ν) (time : Nat) (key : κ)
    (h : ((store.advance time).get key).isSome) :
    (store.advance time).get key = store.get key := by
  unfold get advance at h ⊢
  dsimp only at h ⊢
  cases hEntry : store.entries key with
  | none => rfl
  | some entry =>
      rw [hEntry] at h
      dsimp only at h ⊢
      by_cases hAlive : store.now + time ≤ entry.2
      · rw [if_pos hAlive, if_pos (Nat.le_trans (Nat.le_add_right _ _) hAlive)]
      · rw [if_neg hAlive] at h
        exact absurd h Bool.false_ne_true

/-- Deleting leaves the other keys. -/
theorem get_delete_of_ne [DecidableEq κ] (store : ExpiringStore κ ν) {key other : κ}
    (h : other ≠ key) : (store.delete key).get other = store.get other := by
  have hEntry : (store.delete key).entries other = store.entries other :=
    Function.update_of_ne h _ _
  rw [get, get, hEntry]
  rfl

/-- `log` lists every write so far, as key and time; all writes had the
same lifetime. -/
structure Logged (store : ExpiringStore κ ν) (lifetime : Nat) (log : List (κ × Nat)) : Prop where
  past : ∀ key time, (key, time) ∈ log → time ≤ store.now
  kept : ∀ key time, (key, time) ∈ log →
    ∃ value deadline, store.entries key = some (value, deadline) ∧ time + lifetime ≤ deadline
  written : ∀ key value deadline, store.entries key = some (value, deadline) →
    ∃ time, (key, time) ∈ log ∧ deadline = time + lifetime

namespace Logged

variable {store : ExpiringStore κ ν} {lifetime : Nat} {log : List (κ × Nat)}

theorem empty : Logged (ExpiringStore.empty : ExpiringStore κ ν) lifetime [] :=
  ⟨by simp, by simp, by simp [ExpiringStore.empty]⟩

theorem advance (h : Logged store lifetime log) (time : Nat) :
    Logged (store.advance time) lifetime log :=
  ⟨fun key written hLog => Nat.le_trans (h.past key written hLog) (Nat.le_add_right _ _), h.kept,
    h.written⟩

/-- A write extends the log by its key and the current time. -/
theorem set [DecidableEq κ] (h : Logged store lifetime log) (key : κ) (value : ν) :
    Logged (store.set key value lifetime) lifetime ((key, store.now) :: log) := by
  refine ⟨?_, ?_, ?_⟩
  · intro other time hLog
    rcases List.mem_cons.mp hLog with hNew | hOld
    · cases hNew
      exact Nat.le_refl _
    · exact h.past other time hOld
  · intro other time hLog
    by_cases hKey : other = key
    · subst hKey
      refine ⟨value, store.now + lifetime, by simp [ExpiringStore.set], ?_⟩
      rcases List.mem_cons.mp hLog with hNew | hOld
      · cases hNew
        exact Nat.le_refl _
      · exact Nat.add_le_add_right (h.past other time hOld) lifetime
    · rcases List.mem_cons.mp hLog with hNew | hOld
      · exact (hKey (congrArg Prod.fst hNew)).elim
      · simpa [ExpiringStore.set, hKey] using h.kept other time hOld
  · intro other stored deadline hEntry
    by_cases hKey : other = key
    · subst hKey
      simp only [ExpiringStore.set, Function.update_self, Option.some.injEq,
        Prod.mk.injEq] at hEntry
      exact ⟨store.now, List.mem_cons_self, hEntry.2.symm⟩
    · simp only [ExpiringStore.set, Function.update_of_ne hKey] at hEntry
      obtain ⟨time, hOld, hDeadline⟩ := h.written other stored deadline hEntry
      exact ⟨time, List.mem_cons_of_mem _ hOld, hDeadline⟩

/-- A key that was never written may be deleted. -/
theorem delete [DecidableEq κ] (h : Logged store lifetime log) {key : κ}
    (hKey : ∀ time, (key, time) ∉ log) : Logged (store.delete key) lifetime log := by
  refine ⟨h.past, ?_, ?_⟩
  · intro other time hLog
    have hOther : other ≠ key := fun hSame => hKey time (hSame ▸ hLog)
    simpa [ExpiringStore.delete, hOther] using h.kept other time hLog
  · intro other stored deadline hEntry
    by_cases hOther : other = key
    · simp [ExpiringStore.delete, hOther] at hEntry
    · simp only [ExpiringStore.delete, Function.update_of_ne hOther] at hEntry
      exact h.written other stored deadline hEntry

/-- A key is readable exactly while one of its writes is still alive. -/
theorem get_isSome (h : Logged store lifetime log) (key : κ) :
    (store.get key).isSome ↔ ∃ time, (key, time) ∈ log ∧ store.now ≤ time + lifetime := by
  unfold get
  constructor
  · intro hSome
    split at hSome
    · rename_i stored deadline hEntry
      obtain ⟨time, hLog, rfl⟩ := h.written key stored deadline hEntry
      split_ifs at hSome with hAlive
      · exact ⟨time, hLog, hAlive⟩
      · simp at hSome
    · simp at hSome
  · rintro ⟨time, hLog, hAlive⟩
    obtain ⟨value, deadline, hEntry, hDeadline⟩ := h.kept key time hLog
    simp [hEntry, Nat.le_trans hAlive hDeadline]

end Logged
end ExpiringStore
end Semantics
