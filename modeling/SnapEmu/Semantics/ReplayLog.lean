import Mathlib.Order.Defs.PartialOrder

/-! Replay protection by a high mark. A log of accepted counters, the latest
first, repeats a counter only within a window, and every counter new to it
raises the mark, from the initial one on. -/
namespace Semantics.ReplayLog

/-- An acceptance: its time, the counter, and the mark stored with it. -/
structure Entry (C : Type*) where
  time : Nat
  counter : C
  stored : C
  deriving DecidableEq

variable {C : Type*} [PartialOrder C]

/-- No counter comes twice outside the window, and each new one stores a mark
above the initial one and above all stored before. -/
def Protected (window : Nat) (initial : C) : List (Entry C) → Prop
  | [] => True
  | entry :: earlier =>
      Protected window initial earlier ∧
        (∀ other ∈ earlier, other.counter = entry.counter → entry.time < other.time + window) ∧
        ((∀ other ∈ earlier, other.counter ≠ entry.counter) →
          initial < entry.stored ∧ ∀ other ∈ earlier, other.stored < entry.stored)

/-- A protected log with its mark, and the time the mark was raised to it;
none while the mark is the initial one. -/
structure Marked (window : Nat) (initial mark : C) (raised : Option Nat)
    (log : List (Entry C)) : Prop where
  protects : Protected window initial log
  above : initial ≤ mark
  below : ∀ entry ∈ log, entry.counter ≤ mark
  stored : ∀ entry ∈ log, entry.stored = entry.counter
  logged : ∀ time, raised = some time → ∃ entry ∈ log, entry.counter = mark
  since : ∀ time, raised = some time → ∀ entry ∈ log, entry.counter = mark → time ≤ entry.time

variable {window time : Nat} {initial mark counter : C} {raised : Option Nat}
  {log : List (Entry C)}

theorem marked_nil (window : Nat) (mark : C) : Marked window mark mark none [] where
  protects := trivial
  above := le_refl mark
  below := by simp
  stored := by simp
  logged := by simp
  since := by simp

/-- A counter above the mark becomes the mark. -/
theorem Marked.advance (h : Marked window initial mark raised log) (hAbove : mark < counter) :
    Marked window initial counter (some time) (⟨time, counter, counter⟩ :: log) := by
  have hLess : ∀ other ∈ log, other.counter < counter := fun other hOther =>
    lt_of_le_of_lt (h.below other hOther) hAbove
  constructor
  · refine ⟨h.protects, fun other hOther hSame => ?_, fun _ => ⟨?_, fun other hOther => ?_⟩⟩
    · exact absurd hSame (ne_of_lt (hLess other hOther))
    · exact lt_of_le_of_lt h.above hAbove
    · rw [h.stored other hOther]
      exact hLess other hOther
  · exact le_of_lt (lt_of_le_of_lt h.above hAbove)
  · intro entry hEntry
    rcases List.mem_cons.mp hEntry with rfl | hOld
    · exact le_refl _
    · exact le_of_lt (hLess entry hOld)
  · intro entry hEntry
    rcases List.mem_cons.mp hEntry with rfl | hOld
    · rfl
    · exact h.stored entry hOld
  · exact fun _ _ => ⟨_, List.mem_cons_self, rfl⟩
  · intro _ hRaised entry hEntry hSame
    cases hRaised
    rcases List.mem_cons.mp hEntry with rfl | hOld
    · exact Nat.le_refl _
    · exact absurd hSame (ne_of_lt (hLess entry hOld))

/-- The mark itself may come again within the window of its first time. -/
theorem Marked.repeat {first : Nat} (h : Marked window initial mark (some first) log)
    (hRecent : time < first + window) (hLate : first ≤ time) :
    Marked window initial mark (some first) (⟨time, mark, mark⟩ :: log) := by
  obtain ⟨known, hKnown, hMark⟩ := h.logged first rfl
  constructor
  · refine ⟨h.protects, fun other hOther hSame => ?_, fun hNew => absurd hMark (hNew known hKnown)⟩
    have hSince := h.since first rfl other hOther hSame
    change time < other.time + window
    omega
  · exact h.above
  · intro entry hEntry
    rcases List.mem_cons.mp hEntry with rfl | hOld
    · exact le_refl _
    · exact h.below entry hOld
  · intro entry hEntry
    rcases List.mem_cons.mp hEntry with rfl | hOld
    · rfl
    · exact h.stored entry hOld
  · exact fun _ _ => ⟨known, List.mem_cons_of_mem _ hKnown, hMark⟩
  · intro _ hRaised entry hEntry hSame
    cases hRaised
    rcases List.mem_cons.mp hEntry with rfl | hOld
    · exact hLate
    · exact h.since first rfl entry hOld hSame

end Semantics.ReplayLog
