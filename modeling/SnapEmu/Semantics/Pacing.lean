import Mathlib.Data.List.Basic
import Mathlib.Order.Basic

/-! Requests that are each granted the first instant that is not before the
request and keeps a gap to the grant before it. -/
namespace Semantics.Pacing

variable {gap : Nat}

def grant (gap : Nat) : Option Nat → Nat → Nat
  | none, now => now
  | some last, now => max now (last + gap)

/-- The grants of a sequence of requests, after a last one. -/
def grants (gap : Nat) : Option Nat → List Nat → List Nat
  | _, [] => []
  | last, now :: rest => grant gap last now :: grants gap (some (grant gap last now)) rest

@[simp] theorem grants_nil (last : Option Nat) : grants gap last [] = [] := rfl

/-- No grant lies before its request. -/
theorem le_grant (last : Option Nat) (now : Nat) : now ≤ grant gap last now := by
  cases last with
  | none => exact Nat.le_refl now
  | some last => exact Nat.le_max_left now (last + gap)

/-- A grant keeps the gap to the last one. -/
theorem add_le_grant (last now : Nat) : last + gap ≤ grant gap (some last) now :=
  Nat.le_max_right now (last + gap)

/-- Whatever is granted later keeps the gap to what was granted last. -/
theorem add_le_of_mem {last instant : Nat} {requests : List Nat}
    (h : instant ∈ grants gap (some last) requests) : last + gap ≤ instant := by
  induction requests generalizing last with
  | nil => simp at h
  | cons now rest ih =>
      have hFirst : last + gap ≤ grant gap (some last) now := add_le_grant last now
      rw [grants, List.mem_cons] at h
      rcases h with rfl | hRest
      · exact hFirst
      · have hLater := ih hRest
        omega

/-- Any two grants are at least the gap apart. -/
theorem grants_spaced (last : Option Nat) (requests : List Nat) :
    (grants gap last requests).Pairwise fun earlier later => earlier + gap ≤ later := by
  induction requests generalizing last with
  | nil => exact .nil
  | cons now rest ih =>
      rw [grants]
      exact .cons (fun later hLater => add_le_of_mem hLater) (ih _)

/-- Each grant lies at or after its request. -/
theorem grants_after (last : Option Nat) (requests : List Nat) :
    List.Forall₂ (· ≤ ·) requests (grants gap last requests) := by
  induction requests generalizing last with
  | nil => exact .nil
  | cons now rest ih => exact .cons (le_grant last now) (ih _)

end Semantics.Pacing
