import Mathlib.Data.List.Induction
import SnapEmu.Semantics.Exec

/-! Cursor loops. A loop that advances a cursor over a list, one encoded
element a round, reads exactly the encoded lists of elements. An element at
the very end of the list may have to meet a further condition. -/
namespace Semantics

open Exec

universe u v w

variable {ε : Type u} {α : Type*} {τ : Type w} {ρ : Type v}

/-- `body` reads one element a round, folds it into the accumulator, and
breaks at the end of the list. Elements ending the list satisfy `Final`. -/
structure CursorLoop (items : List α) (body : Nat × ρ → Exec ε ((Nat × ρ) ⊕ ρ))
    (encode : τ → List α) (apply : ρ → τ → ρ) (Final : τ → Prop) : Prop where
  encode_ne_nil : ∀ element, encode element ≠ []
  next : ∀ {pos stop r r'}, Next body (pos, r) (stop, r') ↔
    ∃ element, Block items pos stop (encode element) ∧
      (stop < items.length ∨ Final element) ∧ r' = apply r element
  break_iff : ∀ {pos r r'}, pos ≤ items.length →
    (body (pos, r) = ok (.inr r') ↔ pos = items.length ∧ r' = r)
  ne_diverge : ∀ state, body state ≠ diverge

namespace CursorLoop

variable {items : List α} {body : Nat × ρ → Exec ε ((Nat × ρ) ⊕ ρ)} {encode : τ → List α}
  {apply : ρ → τ → ρ} {Final : τ → Prop} {pos stop fuel : Nat} {r r' : ρ}

/-- The elements read along a chain of rounds, in order. -/
theorem chain (h : CursorLoop items body encode apply Final) (hPos : pos ≤ items.length) :
    Relation.ReflTransGen (Next body) (pos, r) (stop, r') ↔
      ∃ elements : List τ, Block items pos stop (elements.flatMap encode) ∧
        (stop < items.length ∨ ∀ element ∈ elements.getLast?, Final element) ∧
        r' = elements.foldl apply r := by
  constructor
  · intro hChain
    generalize hLast : (stop, r') = last at hChain
    induction hChain generalizing stop r' with
    | refl =>
        cases hLast
        exact ⟨[], Block.nil.mpr ⟨rfl, hPos⟩, by simp, rfl⟩
    | @tail middle last _ hNext ih =>
        subst hLast
        obtain ⟨elements, hElements, _, hMiddle⟩ := ih rfl
        obtain ⟨element, hElement, hFinal, rfl⟩ := h.next.mp hNext
        refine ⟨elements ++ [element], ?_, by simpa using hFinal, by simp [hMiddle]⟩
        obtain ⟨hStop, _⟩ := hElements.stop_eq
        rw [List.flatMap_append, Block.append, ← hStop]
        exact ⟨hElements, by simpa using hElement⟩
  · rintro ⟨elements, hBlock, hFinal, rfl⟩
    induction elements using List.reverseRecOn generalizing stop with
    | nil =>
        obtain ⟨rfl, _⟩ := Block.nil.mp hBlock
        exact .refl
    | append_singleton elements element ih =>
        rw [List.flatMap_append, Block.append] at hBlock
        obtain ⟨hElements, hElement⟩ := hBlock
        simp only [List.flatMap_cons, List.flatMap_nil, List.append_nil] at hElement
        have hStop := hElement.stop_eq
        have hLength := List.length_pos_iff.mpr (h.encode_ne_nil element)
        refine .tail (ih hElements (Or.inl (by omega)))
          (h.next.mpr ⟨element, hElement, ?_, by simp⟩)
        simpa using hFinal

/-- Every round moves the cursor, so the loop ends. -/
theorem loop_ne_diverge (h : CursorLoop items body encode apply Final)
    (hFuel : items.length - pos < fuel) : loop body fuel (pos, r) ≠ diverge := by
  refine Exec.loop_ne_diverge (fun _ => True) (fun state => items.length - state.1)
    (fun state _ => h.ne_diverge state) ?_ fuel (pos, r) trivial hFuel
  rintro ⟨first, r⟩ ⟨second, r'⟩ _ hNext
  obtain ⟨element, hElement, _⟩ := h.next.mp hNext
  have hStop := hElement.stop_eq
  have hLength := List.length_pos_iff.mpr (h.encode_ne_nil element)
  exact ⟨trivial, by dsimp only; omega⟩

/-- The loop accepts exactly the encoded lists. -/
theorem loop_eq_ok (h : CursorLoop items body encode apply Final) (hPos : pos ≤ items.length)
    (hFuel : items.length - pos < fuel) :
    loop body fuel (pos, r) = ok r' ↔
      ∃ elements : List τ, Block items pos items.length (elements.flatMap encode) ∧
        (∀ element ∈ elements.getLast?, Final element) ∧ r' = elements.foldl apply r := by
  rw [Exec.loop_eq_ok (h.loop_ne_diverge hFuel)]
  constructor
  · rintro ⟨⟨stop, last⟩, hChain, hBreak⟩
    obtain ⟨elements, hElements, hFinal, rfl⟩ := (h.chain hPos).mp hChain
    obtain ⟨rfl, rfl⟩ := (h.break_iff hElements.stop_eq.2).mp hBreak
    exact ⟨elements, hElements, by simpa using hFinal, rfl⟩
  · rintro ⟨elements, hElements, hFinal, rfl⟩
    exact ⟨_, (h.chain hPos).mpr ⟨elements, hElements, Or.inr hFinal, rfl⟩,
      (h.break_iff (Nat.le_refl _)).mpr ⟨rfl, rfl⟩⟩

/-- The loop aborts exactly in a round that aborts behind an encoded list. -/
theorem loop_eq_panic (h : CursorLoop items body encode apply Final) (hPos : pos ≤ items.length)
    (hFuel : items.length - pos < fuel) :
    loop body fuel (pos, r) = panic ↔
      ∃ (elements : List τ) (stop : Nat), Block items pos stop (elements.flatMap encode) ∧
        (stop < items.length ∨ ∀ element ∈ elements.getLast?, Final element) ∧
        body (stop, elements.foldl apply r) = panic := by
  rw [Exec.loop_eq_panic (h.loop_ne_diverge hFuel)]
  constructor
  · rintro ⟨⟨stop, last⟩, hChain, hPanic⟩
    obtain ⟨elements, hElements, hFinal, rfl⟩ := (h.chain hPos).mp hChain
    exact ⟨elements, stop, hElements, hFinal, hPanic⟩
  · rintro ⟨elements, stop, hElements, hFinal, hPanic⟩
    exact ⟨_, (h.chain hPos).mpr ⟨elements, hElements, hFinal, rfl⟩, hPanic⟩

end CursorLoop
end Semantics
