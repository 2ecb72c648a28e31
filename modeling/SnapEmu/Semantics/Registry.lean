import Mathlib.Logic.Function.Basic

/-! A table of slots, and owners that rely on finding themselves in theirs. -/
namespace Semantics.Registry

variable {κ ω : Type*} {slots : κ → Option ω} {live live' : ω → κ → Prop}

/-- Every owner that relies on a slot is in it. -/
def Held (slots : κ → Option ω) (live : ω → κ → Prop) : Prop :=
  ∀ owner key, live owner key → slots key = some owner

/-- Owners may stop to rely on their slots. -/
theorem Held.mono (h : Held slots live) (hLive : ∀ owner key, live' owner key → live owner key) :
    Held slots live' := fun owner key hOwner => h owner key (hLive owner key hOwner)

/-- Two owners never rely on one slot. -/
theorem Held.unique (h : Held slots live) {first second : ω} {key : κ} (hFirst : live first key)
    (hSecond : live second key) : first = second :=
  Option.some.inj ((h first key hFirst).symm.trans (h second key hSecond))

/-- Every slot that is taken is relied on by the owner in it. -/
def Backed (slots : κ → Option ω) (live : ω → κ → Prop) : Prop :=
  ∀ key owner, slots key = some owner → live owner key

/-- Slots may be cleared, and owners may stop to rely on slots they are not in. -/
theorem Backed.shrink {slots' : κ → Option ω} (h : Backed slots live)
    (hKept : ∀ key owner, slots' key = some owner →
      slots key = some owner ∧ (live owner key → live' owner key)) : Backed slots' live' := by
  intro key owner hSlot
  obtain ⟨hBefore, hLive⟩ := hKept key owner hSlot
  exact hLive (h key owner hBefore)

/-- An owner that relies on a slot may enter it. -/
theorem Backed.enter [DecidableEq κ] (h : Backed slots live) {owner : ω} {key : κ}
    (hOwner : live' owner key)
    (hKept : ∀ other slot, live other slot → live' other slot) :
    Backed (Function.update slots key (some owner)) live' := by
  intro slot other hSlot
  by_cases hKey : slot = key
  · subst hKey
    rw [Function.update_self, Option.some.injEq] at hSlot
    exact hSlot ▸ hOwner
  · rw [Function.update_of_ne hKey] at hSlot
    exact hKept other slot (h slot other hSlot)

/-- A slot that nobody relies on is empty. -/
theorem Backed.free (h : Backed slots live) {key : κ} (hFree : ∀ owner, ¬live owner key) :
    slots key = none := by
  cases hSlot : slots key with
  | none => rfl
  | some owner => exact absurd (h key owner hSlot) (hFree owner)

/-- An owner that comes to rely on one slot may enter it, and slots may be
cleared, if no other relies on these. -/
theorem held_enter [DecidableEq κ] (h : Held slots live) {cleared own : κ → Prop}
    [DecidablePred cleared] {owner : ω} {key : κ}
    (hLive : ∀ other slot, live' other slot ↔
      (other = owner ∧ own slot) ∨ (other ≠ owner ∧ live other slot))
    (hOwn : ∀ slot, own slot → slot = key) :
    Held (Function.update (fun slot => if cleared slot then none else slots slot) key (some owner))
        live' ↔
      ∀ other slot, live other slot → cleared slot ∨ slot = key → other = owner := by
  constructor
  · intro hHeld other slot hOther hTaken
    by_contra hOwner
    have hSlot := hHeld other slot ((hLive other slot).mpr (.inr ⟨hOwner, hOther⟩))
    by_cases hKey : slot = key
    · rw [hKey, Function.update_self, Option.some.injEq] at hSlot
      exact hOwner hSlot.symm
    · rw [Function.update_of_ne hKey, if_pos (hTaken.resolve_right hKey)] at hSlot
      cases hSlot
  · intro hFree other slot hOther
    rcases (hLive other slot).mp hOther with ⟨rfl, hSlot⟩ | ⟨hOwner, hBefore⟩
    · rw [hOwn slot hSlot, Function.update_self]
    · have hNot : ¬(cleared slot ∨ slot = key) :=
        fun hTaken => hOwner (hFree other slot hBefore hTaken)
      rw [not_or] at hNot
      rw [Function.update_of_ne hNot.2, if_neg hNot.1]
      exact h other slot hBefore

/-- Slots may be cleared that no owner relies on. -/
theorem held_clear (h : Held slots live) {cleared : κ → Prop} [DecidablePred cleared] :
    Held (fun key => if cleared key then none else slots key) live ↔
      ∀ owner key, live owner key → ¬cleared key := by
  constructor
  · intro hHeld owner key hOwner hCleared
    have hSlot := hHeld owner key hOwner
    dsimp only at hSlot
    rw [if_pos hCleared] at hSlot
    cases hSlot
  · intro hKept owner key hOwner
    dsimp only
    rw [if_neg (hKept owner key hOwner)]
    exact h owner key hOwner

end Semantics.Registry
