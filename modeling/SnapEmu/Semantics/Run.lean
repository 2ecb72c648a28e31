import Mathlib.Data.List.Basic

/-! Runs of a system that takes one step for each input, and properties kept
by runs whose steps all meet a condition. -/
namespace Semantics

variable {σ ι : Type*}

def run (step : σ → ι → σ) (state : σ) (inputs : List ι) : σ := inputs.foldl step state

/-- Each input meets the condition in the state in which it is processed. -/
def Meets (step : σ → ι → σ) (condition : σ → ι → Prop) : σ → List ι → Prop
  | _, [] => True
  | state, input :: inputs =>
      condition state input ∧ Meets step condition (step state input) inputs

/-- A decidable condition can be checked along a run. -/
def decideMeets {step : σ → ι → σ} {condition : σ → ι → Prop}
    (hDecidable : ∀ state input, Decidable (condition state input)) :
    ∀ state inputs, Decidable (Meets step condition state inputs)
  | _, [] => .isTrue trivial
  | state, input :: inputs =>
      @instDecidableAnd _ _ (hDecidable state input)
        (decideMeets hDecidable (step state input) inputs)

instance {step : σ → ι → σ} {condition : σ → ι → Prop}
    [hDecidable : ∀ state input, Decidable (condition state input)] (state : σ)
    (inputs : List ι) : Decidable (Meets step condition state inputs) :=
  decideMeets hDecidable state inputs

variable {step : σ → ι → σ} {condition : σ → ι → Prop} {Inv : σ → Prop}

@[simp] theorem run_nil (state : σ) : run step state [] = state := rfl

@[simp] theorem run_cons (state : σ) (input : ι) (inputs : List ι) :
    run step state (input :: inputs) = run step (step state input) inputs := rfl

/-- A run over two lists is a run over the first and then over the second. -/
theorem run_append (state : σ) (first second : List ι) :
    run step state (first ++ second) = run step (run step state first) second := by
  simp [run]

@[simp] theorem meets_nil (state : σ) : Meets step condition state [] := trivial

@[simp] theorem meets_cons (state : σ) (input : ι) (inputs : List ι) :
    Meets step condition state (input :: inputs) ↔
      condition state input ∧ Meets step condition (step state input) inputs := Iff.rfl

/-- A run over two lists meets a condition when both parts do. -/
theorem meets_append {state : σ} {first second : List ι} :
    Meets step condition state (first ++ second) ↔
      Meets step condition state first ∧ Meets step condition (run step state first) second := by
  induction first generalizing state with
  | nil => simp
  | cons input first ih => rw [List.cons_append, meets_cons, meets_cons, ih, run_cons, and_assoc]

/-- The first steps of a run that meets the condition meet it. -/
theorem meets_take {state : σ} {inputs : List ι} (h : Meets step condition state inputs)
    (count : Nat) : Meets step condition state (inputs.take count) := by
  induction inputs generalizing state count with
  | nil => rw [List.take_nil]; trivial
  | cons input inputs ih =>
      cases count with
      | zero => trivial
      | succ count => exact ⟨h.1, ih h.2 count⟩

/-- An invariant of the steps that meet the condition holds at the end of
every run of such steps. -/
theorem run_invariant (hStep : ∀ state input, Inv state → condition state input →
      Inv (step state input)) :
    ∀ state inputs, Inv state → Meets step condition state inputs →
      Inv (run step state inputs) := by
  intro state inputs
  induction inputs generalizing state with
  | nil => intro hInv _; exact hInv
  | cons input inputs ih =>
      rintro hInv ⟨hCondition, hRest⟩
      exact ih (step state input) (hStep state input hInv hCondition) hRest

/-- What follows from the condition in states with the invariant is met too. -/
theorem meets_imp {other : σ → ι → Prop}
    (hStep : ∀ state input, Inv state → condition state input → Inv (step state input))
    (hOther : ∀ state input, Inv state → condition state input → other state input)
    (state : σ) (inputs : List ι) (hInv : Inv state) (h : Meets step condition state inputs) :
    Meets step other state inputs := by
  induction inputs generalizing state with
  | nil => trivial
  | cons input inputs ih =>
      obtain ⟨hCondition, hRest⟩ := h
      exact ⟨hOther state input hInv hCondition,
        ih (step state input) (hStep state input hInv hCondition) hRest⟩

/-- An invariant of all steps holds at the end of every run. -/
theorem run_always (hStep : ∀ state input, Inv state → Inv (step state input)) (state : σ)
    (inputs : List ι) (hInv : Inv state) : Inv (run step state inputs) := by
  induction inputs generalizing state with
  | nil => exact hInv
  | cons input inputs ih => exact ih (step state input) (hStep state input hInv)

/-- What no step changes, a run does not change. -/
theorem run_unchanged {α : Type*} (read : σ → α)
    (hStep : ∀ state input, read (step state input) = read state) (state : σ) (inputs : List ι) :
    read (run step state inputs) = read state := by
  induction inputs generalizing state with
  | nil => rfl
  | cons input inputs ih => exact (ih (step state input)).trans (hStep state input)

/-- If each step keeps a property exactly where it meets the condition, a run
keeps it exactly if all its steps do. -/
theorem run_iff_meets {Good : σ → Prop}
    (hStep : ∀ state input, Inv state → Inv (step state input))
    (hGood : ∀ state input, Inv state →
      (Good (step state input) ↔ Good state ∧ condition state input))
    (state : σ) (inputs : List ι) (hInv : Inv state) :
    Good (run step state inputs) ↔ Good state ∧ Meets step condition state inputs := by
  induction inputs generalizing state with
  | nil => simp
  | cons input inputs ih =>
      rw [run_cons, meets_cons, ih (step state input) (hStep state input hInv),
        hGood state input hInv, and_assoc]

/-- A property holds before the first step and after each. -/
def Along (step : σ → ι → σ) (Good : σ → Prop) (state : σ) (inputs : List ι) : Prop :=
  ∀ count, Good (run step state (inputs.take count))

theorem along_nil {Good : σ → Prop} (state : σ) :
    Along step Good state ([] : List ι) ↔ Good state := by
  simp [Along]

theorem along_cons {Good : σ → Prop} (state : σ) (input : ι) (inputs : List ι) :
    Along step Good state (input :: inputs) ↔
      Good state ∧ Along step Good (step state input) inputs := by
  constructor
  · intro h
    exact ⟨h 0, fun count => h (count + 1)⟩
  · intro h count
    cases count with
    | zero => exact h.1
    | succ count => exact h.2 count

/-- Where a good state is followed by a good one exactly if the step meets the
condition, a run is good throughout exactly if all its steps do. -/
theorem along_iff_meets {Good : σ → Prop}
    (hStep : ∀ state input, Inv state → Good state → condition state input →
      Inv (step state input))
    (hGood : ∀ state input, Inv state → Good state →
      (Good (step state input) ↔ condition state input))
    (state : σ) (inputs : List ι) (hInv : Inv state) (hStart : Good state) :
    Along step Good state inputs ↔ Meets step condition state inputs := by
  induction inputs generalizing state with
  | nil => simp [along_nil, hStart]
  | cons input inputs ih =>
      rw [along_cons, meets_cons]
      constructor
      · intro h
        have hNext : Good (step state input) := h.2 0
        have hCondition := (hGood state input hInv hStart).mp hNext
        exact ⟨hCondition,
          (ih _ (hStep state input hInv hStart hCondition) hNext).mp h.2⟩
      · intro h
        have hNext := (hGood state input hInv hStart).mpr h.1
        exact ⟨hStart, (ih _ (hStep state input hInv hStart h.1) hNext).mpr h.2⟩

end Semantics
