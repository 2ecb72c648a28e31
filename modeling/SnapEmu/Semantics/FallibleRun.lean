import SnapEmu.Semantics.Exec

/-! Runs of a system whose steps may fail: what each step keeps, and how far a
run gets. -/
namespace Semantics.Exec

variable {ε σ ι : Type} {step : σ → ι → Exec ε σ}

/-- A run keeps what its steps keep, unless it comes to an input that stops it. -/
theorem run_or_stops (Inv : List ι → σ → Prop) (Fine : ι → Prop) (Stops : σ → ι → Prop)
    (hStep : ∀ past state input, Inv past state → Fine input → ¬Stops state input →
      ∃ state', step state input = ok state' ∧ Inv (past ++ [input]) state')
    {inputs : List ι} (past : List ι) (state : σ) (hInv : Inv past state)
    (hFine : ∀ input ∈ inputs, Fine input) :
    (∃ state', inputs.foldlM step state = ok state' ∧ Inv (past ++ inputs) state') ∨
      ∃ before input after state', inputs = before ++ input :: after ∧
        before.foldlM step state = ok state' ∧ Stops state' input := by
  induction inputs generalizing past state with
  | nil => exact .inl ⟨state, rfl, by simpa using hInv⟩
  | cons input inputs ih =>
      by_cases hStops : Stops state input
      · exact .inr ⟨[], input, inputs, state, rfl, rfl, hStops⟩
      · obtain ⟨next, hNext, hKept⟩ := hStep past state input hInv (hFine input List.mem_cons_self)
          hStops
        have hRest : ∀ later ∈ inputs, Fine later :=
          fun later hLater => hFine later (List.mem_cons_of_mem _ hLater)
        rcases ih (past ++ [input]) next hKept hRest with
          ⟨last, hRun, hLast⟩ | ⟨before, stop, after, last, rfl, hRun, hStop⟩
        · refine .inl ⟨last, ?_, by simpa using hLast⟩
          rw [List.foldlM_cons, hNext, ok_bind, hRun]
        · refine .inr ⟨input :: before, stop, after, last, rfl, ?_, hStop⟩
          rw [List.foldlM_cons, hNext, ok_bind, hRun]

/-- An input that aborts its step aborts the run. -/
theorem run_aborts {before after : List ι} {input : ι} {state state' : σ}
    (hBefore : before.foldlM step state = ok state') (hAborts : step state' input = panic) :
    (before ++ input :: after).foldlM step state = panic := by
  induction before generalizing state with
  | nil =>
      cases hBefore
      rw [List.nil_append, List.foldlM_cons, hAborts]
      rfl
  | cons first before ih =>
      rw [List.foldlM_cons] at hBefore
      obtain ⟨next, hFirst, hRest⟩ := bind_eq_ok.mp hBefore
      rw [List.cons_append, List.foldlM_cons, hFirst, ok_bind, ih hRest]

/-- If an input that stops a run aborts it, a run that gets to its end keeps what
its steps keep. -/
theorem run_keeps (Inv : List ι → σ → Prop) (Fine : ι → Prop) (Stops : σ → ι → Prop)
    (hStep : ∀ past state input, Inv past state → Fine input → ¬Stops state input →
      ∃ state', step state input = ok state' ∧ Inv (past ++ [input]) state')
    (hAborts : ∀ state input, Stops state input → step state input = panic)
    {inputs : List ι} {state state' : σ} (hInv : Inv [] state)
    (hFine : ∀ input ∈ inputs, Fine input) (hRun : inputs.foldlM step state = ok state') :
    Inv inputs state' := by
  rcases run_or_stops Inv Fine Stops hStep [] state hInv hFine with
    ⟨last, hDone, hLast⟩ | ⟨before, input, after, last, rfl, hBefore, hStops⟩
  · rw [hRun, ok.injEq] at hDone
    exact hDone ▸ hLast
  · rw [run_aborts hBefore (hAborts last input hStops)] at hRun
    cases hRun

/-- A run that gets to its end keeps what its steps keep. -/
theorem run_yields (Inv : List ι → σ → Prop) (Fine : ι → Prop)
    (hStep : ∀ past state input, Inv past state → Fine input →
      (step state input).Yields (Inv (past ++ [input])))
    {inputs : List ι} (past : List ι) (state : σ) (hInv : Inv past state)
    (hFine : ∀ input ∈ inputs, Fine input) :
    (inputs.foldlM step state).Yields (Inv (past ++ inputs)) := by
  induction inputs generalizing past state with
  | nil => exact yields_ok (by simpa using hInv)
  | cons input inputs ih =>
      rw [List.foldlM_cons]
      refine (hStep past state input hInv (hFine input List.mem_cons_self)).bind
        fun next hNext => ?_
      have hRest := ih (past ++ [input]) next hNext fun later hLater =>
        hFine later (List.mem_cons_of_mem _ hLater)
      rwa [List.append_assoc, List.singleton_append] at hRest

/-- A run whose steps do not fail gets to its end. -/
theorem run_ok (Inv : List ι → σ → Prop) (Fine : ι → Prop)
    (hStep : ∀ past state input, Inv past state → Fine input →
      ∃ state', step state input = ok state' ∧ Inv (past ++ [input]) state')
    {inputs : List ι} (state : σ) (hInv : Inv [] state) (hFine : ∀ input ∈ inputs, Fine input) :
    ∃ state', inputs.foldlM step state = ok state' ∧ Inv inputs state' := by
  have hAll := run_or_stops Inv Fine (fun _ _ => False)
    (fun past state input hKept hGood _ => hStep past state input hKept hGood) [] state hInv hFine
  rcases hAll with hDone | ⟨_, _, _, _, _, _, hNever⟩
  · exact hDone
  · exact hNever.elim

end Semantics.Exec
