import Mathlib.Logic.Basic

/-! Actions on a state that return a value, fail, or do not return, and rules
of pre- and postconditions for them. What an action has done before it fails
stays done, unless it runs within a transaction. -/
namespace Semantics

variable {σ ε α β : Type}

def Action (σ ε α : Type) : Type := σ → Option (σ × Except ε α)

namespace Action

instance : Monad (Action σ ε) where
  pure value := fun state => some (state, .ok value)
  bind action next := fun state =>
    match action state with
    | none => none
    | some (after, .ok value) => next value after
    | some (after, .error error) => some (after, .error error)

def get : Action σ ε σ := fun state => some (state, .ok state)

def modify (change : σ → σ) : Action σ ε Unit := fun state => some (change state, .ok ())

def throw (error : ε) : Action σ ε α := fun state => some (state, .error error)

def ofExcept : Except ε α → Action σ ε α
  | .ok value => pure value
  | .error error => throw error

def forEach (action : α → Action σ ε Unit) : List α → Action σ ε Unit
  | [] => pure ()
  | item :: items => do
      action item
      forEach action items

/-- A failure goes back to the state before, as far as the rollback reaches. -/
def transaction (rollback : σ → σ → σ) (action : Action σ ε α) : Action σ ε α := fun state =>
  match action state with
  | some (after, .error error) => some (rollback state after, .error error)
  | result => result

/-- The state an action leaves; one that does not return leaves none. -/
def after (action : Action σ ε α) (state : σ) : σ :=
  match action state with
  | none => state
  | some (after, _) => after

section

variable {action : Action σ ε α} {next : α → Action σ ε β} {state : σ}

theorem pure_apply (value : α) : (pure value : Action σ ε α) state = some (state, .ok value) := rfl

theorem bind_apply : (action >>= next) state =
    match action state with
    | none => none
    | some (after, .ok value) => next value after
    | some (after, .error error) => some (after, .error error) := rfl

theorem get_bind {next : σ → Action σ ε β} : (get >>= next) state = next state state := rfl

theorem modify_bind {change : σ → σ} {next : Unit → Action σ ε β} :
    (modify change >>= next) state = next () (change state) := rfl

/-- An action that panics leaves the state it started in. -/
theorem after_none (h : action state = none) : action.after state = state := by
  rw [after, h]

theorem after_eq {final : σ} {result : Except ε α} (h : action state = some (final, result)) :
    action.after state = final := by
  rw [after, h]

theorem bind_ok {middle : σ} {value : α} (h : action state = some (middle, .ok value)) :
    (action >>= next) state = next value middle := by
  rw [bind_apply, h]

/-- A result is a value or an error. -/
theorem except_cases (result : Except ε α) :
    (∃ error, result = .error error) ∨ ∃ value, result = .ok value := by
  cases result with
  | error error => exact .inl ⟨error, rfl⟩
  | ok value => exact .inr ⟨value, rfl⟩

theorem ofExcept_ok {result : Except ε α} {value : α} (h : result = .ok value) (state : σ) :
    ofExcept result state = some (state, .ok value) := by
  rw [h]
  rfl

theorem ofExcept_error {result : Except ε α} {error : ε} (h : result = .error error) (state : σ) :
    (ofExcept result : Action σ ε α) state = some (state, .error error) := by
  rw [h]
  rfl

theorem bind_error {middle : σ} {error : ε} (h : action state = some (middle, .error error)) :
    (action >>= next) state = some (middle, .error error) := by
  rw [bind_apply, h]

/-- A sequence returns a value exactly if both of its parts do. -/
theorem bind_eq_ok {final : σ} {result : β} :
    (action >>= next) state = some (final, .ok result) ↔
      ∃ middle value, action state = some (middle, .ok value) ∧
        next value middle = some (final, .ok result) := by
  rw [bind_apply]
  rcases action state with _ | ⟨middle, error | value⟩
  · simp
  · simp
  · simp [and_assoc]

/-- Returning the result changes nothing. -/
theorem bind_return : action >>= pure = action := by
  funext state
  rw [bind_apply]
  rcases action state with _ | ⟨after, error | value⟩ <;> rfl

/-- A transaction that succeeds leaves what its body left. -/
theorem after_transaction_ok {rollback : σ → σ → σ} {final : σ} {value : α}
    (h : action state = some (final, .ok value)) :
    (transaction rollback action).after state = final := by
  rw [after, transaction, h]

/-- A transaction that fails rolls its body back. -/
theorem after_transaction_error {rollback : σ → σ → σ} {reached : σ} {error : ε}
    (h : action state = some (reached, .error error)) :
    (transaction rollback action).after state = rollback state reached := by
  rw [after, transaction, h]

/-- A transaction succeeds exactly when its body does. -/
theorem transaction_ok {rollback : σ → σ → σ} {final : σ} {value : α} :
    transaction rollback action state = some (final, .ok value) ↔
      action state = some (final, .ok value) := by
  unfold transaction
  rcases action state with _ | ⟨middle, error | value⟩ <;> simp

/-- A transaction fails exactly when its body does, and rolls back. -/
theorem transaction_error {rollback : σ → σ → σ} {final : σ} {error : ε} :
    transaction rollback action state = some (final, .error error) ↔
      ∃ reached, action state = some (reached, .error error) ∧ rollback state reached = final := by
  unfold transaction
  rcases action state with _ | ⟨middle, error | value⟩
  · simp
  · constructor
    · intro h
      cases h
      exact ⟨middle, rfl, rfl⟩
    · intro h
      obtain ⟨reached, hReached, rfl⟩ := h
      cases hReached
      rfl
  · simp

end

/-- Actions each of which is done or refused, by an answer known before: all are
done, or those before the first refusal. -/
theorem forEach_answers {each : α → Action σ ε Unit} {answer : α → Except ε Unit}
    {step : σ → α → σ}
    (hDone : ∀ item state, answer item = .ok () → each item state = some (step state item, .ok ()))
    (hRefused : ∀ item state error, answer item = .error error →
      each item state = some (state, .error error)) (items : List α) (state : σ) :
    ((∀ item ∈ items, answer item = .ok ()) ∧
      forEach each items state = some (items.foldl step state, .ok ())) ∨
    (¬∀ item ∈ items, answer item = .ok ()) ∧ ∃ error, forEach each items state =
      some ((items.takeWhile fun item => (answer item).isOk).foldl step state, .error error) := by
  induction items generalizing state with
  | nil => exact .inl ⟨fun _ hItem => absurd hItem List.not_mem_nil, rfl⟩
  | cons item items ih =>
      cases hAnswer : answer item with
      | error error =>
          refine .inr ⟨fun h => ?_, error, ?_⟩
          · rw [h item List.mem_cons_self] at hAnswer
            cases hAnswer
          · rw [forEach, bind_error (hRefused item state error hAnswer),
              List.takeWhile_cons_of_neg (by rw [hAnswer]; exact Bool.false_ne_true)]
            rfl
      | ok _ =>
          rw [forEach, bind_ok (hDone item state hAnswer), List.foldl_cons,
            List.takeWhile_cons_of_pos (by rw [hAnswer]; rfl), List.foldl_cons]
          rcases ih (step state item) with ⟨hAll, hRun⟩ | ⟨hNot, hRun⟩
          · exact .inl ⟨List.forall_mem_cons.mpr ⟨hAnswer, hAll⟩, hRun⟩
          · exact .inr ⟨fun h => hNot (List.forall_mem_cons.mp h).2, hRun⟩

/-- From a state with the first property an action that returns a value leaves
the second, and one that fails the third. -/
def Triple (pre : σ → Prop) (action : Action σ ε α) (post : α → σ → Prop)
    (failed : ε → σ → Prop) : Prop :=
  ∀ state, pre state →
    match action state with
    | none => True
    | some (after, .ok value) => post value after
    | some (after, .error error) => failed error after

/-- An invariant of an action, also where it fails. -/
def Keeps (inv : σ → Prop) (action : Action σ ε α) : Prop :=
  Triple inv action (fun _ => inv) (fun _ => inv)

section

variable {pre : σ → Prop} {action : Action σ ε α} {post : α → σ → Prop} {failed : ε → σ → Prop}
  {next : α → Action σ ε β} {final : β → σ → Prop} {inv : σ → Prop}

theorem triple_pure {value : α} (h : ∀ state, pre state → post value state) :
    Triple pre (pure value : Action σ ε α) post failed := h

theorem triple_throw {error : ε} (h : ∀ state, pre state → failed error state) :
    Triple pre (throw error : Action σ ε α) post failed := h

/-- A known result changes no state. -/
theorem triple_ofExcept {value : Except ε α}
    (hFailed : ∀ error state, pre state → failed error state) :
    Triple pre (ofExcept value : Action σ ε α) (fun result state => value = .ok result ∧ pre state)
      failed := by
  cases value with
  | error error => exact hFailed error
  | ok result => exact fun state hState => ⟨rfl, hState⟩

theorem triple_modify {change : σ → σ} {post : Unit → σ → Prop}
    (h : ∀ state, pre state → post () (change state)) :
    Triple pre (modify change : Action σ ε Unit) post failed := h

/-- The sequence rule: what holds after the first action is required by the second. -/
theorem triple_bind (hFirst : Triple pre action post failed)
    (hNext : ∀ value, Triple (post value) (next value) final failed) :
    Triple pre (action >>= next) final failed := by
  intro state hPre
  have hAction := hFirst state hPre
  rw [bind_apply]
  rcases hRun : action state with _ | ⟨middle, error | value⟩ <;> rw [hRun] at hAction
  · trivial
  · exact hAction
  · exact hNext value middle hAction

/-- What is read is the state itself. -/
theorem triple_get {next : σ → Action σ ε β}
    (h : ∀ state, Triple (fun now => now = state ∧ pre now) (next state) final failed) :
    Triple pre (get >>= next) final failed := by
  intro state hPre
  exact h state state ⟨rfl, hPre⟩

/-- The consequence rule. -/
theorem triple_weaken {pre' : σ → Prop} {post' : α → σ → Prop} {failed' : ε → σ → Prop}
    (h : Triple pre action post failed) (hPre : ∀ state, pre' state → pre state)
    (hPost : ∀ value state, post value state → post' value state)
    (hFailed : ∀ error state, failed error state → failed' error state) :
    Triple pre' action post' failed' := by
  intro state hState
  have hAction := h state (hPre state hState)
  rcases hRun : action state with _ | ⟨after, error | value⟩ <;> rw [hRun] at hAction
  · trivial
  · exact hFailed error after hAction
  · exact hPost value after hAction

/-- A triple read off a run that succeeded. -/
theorem Triple.of_ok {state after : σ} {value : α} (h : Triple pre action post failed)
    (hPre : pre state) (hRun : action state = some (after, .ok value)) : post value after := by
  have hAction := h state hPre
  rw [hRun] at hAction
  exact hAction

/-- A triple read off a run that failed. -/
theorem Triple.of_error {state after : σ} {error : ε} (h : Triple pre action post failed)
    (hPre : pre state) (hRun : action state = some (after, .error error)) :
    failed error after := by
  have hAction := h state hPre
  rw [hRun] at hAction
  exact hAction

/-- A condition that the state does not decide may be assumed. -/
theorem triple_of_fact {fact : Prop} (h : fact → Triple pre action post failed) :
    Triple (fun state => fact ∧ pre state) action post failed :=
  fun state hState => h hState.1 state hState.2

theorem keeps_pure (value : α) : Keeps inv (pure value : Action σ ε α) := fun _ h => h

theorem keeps_throw (error : ε) : Keeps inv (throw error : Action σ ε α) := fun _ h => h

theorem keeps_ofExcept (value : Except ε α) : Keeps inv (ofExcept value : Action σ ε α) := by
  cases value with
  | error error => exact keeps_throw error
  | ok value => exact keeps_pure value

theorem keeps_modify {change : σ → σ} (h : ∀ state, inv state → inv (change state)) :
    Keeps inv (modify change : Action σ ε Unit) := h

/-- A sequence keeps an invariant when both parts do. -/
theorem keeps_bind (hFirst : Keeps inv action) (hNext : ∀ value, Keeps inv (next value)) :
    Keeps inv (action >>= next) := triple_bind hFirst hNext

theorem keeps_get {next : σ → Action σ ε β} (h : ∀ state, inv state → Keeps inv (next state)) :
    Keeps inv (get >>= next) := fun state hState => h state hState state hState

/-- A loop over items keeps an invariant when each round does. -/
theorem keeps_forEach {each : α → Action σ ε Unit} {items : List α}
    (h : ∀ item ∈ items, Keeps inv (each item)) : Keeps inv (forEach each items) := by
  induction items with
  | nil => exact keeps_pure ()
  | cons item items ih =>
      refine keeps_bind (h item List.mem_cons_self) fun _ => ih fun other hOther => ?_
      exact h other (List.mem_cons_of_mem item hOther)

/-- A loop that takes a step reaches what each of its steps reaches. -/
theorem triple_forEach {each : α → Action σ ε Unit} {reached : σ → Prop}
    (hEach : ∀ item, Triple pre (each item) (fun _ state => pre state ∧ reached state) failed)
    (items : List α) :
    Triple pre (forEach each items) (fun _ state => pre state ∧ (items ≠ [] → reached state))
      failed := by
  induction items with
  | nil => exact triple_pure fun state hPre => ⟨hPre, fun hNe => absurd rfl hNe⟩
  | cons item items ih =>
      refine triple_bind (hEach item) fun _ => ?_
      cases items with
      | nil => exact triple_pure fun state hState => ⟨hState.1, fun _ => hState.2⟩
      | cons second items =>
          refine triple_weaken ih (fun state hState => hState.1) ?_ fun _ _ h => h
          exact fun _ state hState => ⟨hState.1, fun _ => hState.2 (List.cons_ne_nil second items)⟩

/-- A transaction keeps what its action and its rollback keep. -/
theorem keeps_transaction {rollback : σ → σ → σ} (h : Keeps inv action)
    (hRollback : ∀ state reached, inv state → inv reached → inv (rollback state reached)) :
    Keeps inv (transaction rollback action) := by
  intro state hState
  have hAction := h state hState
  unfold transaction
  rcases hRun : action state with _ | ⟨reached, error | value⟩ <;> rw [hRun] at hAction
  · trivial
  · exact hRollback state reached hState hAction
  · exact hAction

/-- An invariant kept holds after a run. -/
theorem Keeps.of_run {state final : σ} {result : Except ε α} (h : Keeps inv action)
    (hState : inv state) (hRun : action state = some (final, result)) : inv final := by
  cases result with
  | error error => exact Triple.of_error h hState hRun
  | ok value => exact Triple.of_ok h hState hRun

theorem Keeps.after {state : σ} (h : Keeps inv action) (hState : inv state) :
    inv (action.after state) := by
  have hAction := h state hState
  unfold Action.after
  rcases hRun : action state with _ | ⟨reached, error | value⟩ <;> rw [hRun] at hAction
  · exact hState
  · exact hAction
  · exact hAction

end
end Action
end Semantics
