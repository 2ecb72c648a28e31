import Mathlib.Data.List.Basic
import SnapEmu.Semantics.Action

/-! Actions whose state is a journal of what they did: they append to it and
never look at it. -/
namespace Semantics.Action

variable {ι ε α β : Type}

def record (entry : ι) : Action (List ι) ε Unit := modify (· ++ [entry])

/-- The action ends with the result, after entries that all have a property. -/
def Appends (quiet : ι → Prop) (action : Action (List ι) ε α) (result : Except ε α) : Prop :=
  ∀ journal, ∃ added, action journal = some (journal ++ added, result) ∧
    ∀ entry ∈ added, quiet entry

variable {quiet : ι → Prop} {action : Action (List ι) ε α} {next : α → Action (List ι) ε β}

theorem appends_pure (value : α) : Appends quiet (pure value : Action (List ι) ε α) (.ok value) :=
  fun journal => ⟨[], by rw [List.append_nil]; rfl, fun _ h => absurd h List.not_mem_nil⟩

theorem appends_ofExcept (result : Except ε α) :
    Appends quiet (ofExcept result : Action (List ι) ε α) result := by
  intro journal
  refine ⟨[], ?_, fun _ h => absurd h List.not_mem_nil⟩
  rw [List.append_nil]
  cases result with
  | error error => rfl
  | ok value => rfl

theorem appends_record {entry : ι} (h : quiet entry) :
    Appends quiet (record entry : Action (List ι) ε Unit) (.ok ()) :=
  fun _ => ⟨[entry], rfl, fun _ hEntry => List.mem_singleton.mp hEntry ▸ h⟩

/-- Entries of a sequence are those of its parts. -/
theorem Appends.bind {value : α} {result : Except ε β} (h : Appends quiet action (.ok value))
    (hNext : Appends quiet (next value) result) : Appends quiet (action >>= next) result := by
  intro journal
  obtain ⟨first, hFirst, hQuiet⟩ := h journal
  obtain ⟨second, hSecond, hMore⟩ := hNext (journal ++ first)
  refine ⟨first ++ second, ?_, fun entry hEntry => ?_⟩
  · rw [bind_ok hFirst, hSecond, List.append_assoc]
  · rcases List.mem_append.mp hEntry with hEntry | hEntry
    · exact hQuiet entry hEntry
    · exact hMore entry hEntry

/-- A sequence whose first part fails appends what that part appended. -/
theorem Appends.bind_error {error : ε} (h : Appends quiet action (.error error)) :
    Appends quiet (action >>= next) (.error error) := by
  intro journal
  obtain ⟨added, hRun, hQuiet⟩ := h journal
  exact ⟨added, Action.bind_error hRun, hQuiet⟩

/-- The action fails, after quiet entries. -/
def Fails (quiet : ι → Prop) (action : Action (List ι) ε α) : Prop :=
  ∃ error, Appends quiet action (.error error)

theorem fails_throw (error : ε) : Fails quiet (throw error : Action (List ι) ε α) :=
  ⟨error, appends_ofExcept (.error error)⟩

theorem fails_ofExcept {result : Except ε α} {error : ε} (h : result = .error error) :
    Fails quiet (ofExcept result : Action (List ι) ε α) := by
  rw [h]
  exact ⟨error, appends_ofExcept (.error error)⟩

/-- A sequence whose first part fails, fails. -/
theorem Fails.bind (h : Fails quiet action) : Fails quiet (action >>= next) :=
  h.imp fun _ hError => hError.bind_error

/-- The action succeeds with the value exactly under the condition, with quiet
entries either way. -/
structure Decides (quiet : ι → Prop) (action : Action (List ι) ε α) (condition : Prop)
    (value : α) : Prop where
  succeeds : condition → Appends quiet action (.ok value)
  fails : ¬condition → Fails quiet action

theorem decides_pure (value : α) :
    Decides quiet (pure value : Action (List ι) ε α) True value where
  succeeds _ := appends_pure value
  fails h := (h trivial).elim

theorem decides_record {entry : ι} (h : quiet entry) :
    Decides quiet (record entry : Action (List ι) ε Unit) True () where
  succeeds _ := appends_record h
  fails hNot := (hNot trivial).elim

theorem decides_ofExcept (result : Except ε Unit) :
    Decides quiet (ofExcept result : Action (List ι) ε Unit) (result = .ok ()) () where
  succeeds hOk := by
    rw [hOk]
    exact appends_ofExcept (.ok ())
  fails hNot := by
    cases result with
    | error error => exact ⟨error, appends_ofExcept (.error error)⟩
    | ok other => exact (hNot rfl).elim

theorem decides_known {result : Except ε α} {value : α} (h : result = .ok value) :
    Decides quiet (ofExcept result : Action (List ι) ε α) True value where
  succeeds _ := by
    rw [h]
    exact appends_ofExcept (.ok value)
  fails hNot := (hNot trivial).elim

/-- A sequence succeeds exactly when both parts do. -/
theorem Decides.bind {first second : Prop} {value : α} {result : β}
    (h : Decides quiet action first value)
    (hNext : first → Decides quiet (next value) second result) :
    Decides quiet (action >>= next) (first ∧ second) result where
  succeeds hBoth := (h.succeeds hBoth.1).bind ((hNext hBoth.1).succeeds hBoth.2)
  fails hNot := by
    by_cases hFirst : first
    · obtain ⟨error, hError⟩ := (hNext hFirst).fails fun hSecond => hNot ⟨hFirst, hSecond⟩
      exact ⟨error, (h.succeeds hFirst).bind hError⟩
    · obtain ⟨error, hError⟩ := h.fails hFirst
      exact ⟨error, hError.bind_error⟩

/-- The condition of a decision may be put in other words. -/
theorem Decides.of_iff {condition other : Prop} {value : α}
    (h : Decides quiet action condition value) (hIff : other ↔ condition) :
    Decides quiet action other value where
  succeeds hOther := h.succeeds (hIff.mp hOther)
  fails hNot := h.fails fun hCondition => hNot (hIff.mpr hCondition)

/-- A sequence fails when its second part does. -/
theorem Decides.bind_fails {condition : Prop} {value : α}
    (h : Decides quiet action condition value) (hNext : condition → Fails quiet (next value)) :
    Fails quiet (action >>= next) := by
  by_cases hCondition : condition
  · exact (hNext hCondition).imp fun _ hError => (h.succeeds hCondition).bind hError
  · exact Fails.bind (h.fails hCondition)

/-- A failure is a decision under a condition that does not hold. -/
theorem Fails.decides {condition : Prop} {value : α} (h : Fails quiet action)
    (hNot : ¬condition) : Decides quiet action condition value where
  succeeds hCondition := (hNot hCondition).elim
  fails _ := h

/-- What an action appends, read off the journal left. -/
theorem Appends.after {result : Except ε α} (h : Appends quiet action result) (journal : List ι) :
    ∃ added, action.after journal = journal ++ added ∧ ∀ entry ∈ added, quiet entry := by
  obtain ⟨added, hRun, hQuiet⟩ := h journal
  exact ⟨added, after_eq hRun, hQuiet⟩

/-- Where the first part succeeds, the second goes on after its entries. -/
theorem Appends.bind_apply {value : α} (h : Appends quiet action (.ok value))
    (journal : List ι) :
    ∃ added, (action >>= next) journal = next value (journal ++ added) ∧
      ∀ entry ∈ added, quiet entry := by
  obtain ⟨added, hRun, hQuiet⟩ := h journal
  exact ⟨added, bind_ok hRun, hQuiet⟩

/-- A sequence of a recording action for each item. -/
theorem forEach_record (entry : α → ι) (items : List α) (journal : List ι) :
    forEach (fun item => (record (entry item) : Action (List ι) ε Unit)) items journal =
      some (journal ++ items.map entry, .ok ()) := by
  induction items generalizing journal with
  | nil =>
      rw [List.map_nil, List.append_nil]
      rfl
  | cons item items ih =>
      have hRest := ih (journal ++ [entry item])
      rw [List.append_assoc] at hRest
      exact hRest

/-- What quiet entries do not show is not seen. -/
theorem filterMap_quiet {shown : ι → Option β} (hQuiet : ∀ entry, quiet entry → shown entry = none)
    {added : List ι} (h : ∀ entry ∈ added, quiet entry) : added.filterMap shown = [] :=
  List.filterMap_eq_nil_iff.mpr fun entry hEntry => hQuiet entry (h entry hEntry)

end Semantics.Action
