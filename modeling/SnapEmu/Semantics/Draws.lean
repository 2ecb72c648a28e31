import Mathlib.Data.List.Basic
import Mathlib.Data.Nat.Find

/-! Values drawn one after another until one is accepted. -/
namespace Semantics

variable {ε α : Type*} {test : α → Except ε Bool}

/-- The first draw that the test accepts, with the answer `false`. A refused
draw is followed by the next one, and an error ends the search; nothing is
returned while the draws given do not suffice. -/
def drawUntil (test : α → Except ε Bool) : List α → Option (Except ε α)
  | [] => none
  | value :: draws =>
      match test value with
      | .error error => some (.error error)
      | .ok true => drawUntil test draws
      | .ok false => some (.ok value)

/-- Some number of draws from a stream is enough to return the value. -/
def Draws (test : α → Except ε Bool) (draws : Nat → α) (value : α) : Prop :=
  ∃ count, drawUntil test ((List.range count).map draws) = some (.ok value)

/-- A sequence of draws begins with its first draw. -/
theorem range_succ_map (draws : Nat → α) (count : Nat) :
    (List.range (count + 1)).map draws =
      draws 0 :: (List.range count).map fun index => draws (index + 1) := by
  rw [List.range_succ_eq_map, List.map_cons, List.map_map]
  rfl

/-- A value is returned exactly if it is accepted and all draws before it are
refused. -/
theorem draws_iff {draws : Nat → α} {value : α} :
    Draws test draws value ↔
      ∃ index, draws index = value ∧ test value = .ok false ∧
        ∀ earlier < index, test (draws earlier) = .ok true := by
  constructor
  · rintro ⟨count, hFound⟩
    induction count generalizing draws with
    | zero => cases hFound
    | succ count ih =>
        rw [range_succ_map, drawUntil] at hFound
        split at hFound
        · cases hFound
        · next hRefused =>
            obtain ⟨index, hValue, hAccepted, hEarlier⟩ := ih hFound
            refine ⟨index + 1, hValue, hAccepted, fun earlier hLt => ?_⟩
            cases earlier with
            | zero => exact hRefused
            | succ earlier => exact hEarlier earlier (Nat.lt_of_succ_lt_succ hLt)
        · next hAccepted =>
            cases hFound
            exact ⟨0, rfl, hAccepted, fun earlier hLt => absurd hLt (Nat.not_lt_zero earlier)⟩
  · rintro ⟨index, hValue, hAccepted, hEarlier⟩
    refine ⟨index + 1, ?_⟩
    induction index generalizing draws with
    | zero =>
        rw [range_succ_map, drawUntil, hValue, hAccepted]
    | succ index ih =>
        rw [range_succ_map, drawUntil, hEarlier 0 (Nat.succ_pos index)]
        exact ih hValue fun earlier hLt => hEarlier (earlier + 1) (Nat.succ_lt_succ hLt)

/-- A stream with an accepted draw is searched with success exactly if no draw
before the first accepted one is an error. -/
theorem exists_draws_iff {draws : Nat → α} (hAccepted : ∃ index, test (draws index) = .ok false) :
    (∃ value, Draws test draws value) ↔
      ∀ index, (∀ earlier ≤ index, test (draws earlier) ≠ .ok false) →
        test (draws index) = .ok true := by
  classical
  constructor
  · rintro ⟨value, hDraws⟩ index hNone
    obtain ⟨found, rfl, hFound, hEarlier⟩ := draws_iff.mp hDraws
    exact hEarlier index (Nat.lt_of_not_le fun hLe => hNone found hLe hFound)
  · intro h
    refine ⟨_, draws_iff.mpr ⟨Nat.find hAccepted, rfl, Nat.find_spec hAccepted, ?_⟩⟩
    intro earlier hLt
    exact h earlier fun before hLe => Nat.find_min hAccepted (Nat.lt_of_le_of_lt hLe hLt)

/-- Where a taken value is reported as an error and a known one is refused, a
stream with a value that is neither is searched with success exactly if no
taken value stands before the first such value. -/
theorem draws_untaken_iff {taken known : α → Bool} {error : α → ε}
    (hTest : ∀ value, test value = if taken value then .error (error value) else .ok (known value))
    {draws : Nat → α}
    (hUnused : ∃ index, taken (draws index) = false ∧ known (draws index) = false) :
    (∃ value, Draws test draws value ∧ taken value = false) ↔
      ∀ index, (∀ earlier ≤ index,
          ¬(taken (draws earlier) = false ∧ known (draws earlier) = false)) →
        taken (draws index) = false := by
  have hAccepts : ∀ value, test value = .ok false ↔ taken value = false ∧ known value = false := by
    intro value
    rw [hTest]
    cases taken value <;> simp
  have hRefuses : ∀ value, test value = .ok true ↔ taken value = false ∧ known value = true := by
    intro value
    rw [hTest]
    cases taken value <;> simp
  have hValue : (∃ value, Draws test draws value ∧ taken value = false) ↔
      ∃ value, Draws test draws value := by
    refine exists_congr fun value => and_iff_left_of_imp fun hDraws => ?_
    obtain ⟨index, -, hAccepted, -⟩ := draws_iff.mp hDraws
    exact ((hAccepts value).mp hAccepted).1
  have hAccepted : ∃ index, test (draws index) = .ok false := by
    obtain ⟨index, hIndex⟩ := hUnused
    exact ⟨index, (hAccepts _).mpr hIndex⟩
  rw [hValue, exists_draws_iff hAccepted]
  refine forall_congr' fun index => ?_
  simp only [ne_eq, hAccepts, hRefuses]
  refine imp_congr_right fun hNone => ⟨fun h => h.1, fun hTaken => ⟨hTaken, ?_⟩⟩
  have hIndex := hNone index (Nat.le_refl index)
  rw [hTaken] at hIndex
  simpa using hIndex

end Semantics
