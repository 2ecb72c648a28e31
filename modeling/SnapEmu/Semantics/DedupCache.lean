import Mathlib.Logic.Function.Basic
import Mathlib.Data.List.Nodup
import Mathlib.Order.Lattice
import Mathlib.Tactic.SplitIfs
import SnapEmu.Semantics.Run

/-! A de-duplication cache. The first item under a key opens an entry and
wins; its task takes the entry after a window. Later items under the key
compete for the entry. Every insertion also starts a timer of its own that
removes whatever stands under the key when it fires. -/
namespace Semantics.DedupCache

variable {κ ι : Type*} [DecidableEq κ]

/-- Insert an item; the flag tells whether it opened the entry. -/
def insert (replaces : ι → ι → Bool) (map : κ → Option ι) (key : κ) (item : ι) :
    (κ → Option ι) × Bool :=
  match map key with
  | none => (Function.update map key (some item), true)
  | some queue =>
      if replaces queue item then (Function.update map key (some item), false) else (map, false)

def remove (map : κ → Option ι) (key : κ) : κ → Option ι := Function.update map key none

/-- A task that waits to take the entry it opened with `item`; `since` are
the items inserted under its key from then on. -/
structure Winner (κ ι : Type*) where
  id : Nat
  key : κ
  due : Nat
  item : ι
  since : List ι

/-- The items seen by a waiting task after one more insertion. -/
def Winner.join (winner : Winner κ ι) (key : κ) (item : ι) : Winner κ ι :=
  if winner.key = key then { winner with since := item :: winner.since } else winner

structure Timer (κ : Type*) where
  id : Nat
  key : κ
  due : Nat

/-- What a winner took from the cache. -/
structure Taken (κ ι : Type*) where
  winner : Winner κ ι
  item : Option ι

/-- An entry removed by a timer: the insertion that started the timer, and
the insertion that opened the entry. -/
structure Removal where
  timer : Nat
  entry : Nat

inductive Event (κ ι : Type*) where
  | wait (time : Nat)
  | insert (key : κ) (item : ι)
  | get (id : Nat)
  | expire (id : Nat)

structure State (κ ι : Type*) where
  now : Nat
  map : κ → Option ι
  count : Nat
  opened : κ → Nat
  winners : List (Winner κ ι)
  timers : List (Timer κ)
  taken : List (Taken κ ι)
  removals : List Removal

def init : State κ ι := ⟨0, fun _ => none, 0, fun _ => 0, [], [], [], []⟩

/-- The window and the lifetime are those of the tasks' sleeps; a task may
run any time after its sleep is over. -/
def step (replaces : ι → ι → Bool) (window lifetime : Nat) (state : State κ ι) :
    Event κ ι → State κ ι
  | .wait time => { state with now := state.now + time }
  | .insert key item =>
      let (map, won) := insert replaces state.map key item
      let joined := state.winners.map fun winner => winner.join key item
      { state with
        map := map
        count := state.count + 1
        opened := if won then Function.update state.opened key state.count else state.opened
        winners :=
          if won then ⟨state.count, key, state.now + window, item, [item]⟩ :: joined else joined
        timers := ⟨state.count, key, state.now + lifetime⟩ :: state.timers }
  | .get id =>
      match state.winners.find? fun winner => winner.id = id ∧ winner.due ≤ state.now with
      | none => state
      | some winner =>
          { state with
            map := remove state.map winner.key
            winners := state.winners.filter fun other => other.id ≠ id
            taken := ⟨winner, state.map winner.key⟩ :: state.taken }
  | .expire id =>
      match state.timers.find? fun timer => timer.id = id ∧ timer.due ≤ state.now with
      | none => state
      | some timer =>
          { state with
            map := remove state.map timer.key
            timers := state.timers.filter fun other => other.id ≠ id
            removals :=
              if (state.map timer.key).isSome then
                ⟨timer.id, state.opened timer.key⟩ :: state.removals
              else state.removals }

/-- A firing timer finds no entry under its key. -/
def QuietTimer (state : State κ ι) : Event κ ι → Prop
  | .expire id => ∀ timer ∈ state.timers, timer.id = id → timer.due ≤ state.now →
      state.map timer.key = none
  | _ => True

instance (state : State κ ι) : ∀ event, Decidable (QuietTimer state event)
  | .wait _ | .insert _ _ | .get _ => .isTrue trivial
  | .expire id => inferInstanceAs (Decidable (∀ timer ∈ state.timers, timer.id = id →
      timer.due ≤ state.now → state.map timer.key = none))

/-- Among the items inserted since a winner opened its entry, the given one
is of greatest rank. -/
structure Winner.Best {R : Type*} [LE R] (rank : ι → R) (winner : Winner κ ι) (item : ι) :
    Prop where
  own : winner.item ∈ winner.since
  mem : item ∈ winner.since
  greatest : ∀ other ∈ winner.since, rank other ≤ rank item

section

variable {R : Type*} [LinearOrder R]

/-- Entries and waiting winners correspond, and an entry is the best item
since it was opened; nothing was lost so far. -/
structure Served (rank : ι → R) (state : State κ ι) : Prop where
  fresh : ∀ winner ∈ state.winners, winner.id < state.count
  ids : (state.winners.map Winner.id).Nodup
  keys : (state.winners.map Winner.key).Nodup
  entry : ∀ winner ∈ state.winners, ∃ item, state.map winner.key = some item ∧
    winner.Best rank item
  winner : ∀ key item, state.map key = some item → ∃ winner ∈ state.winners, winner.key = key
  taken : ∀ taken ∈ state.taken, ∃ item, taken.item = some item ∧ taken.winner.Best rank item
  removals : state.removals = []

variable {rank : ι → R} {replaces : ι → ι → Bool} {window lifetime : Nat} {state : State κ ι}

omit [DecidableEq κ] in
/-- At the start nobody has to be served. -/
theorem served_init : Served rank (init : State κ ι) := by
  constructor <;> simp [init]

@[simp] theorem Winner.join_id (winner : Winner κ ι) (key : κ) (item : ι) :
    (winner.join key item).id = winner.id := by
  unfold Winner.join
  split_ifs <;> rfl

@[simp] theorem Winner.join_key (winner : Winner κ ι) (key : κ) (item : ι) :
    (winner.join key item).key = winner.key := by
  unfold Winner.join
  split_ifs <;> rfl

/-- An item of another key does not join. -/
theorem Winner.join_of_ne {winner : Winner κ ι} {key : κ} (item : ι) (hKey : winner.key ≠ key) :
    winner.join key item = winner := if_neg hKey

/-- The better of the entry and a competing item is best afterwards. -/
theorem Winner.Best.join {winner : Winner κ ι} {queue : ι} (hBest : winner.Best rank queue)
    (hReplaces : ∀ queue item, replaces queue item ↔ rank queue < rank item) (item : ι) :
    (winner.join winner.key item).Best rank (if replaces queue item then item else queue) := by
  rw [Winner.join, if_pos rfl]
  split_ifs with hItem
  · have hLess := (hReplaces queue item).mp hItem
    refine ⟨List.mem_cons_of_mem _ hBest.own, List.mem_cons_self, fun other hOther => ?_⟩
    rcases List.mem_cons.mp hOther with rfl | hOld
    · exact le_refl _
    · exact le_trans (hBest.greatest other hOld) (le_of_lt hLess)
  · have hLess : rank item ≤ rank queue := not_lt.mp fun h => hItem ((hReplaces queue item).mpr h)
    refine ⟨List.mem_cons_of_mem _ hBest.own, List.mem_cons_of_mem _ hBest.mem,
      fun other hOther => ?_⟩
    rcases List.mem_cons.mp hOther with rfl | hOld
    · exact hLess
    · exact hBest.greatest other hOld

/-- An insertion that opens an entry. -/
theorem Served.open (h : Served rank state) {key : κ} (hNone : state.map key = none) (item : ι) :
    Served rank (step replaces window lifetime state (.insert key item)) := by
  have hOther : ∀ winner ∈ state.winners, winner.key ≠ key := by
    rintro winner hWinner rfl
    obtain ⟨entry, hEntry, _⟩ := h.entry winner hWinner
    rw [hNone] at hEntry
    cases hEntry
  have hJoin : (state.winners.map fun winner => winner.join key item) = state.winners := by
    rw [List.map_congr_left fun winner hWinner => Winner.join_of_ne item (hOther winner hWinner)]
    exact List.map_id _
  simp only [step, insert, hNone, if_true, hJoin]
  refine ⟨?_, ?_, ?_, ?_, ?_, h.taken, h.removals⟩
  · intro winner hWinner
    rcases List.mem_cons.mp hWinner with rfl | hOld
    · exact Nat.lt_succ_self _
    · exact Nat.lt_succ_of_lt (h.fresh winner hOld)
  · refine List.nodup_cons.mpr ⟨fun hMem => ?_, h.ids⟩
    obtain ⟨winner, hWinner, hId⟩ := List.mem_map.mp hMem
    exact Nat.lt_irrefl _ (hId ▸ h.fresh winner hWinner)
  · refine List.nodup_cons.mpr ⟨fun hMem => ?_, h.keys⟩
    obtain ⟨winner, hWinner, hKey⟩ := List.mem_map.mp hMem
    exact hOther winner hWinner hKey
  · intro winner hWinner
    rcases List.mem_cons.mp hWinner with rfl | hOld
    · exact ⟨item, by simp, by simp, by simp, by simp⟩
    · dsimp only
      rw [Function.update_of_ne (hOther winner hOld)]
      exact h.entry winner hOld
  · intro other entry hEntry
    dsimp only at hEntry
    by_cases hKey : other = key
    · exact ⟨_, List.mem_cons_self, hKey.symm⟩
    · rw [Function.update_of_ne hKey] at hEntry
      obtain ⟨winner, hWinner, hOwn⟩ := h.winner other entry hEntry
      exact ⟨winner, List.mem_cons_of_mem _ hWinner, hOwn⟩

/-- An insertion that competes for an entry. -/
theorem Served.compete (h : Served rank state)
    (hReplaces : ∀ queue item, replaces queue item ↔ rank queue < rank item) {key : κ} {queue : ι}
    (hSome : state.map key = some queue) (item : ι) :
    Served rank (step replaces window lifetime state (.insert key item)) := by
  have hInsert : insert replaces state.map key item =
      (Function.update state.map key (some (if replaces queue item then item else queue)),
        false) := by
    simp only [insert, hSome]
    split_ifs
    · rfl
    · rw [Function.update_eq_self_iff.mpr hSome.symm]
  simp only [step, hInsert]
  refine ⟨?_, ?_, ?_, ?_, ?_, h.taken, h.removals⟩
  · intro winner hWinner
    obtain ⟨old, hOld, rfl⟩ := List.mem_map.mp hWinner
    exact Nat.lt_succ_of_lt (by simpa using h.fresh old hOld)
  · simpa [List.map_map, Function.comp_def] using h.ids
  · simpa [List.map_map, Function.comp_def] using h.keys
  · intro winner hWinner
    obtain ⟨old, hOld, rfl⟩ := List.mem_map.mp hWinner
    obtain ⟨entry, hEntry, hBest⟩ := h.entry old hOld
    by_cases hKey : old.key = key
    · subst hKey
      obtain rfl : queue = entry := by simpa [hSome] using hEntry
      exact ⟨_, by simp, hBest.join hReplaces item⟩
    · dsimp only
      rw [Winner.join_of_ne item hKey, Function.update_of_ne hKey]
      exact ⟨entry, hEntry, hBest⟩
  · intro other entry hEntry
    dsimp only at hEntry
    have hOld : ∃ old, state.map other = some old := by
      by_cases hKey : other = key
      · exact ⟨queue, hKey ▸ hSome⟩
      · exact ⟨entry, by simpa [Function.update_of_ne hKey] using hEntry⟩
    obtain ⟨old, hOld⟩ := hOld
    obtain ⟨winner, hWinner, hOwn⟩ := h.winner other old hOld
    exact ⟨_, List.mem_map_of_mem hWinner, by simpa using hOwn⟩

/-- A winner takes its entry. -/
theorem Served.get (h : Served rank state) (id : Nat) :
    Served rank (step replaces window lifetime state (.get id)) := by
  simp only [step]
  split
  · exact h
  · rename_i winner hFind
    have hMem := List.mem_of_find?_eq_some hFind
    have hId : winner.id = id := by
      have hTest := List.find?_some hFind
      simp only [decide_eq_true_eq] at hTest
      exact hTest.1
    subst hId
    have hKeep : ∀ other, other ∈ state.winners.filter (fun other => other.id ≠ winner.id) ↔
        other ∈ state.winners ∧ other.key ≠ winner.key := by
      intro other
      simp only [List.mem_filter, decide_eq_true_eq]
      refine and_congr_right fun hOther => not_congr ⟨fun hSame => ?_, fun hSame => ?_⟩
      · rw [List.inj_on_of_nodup_map h.ids hOther hMem hSame]
      · rw [List.inj_on_of_nodup_map h.keys hOther hMem hSame]
    refine ⟨?_, ?_, ?_, ?_, ?_, ?_, h.removals⟩
    · exact fun other hOther => h.fresh other ((hKeep other).mp hOther).1
    · exact h.ids.sublist (List.filter_sublist.map _)
    · exact h.keys.sublist (List.filter_sublist.map _)
    · intro other hOther
      obtain ⟨hOld, hKey⟩ := (hKeep other).mp hOther
      dsimp only
      rw [remove, Function.update_of_ne hKey]
      exact h.entry other hOld
    · intro key entry hEntry
      dsimp only at hEntry
      have hKey : key ≠ winner.key := by
        rintro rfl
        simp [remove] at hEntry
      rw [remove, Function.update_of_ne hKey] at hEntry
      obtain ⟨other, hOther, hOwn⟩ := h.winner key entry hEntry
      exact ⟨other, (hKeep other).mpr ⟨hOther, hOwn ▸ hKey⟩, hOwn⟩
    · intro taken hTaken
      rcases List.mem_cons.mp hTaken with rfl | hOld
      · exact h.entry winner hMem
      · exact h.taken taken hOld

/-- A timer that finds no entry changes nothing. -/
theorem Served.expire (h : Served rank state) {id : Nat} (hQuiet : QuietTimer state (.expire id)) :
    Served rank (step replaces window lifetime state (.expire id)) := by
  simp only [step]
  split
  · exact h
  · rename_i timer hFind
    have hTest := List.find?_some hFind
    simp only [decide_eq_true_eq] at hTest
    have hNone := hQuiet timer (List.mem_of_find?_eq_some hFind) hTest.1 hTest.2
    have hMap : remove state.map timer.key = state.map := Function.update_eq_self_iff.mpr hNone.symm
    simp only [hMap, hNone, Option.isSome_none, Bool.false_eq_true, if_false]
    exact ⟨h.fresh, h.ids, h.keys, h.entry, h.winner, h.taken, h.removals⟩

/-- Every step keeps the entries, provided no timer finds one. -/
theorem Served.step (hReplaces : ∀ queue item, replaces queue item ↔ rank queue < rank item)
    (state : State κ ι) (event : Event κ ι) (h : Served rank state)
    (hQuiet : QuietTimer state event) :
    Served rank (DedupCache.step replaces window lifetime state event) := by
  cases event with
  | wait time => exact ⟨h.fresh, h.ids, h.keys, h.entry, h.winner, h.taken, h.removals⟩
  | insert key item =>
      cases hMap : state.map key with
      | none => exact h.open hMap item
      | some queue => exact h.compete hReplaces hMap item
  | get id => exact h.get id
  | expire id => exact h.expire hQuiet

/-- Runs in which no timer finds an entry serve every winner. -/
theorem served_run (hReplaces : ∀ queue item, replaces queue item ↔ rank queue < rank item)
    (events : List (Event κ ι))
    (hQuiet : Meets (DedupCache.step replaces window lifetime) QuietTimer init events) :
    Served rank (run (DedupCache.step replaces window lifetime) init events) :=
  run_invariant (Served.step hReplaces) init events served_init hQuiet

end
end Semantics.DedupCache
