import SnapEmu.Event.ConfigCache

/-! Requests that share the cache: what each step must find so that every
waiting request still gets its answer. -/
namespace SnapEmu.Event

open Device Semantics Registry

variable {Config : Type} {state : CacheState Config} {number other : Nat}
  {request : Request Config} {slot : Id × UInt32}

/-- The request waits and has not timed out; its slot in the cache. -/
def Request.Live (request : Request Config) (slot : Id × UInt32) : Prop :=
  request.phase = .waiting ∧ request.timerPending = true ∧ slot = (request.device, request.key)

def Live (requests : Nat → Option (Request Config)) (number : Nat) (slot : Id × UInt32) : Prop :=
  ∃ request, requests number = some request ∧ request.Live slot

def slots (configCache : Id → Option (UInt32 → Option Nat)) (slot : Id × UInt32) : Option Nat :=
  (configCache slot.1).bind fun map => map slot.2

/-- A response with the key of a waiting request reaches the request, and no
unwrap has failed. -/
structure Undisturbed (state : CacheState Config) : Prop where
  delivered : ∀ number request config, state.requests number = some request →
    request.Live (request.device, request.key) →
      (cacheStep state (.respond request.device request.key config)).requests number =
        some { request with phase := .answered config }
  unpoisoned : state.poisoned = false

/-- Which requests wait after one of them changed. -/
theorem live_update : Live (Function.update state.requests number (some request)) other slot ↔
    (other = number ∧ request.Live slot) ∨ (other ≠ number ∧ Live state.requests other slot) := by
  unfold Live
  by_cases hSame : other = number
  · subst hSame
    simp [Function.update_self]
  · rw [Function.update_of_ne hSame]
    simp [hSame]

/-- Removing an entry clears its slot. -/
theorem slots_remove (state : CacheState Config) (device : Id) (key : UInt32) :
    slots (state.remove device key).configCache =
      fun slot => if slot = (device, key) then none else slots state.configCache slot := by
  funext slot
  obtain ⟨device', key'⟩ := slot
  unfold CacheState.remove slots
  cases hMap : state.configCache device with
  | none =>
      split_ifs with hSlot
      · rw [Prod.mk.injEq] at hSlot
        rw [hSlot.1, hMap, Option.bind_none]
      · rfl
  | some map =>
      dsimp only [CacheState.setMap]
      by_cases hDevice : device' = device
      · subst hDevice
        rw [Function.update_self, Option.bind_some, hMap, Option.bind_some]
        by_cases hKey : key' = key
        · rw [hKey, Function.update_self, if_pos rfl]
        · rw [Function.update_of_ne hKey, if_neg (by simp [hKey])]
      · rw [Function.update_of_ne hDevice, if_neg (by simp [hDevice])]

/-- Removing a device clears all its slots. -/
theorem slots_clear (state : CacheState Config) (device : Id) :
    slots (state.setMap device none).configCache =
      fun slot => if slot.1 = device then none else slots state.configCache slot := by
  funext slot
  unfold slots
  dsimp only [CacheState.setMap]
  by_cases hDevice : slot.1 = device
  · rw [hDevice, Function.update_self, if_pos rfl, Option.bind_none]
  · rw [Function.update_of_ne hDevice, if_neg hDevice]

/-- Entering a request fills its slot. -/
theorem slots_enter {map : UInt32 → Option Nat} {device : Id} (key : UInt32) (number : Nat)
    (hMap : state.configCache device = some map) :
    slots (state.setMap device (some (Function.update map key (some number)))).configCache =
      Function.update (slots state.configCache) (device, key) (some number) := by
  funext slot
  obtain ⟨device', key'⟩ := slot
  unfold slots
  dsimp only [CacheState.setMap]
  by_cases hDevice : device' = device
  · subst hDevice
    rw [Function.update_self, Option.bind_some]
    by_cases hKey : key' = key
    · rw [hKey, Function.update_self, Function.update_self]
    · rw [Function.update_of_ne hKey, Function.update_of_ne (by simp [hKey]), hMap,
        Option.bind_some]
  · rw [Function.update_of_ne hDevice, Function.update_of_ne (by simp [hDevice])]

/-- A new map for a device forgets the old one. -/
theorem slots_replace (state : CacheState Config) (device : Id) (key : UInt32) (number : Nat) :
    slots (state.setMap device (some (onlyKey key number))).configCache =
      Function.update
        (fun slot => if slot.1 = device then none else slots state.configCache slot) (device, key)
        (some number) := by
  funext slot
  obtain ⟨device', key'⟩ := slot
  unfold slots
  dsimp only [CacheState.setMap, onlyKey]
  by_cases hDevice : device' = device
  · subst hDevice
    rw [Function.update_self, Option.bind_some]
    by_cases hKey : key' = key
    · rw [hKey, Function.update_self, Function.update_self]
    · rw [Function.update_of_ne hKey, Function.update_of_ne (by simp [hKey]), if_pos rfl]
  · rw [Function.update_of_ne hDevice, Function.update_of_ne (by simp [hDevice]),
      if_neg hDevice]

theorem remove_requests (state : CacheState Config) (device : Id) (key : UInt32) :
    (state.remove device key).requests = state.requests ∧
      (state.remove device key).poisoned = state.poisoned := by
  unfold CacheState.remove
  split
  · exact ⟨rfl, rfl⟩
  · exact ⟨rfl, rfl⟩

/-- Where a response goes. -/
theorem respond_requests {device : Id} {key : UInt32} {config : Config} {holder : Nat}
    (hPoisoned : state.poisoned = false)
    (hHolder : slots state.configCache (device, key) = some holder) :
    respond state device key config = deliver (state.remove device key) holder config := by
  have hSlot : (state.configCache device).bind (fun map => map key) = some holder := hHolder
  rw [respond, if_neg (by rw [hPoisoned]; decide), hSlot]

theorem deliver_requests (config : Config) (hNumber : other ≠ number) :
    (deliver state number config).requests other = state.requests other := by
  unfold deliver
  cases state.requests number with
  | none => rfl
  | some request =>
      dsimp only
      split
      · exact Function.update_of_ne hNumber _ _
      · rfl

/-- A response leaves a request alone that is not in the slot. -/
theorem respond_other {device : Id} {key : UInt32} {config : Config}
    (hPoisoned : state.poisoned = false)
    (hSlot : slots state.configCache (device, key) ≠ some number) :
    (respond state device key config).requests number = state.requests number := by
  cases hHolder : slots state.configCache (device, key) with
  | none =>
      have hNone : (state.configCache device).bind (fun map => map key) = none := hHolder
      rw [respond, if_neg (by rw [hPoisoned]; decide), hNone]
  | some holder =>
      have hOther : number ≠ holder := fun hEq => hSlot (hEq ▸ hHolder)
      rw [respond_requests hPoisoned hHolder, deliver_requests config hOther,
        (remove_requests state device key).1]

/-- A response reaches the waiting request in the slot. -/
theorem respond_holder {config : Config} (hPoisoned : state.poisoned = false)
    (hRequest : state.requests number = some request) (hPhase : request.phase = .waiting)
    (hSlot : slots state.configCache (request.device, request.key) = some number) :
    (respond state request.device request.key config).requests number =
      some { request with phase := .answered config } := by
  have hSame : (state.remove request.device request.key).requests number = some request := by
    rw [(remove_requests state request.device request.key).1, hRequest]
  rw [respond_requests hPoisoned hSlot, deliver, hSame]
  dsimp only
  rw [hPhase]
  exact Function.update_self _ _ _

/-- All waiting requests are undisturbed exactly if they stand in their slots. -/
theorem undisturbed_iff [Inhabited Config] : Undisturbed state ↔
    state.poisoned = false ∧ Held (slots state.configCache) (Live state.requests) := by
  constructor
  · intro h
    refine ⟨h.unpoisoned, ?_⟩
    intro number slot hLive
    obtain ⟨request, hRequest, hPhase, hTimer, rfl⟩ := hLive
    by_contra hSlot
    have hDelivered := h.delivered number request default hRequest ⟨hPhase, hTimer, rfl⟩
    rw [cacheStep, respond_other h.unpoisoned hSlot, hRequest, Option.some.injEq] at hDelivered
    have hAnswered := congrArg Request.phase hDelivered
    rw [hPhase] at hAnswered
    cases hAnswered
  · intro h
    obtain ⟨hPoisoned, hHeld⟩ := h
    refine ⟨fun number request config hRequest hLive => ?_, hPoisoned⟩
    exact respond_holder hPoisoned hRequest hLive.1 (hHeld number _ ⟨request, hRequest, hLive⟩)

/-- No other request waits in a slot. -/
def Free (state : CacheState Config) (number : Nat) (taken : Id × UInt32 → Prop) : Prop :=
  ∀ other slot, Live state.requests other slot → taken slot → other = number

/-- What a step must find. An insertion finds the map as it was checked: its
slot is free, or, if there was no map, no request for the device waits. A timer
finds no other request in its slot, and an answered `config` none that waits
for the device. -/
def Clear (state : CacheState Config) : CacheEvent Config → Prop
  | .insert number => ∀ request present, state.requests number = some request →
      request.phase = .checked present →
        if present then
          (state.configCache request.device).isSome ∧
            Free state number (· = (request.device, request.key))
        else Free state number (·.1 = request.device)
  | .timer number => ∀ request, state.requests number = some request →
      request.timerPending = true → Free state number (· = (request.device, request.key))
  | .complete number => ∀ request config, state.requests number = some request →
      request.phase = .answered config → request.kind = .config →
        Free state number (·.1 = request.device)
  | _ => True

/-- The others, after a step of one request. -/
theorem live_update_of_dead (hDead : ∀ slot, ¬request.Live slot) :
    Live (Function.update state.requests number (some request)) other slot ↔
      other ≠ number ∧ Live state.requests other slot := by
  rw [live_update]
  constructor
  · intro h
    rcases h with ⟨_, hLive⟩ | hOther
    · exact absurd hLive (hDead slot)
    · exact hOther
  · exact .inr

/-- A request that no longer waits may clear slots that are free of others. -/
theorem held_leave (taken : Id × UInt32 → Prop) [DecidablePred taken] (number : Nat)
    (request : Request Config) (h : Held (slots state.configCache) (Live state.requests))
    (hDead : ∀ slot, ¬request.Live slot) :
    Held (fun slot => if taken slot then none else slots state.configCache slot)
        (Live (Function.update state.requests number (some request))) ↔
      Free state number taken := by
  have hHeld : Held (slots state.configCache)
      (Live (Function.update state.requests number (some request))) :=
    h.mono fun _ _ hLive => ((live_update_of_dead hDead).mp hLive).2
  rw [held_clear hHeld]
  constructor
  · intro hFree other slot hLive hTaken
    by_contra hOther
    exact hFree other slot ((live_update_of_dead hDead).mpr ⟨hOther, hLive⟩) hTaken
  · intro hFree other slot hLive hTaken
    obtain ⟨hOther, hBefore⟩ := (live_update_of_dead hDead).mp hLive
    exact hOther (hFree other slot hBefore hTaken)

/-- A request that begins to wait enters its slot. What else is cleared must be
free of others, as must be the slot. -/
theorem held_wait (taken : Id × UInt32 → Prop) [DecidablePred taken] (number : Nat)
    (request : Request Config) (h : Held (slots state.configCache) (Live state.requests)) :
    Held
        (Function.update (fun slot => if taken slot then none else slots state.configCache slot)
          (request.device, request.key) (some number))
        (Live (Function.update state.requests number (some request))) ↔
      Free state number fun slot => taken slot ∨ slot = (request.device, request.key) :=
  held_enter h (fun _ _ => live_update) fun _ hLive => hLive.2.2

theorem not_live_of_phase (hPhase : request.phase ≠ .waiting) (slot : Id × UInt32) :
    ¬request.Live slot := fun hLive => hPhase hLive.1

/-- An answer for a request that no longer waits is dropped. -/
theorem deliver_idle (config : Config) (hRequest : state.requests number = some request)
    (hPhase : request.phase ≠ .waiting) : deliver state number config = state := by
  rw [deliver, hRequest]
  dsimp only
  cases hCase : request.phase with
  | waiting => exact absurd hCase hPhase
  | started => rfl
  | checked present => rfl
  | answered config => rfl
  | finished result => rfl

/-- A request that a configuration was sent to no longer waits. -/
theorem deliver_live (config : Config)
    (hLive : Live (deliver state number config).requests other slot) :
    other ≠ number ∧ Live state.requests other slot := by
  cases hRequest : state.requests number with
  | none =>
      rw [deliver, hRequest] at hLive
      refine ⟨fun hEq => ?_, hLive⟩
      obtain ⟨request, hOther, _⟩ := hLive
      rw [hEq, hRequest] at hOther
      cases hOther
  | some request =>
      by_cases hPhase : request.phase = .waiting
      · rw [deliver, hRequest] at hLive
        dsimp only at hLive
        rw [hPhase] at hLive
        exact (live_update_of_dead (not_live_of_phase (by simp))).mp hLive
      · rw [deliver_idle config hRequest hPhase] at hLive
        refine ⟨fun hEq => ?_, hLive⟩
        obtain ⟨found, hOther, hWaits, _⟩ := hLive
        rw [hEq, hRequest, Option.some.injEq] at hOther
        exact hPhase (hOther ▸ hWaits)

/-- An answer leaves the table as it is. -/
theorem deliver_cache (state : CacheState Config) (number : Nat) (config : Config) :
    (deliver state number config).configCache = state.configCache ∧
      (deliver state number config).poisoned = state.poisoned := by
  unfold deliver
  cases state.requests number with
  | none => exact ⟨rfl, rfl⟩
  | some request =>
      dsimp only
      split
      · exact ⟨rfl, rfl⟩
      · exact ⟨rfl, rfl⟩

theorem free_congr {first second : Id × UInt32 → Prop} (h : ∀ slot, first slot ↔ second slot) :
    Free state number first ↔ Free state number second :=
  forall_congr' fun _ => forall_congr' fun slot => imp_congr Iff.rfl (imp_congr (h slot) Iff.rfl)

/-- When an insertion disturbs nobody, spelled out for both branches. -/
theorem clear_insert {present : Bool} (hRequest : state.requests number = some request)
    (hPhase : request.phase = .checked present) :
    Clear state (.insert number) ↔
      if present then
        (state.configCache request.device).isSome ∧
          Free state number (· = (request.device, request.key))
      else Free state number (·.1 = request.device) := by
  constructor
  · intro h
    exact h request present hRequest hPhase
  · intro h found present' hFound hPhase'
    rw [hRequest, Option.some.injEq] at hFound
    subst hFound
    rw [hPhase, Phase.checked.injEq] at hPhase'
    subst hPhase'
    exact h

variable [Inhabited Config]

/-- Nothing is disturbed by a request that does not wait afterwards and leaves
the cache alone. -/
theorem set_undisturbed (h : Undisturbed state) (hDead : ∀ slot, ¬request.Live slot) :
    Undisturbed (state.set number request) := by
  obtain ⟨hPoisoned, hHeld⟩ := undisturbed_iff.mp h
  exact undisturbed_iff.mpr
    ⟨hPoisoned, hHeld.mono fun _ _ hLive => ((live_update_of_dead hDead).mp hLive).2⟩

/-- Starting a request disturbs nobody. -/
theorem start_undisturbed (h : Undisturbed state) (number : Nat) (kind : Kind) (device : Id) :
    Undisturbed (startRequest state number kind device) := by
  unfold startRequest
  cases state.requests number with
  | some _ => exact h
  | none =>
      obtain ⟨hPoisoned, hHeld⟩ := undisturbed_iff.mp h
      have hNext : Undisturbed { state with nextId := state.nextId + 1 } :=
        undisturbed_iff.mpr ⟨hPoisoned, hHeld⟩
      exact set_undisturbed hNext (not_live_of_phase (by simp))

/-- Looking the device up disturbs nobody. -/
theorem check_undisturbed (h : Undisturbed state) (number : Nat) (request : Request Config) :
    Undisturbed (checkDevice state number request) := by
  unfold checkDevice
  rw [h.unpoisoned]
  cases request.phase with
  | started => exact set_undisturbed h (not_live_of_phase (by simp))
  | checked present => exact h
  | waiting => exact h
  | answered config => exact h
  | finished result => exact h

/-- A time-out disturbs nobody. -/
theorem timeOut_undisturbed (h : Undisturbed state) (number : Nat) (request : Request Config) :
    Undisturbed (timeOut state number request) := by
  unfold timeOut
  cases request.phase with
  | waiting => exact set_undisturbed h (not_live_of_phase (by simp))
  | started => exact h
  | checked present => exact h
  | answered config => exact h
  | finished result => exact h

/-- A response disturbs nobody. -/
theorem respond_undisturbed (h : Undisturbed state) (device : Id) (key : UInt32)
    (config : Config) : Undisturbed (respond state device key config) := by
  obtain ⟨hPoisoned, hHeld⟩ := undisturbed_iff.mp h
  cases hHolder : slots state.configCache (device, key) with
  | none =>
      have hNone : (state.configCache device).bind (fun map => map key) = none := hHolder
      rw [respond, if_neg (by rw [hPoisoned]; decide), hNone]
      exact h
  | some holder =>
      obtain ⟨hRequests, hLock⟩ := remove_requests state device key
      obtain ⟨hCache, hLock'⟩ := deliver_cache (state.remove device key) holder config
      rw [respond_requests hPoisoned hHolder]
      refine undisturbed_iff.mpr ⟨by rw [hLock', hLock, hPoisoned], ?_⟩
      have hLive : ∀ other slot,
          Live (deliver (state.remove device key) holder config).requests other slot →
            other ≠ holder ∧ Live state.requests other slot := by
        intro other slot hOther
        have hBefore := deliver_live config hOther
        rwa [hRequests] at hBefore
      rw [hCache, slots_remove, held_clear (hHeld.mono fun other slot h => (hLive other slot h).2)]
      intro other slot hOther hSlot
      obtain ⟨hNe, hBefore⟩ := hLive other slot hOther
      have hFound := hHeld other slot hBefore
      rw [hSlot, hHolder, Option.some.injEq] at hFound
      exact hNe hFound.symm

/-- An insertion into a map that is there. -/
theorem insert_present_iff {map : UInt32 → Option Nat} (h : Undisturbed state)
    (hMap : state.configCache request.device = some map) :
    Undisturbed
        ((state.setMap request.device (some (Function.update map request.key (some number)))).set
          number { request with phase := .waiting, timerPending := true }) ↔
      Free state number (· = (request.device, request.key)) := by
  obtain ⟨hPoisoned, hHeld⟩ := undisturbed_iff.mp h
  have hWait := held_wait (fun _ => False) number
    { request with phase := .waiting, timerPending := true } hHeld
  simp only [if_false, false_or] at hWait
  rw [← hWait, ← slots_enter request.key number hMap]
  exact undisturbed_iff.trans (and_iff_right hPoisoned)

/-- An insertion of a new map. -/
theorem insert_absent_iff (h : Undisturbed state) :
    Undisturbed
        ((state.setMap request.device (some (onlyKey request.key number))).set number
          { request with phase := .waiting, timerPending := true }) ↔
      Free state number (·.1 = request.device) := by
  obtain ⟨hPoisoned, hHeld⟩ := undisturbed_iff.mp h
  have hWait := held_wait (fun slot => slot.1 = request.device) number
    { request with phase := .waiting, timerPending := true } hHeld
  dsimp only at hWait
  rw [← slots_replace] at hWait
  have hTaken : Free state number (fun slot => slot.1 = request.device ∨
      slot = (request.device, request.key)) ↔ Free state number (·.1 = request.device) :=
    free_congr fun slot => or_iff_left_of_imp fun hSlot => by rw [hSlot]
  rw [← hTaken, ← hWait]
  exact undisturbed_iff.trans (and_iff_right hPoisoned)

/-- An insertion disturbs nobody exactly when it is clear. -/
theorem insert_iff (h : Undisturbed state) (hRequest : state.requests number = some request) :
    Undisturbed (insertSender state number request) ↔ Clear state (.insert number) := by
  by_cases hChecked : ∃ present, request.phase = .checked present
  · obtain ⟨present, hPhase⟩ := hChecked
    rw [clear_insert hRequest hPhase, insertSender, hPhase]
    dsimp only
    rw [h.unpoisoned]
    cases present with
    | false => exact insert_absent_iff h
    | true =>
        cases hMap : state.configCache request.device with
        | none =>
            refine iff_of_false (fun hNext => ?_) (fun hClear => absurd hClear.1 (by simp))
            have hPoisoned := hNext.unpoisoned
            cases hPoisoned
        | some map =>
            exact (insert_present_iff h hMap).trans (and_iff_right rfl).symm
  · have hIdle : insertSender state number request = state := by
      unfold insertSender
      cases hPhase : request.phase with
      | checked present => exact absurd ⟨present, hPhase⟩ hChecked
      | started => rfl
      | waiting => rfl
      | answered config => rfl
      | finished result => rfl
    rw [hIdle]
    refine iff_of_true h fun found present hFound hPhase => ?_
    rw [hRequest, Option.some.injEq] at hFound
    exact absurd ⟨present, hFound ▸ hPhase⟩ hChecked

/-- A timer disturbs nobody exactly when it is clear. -/
theorem timer_iff (h : Undisturbed state) (hRequest : state.requests number = some request) :
    Undisturbed (fireTimer state number request) ↔ Clear state (.timer number) := by
  obtain ⟨hPoisoned, hHeld⟩ := undisturbed_iff.mp h
  rw [fireTimer, hPoisoned]
  by_cases hTimer : request.timerPending = true
  · rw [if_pos hTimer]
    have hClear : Clear state (.timer number) ↔
        Free state number (· = (request.device, request.key)) := by
      constructor
      · intro hAll
        exact hAll request hRequest hTimer
      · intro hFree found hFound _
        rw [hRequest, Option.some.injEq] at hFound
        exact hFound ▸ hFree
    obtain ⟨hRequests, hLock⟩ := remove_requests state request.device request.key
    have hLeave := held_leave (fun slot => slot = (request.device, request.key)) number
      { request with timerPending := false } hHeld
      (fun slot hLive => by simp [Request.Live] at hLive)
    rw [← slots_remove, ← hRequests] at hLeave
    rw [hClear, ← hLeave]
    exact undisturbed_iff.trans (and_iff_right (hLock.trans hPoisoned))
  · rw [if_neg hTimer]
    refine iff_of_true h fun found hFound hPending => ?_
    rw [hRequest, Option.some.injEq] at hFound
    exact absurd (hFound ▸ hPending) hTimer

/-- A completion disturbs nobody exactly when it is clear. -/
theorem complete_iff (h : Undisturbed state) (hRequest : state.requests number = some request) :
    Undisturbed (completeRequest state number request) ↔ Clear state (.complete number) := by
  obtain ⟨hPoisoned, hHeld⟩ := undisturbed_iff.mp h
  by_cases hAnswered : ∃ config, request.phase = .answered config ∧ request.kind = .config
  · obtain ⟨config, hPhase, hKind⟩ := hAnswered
    have hClear : Clear state (.complete number) ↔
        Free state number (·.1 = request.device) := by
      constructor
      · intro hAll
        exact hAll request config hRequest hPhase hKind
      · intro hFree found other hFound _ _
        rw [hRequest, Option.some.injEq] at hFound
        exact hFound ▸ hFree
    have hLeave := held_leave (fun slot => slot.1 = request.device) number
      { request with phase := .finished (some config) } hHeld (not_live_of_phase (by simp))
    rw [← slots_clear] at hLeave
    rw [hClear, ← hLeave, completeRequest, hPhase]
    dsimp only
    rw [hKind, hPoisoned]
    exact undisturbed_iff.trans (and_iff_right hPoisoned)
  · have hNext : Undisturbed (completeRequest state number request) := by
      unfold completeRequest
      cases hPhase : request.phase with
      | answered config =>
          cases hKind : request.kind with
          | config => exact absurd ⟨config, hPhase, hKind⟩ hAnswered
          | updateConfig => exact set_undisturbed h (not_live_of_phase (by simp))
      | started => exact h
      | checked present => exact h
      | waiting => exact h
      | finished result => exact h
    refine iff_of_true hNext fun found config hFound hPhase hKind => ?_
    rw [hRequest, Option.some.injEq] at hFound
    subst hFound
    exact absurd ⟨config, hPhase, hKind⟩ hAnswered

/-- Every event disturbs nobody exactly when it is clear. -/
theorem cacheStep_undisturbed_iff (state : CacheState Config) (event : CacheEvent Config)
    (h : Undisturbed state) : Undisturbed (cacheStep state event) ↔ Clear state event := by
  have hOn : ∀ number act, (∀ request, state.requests number = some request →
      (Undisturbed (act state number request) ↔ Clear state event)) →
        (state.requests number = none → Clear state event) →
          (Undisturbed (onRequest state number act) ↔ Clear state event) := by
    intro number act hSome hNone
    unfold onRequest
    cases hRequest : state.requests number with
    | none => exact iff_of_true h (hNone hRequest)
    | some request => exact hSome request hRequest
  cases event with
  | start number kind device => exact iff_of_true (start_undisturbed h number kind device) trivial
  | check number =>
      exact hOn number _ (fun request _ => iff_of_true (check_undisturbed h number request) trivial)
        fun _ => trivial
  | insert number =>
      exact hOn number _ (fun request hRequest => insert_iff h hRequest)
        fun hNone found _ hFound => by rw [hNone] at hFound; cases hFound
  | respond device key config =>
      exact iff_of_true (respond_undisturbed h device key config) trivial
  | timer number =>
      exact hOn number _ (fun request hRequest => timer_iff h hRequest)
        fun hNone found hFound => by rw [hNone] at hFound; cases hFound
  | timeout number =>
      exact hOn number _
        (fun request _ => iff_of_true (timeOut_undisturbed h number request) trivial)
        fun _ => trivial
  | complete number =>
      exact hOn number _ (fun request hRequest => complete_iff h hRequest)
        fun hNone found _ hFound => by rw [hNone] at hFound; cases hFound

/-- All requests stay undisturbed throughout a run exactly if every step is clear. -/
theorem undisturbed_iff_clear (events : List (CacheEvent Config)) :
    Along cacheStep Undisturbed CacheState.initial events ↔
      Meets cacheStep Clear CacheState.initial events := by
  refine along_iff_meets (fun _ _ (_ : True) _ _ => trivial)
    (fun state event _ h => cacheStep_undisturbed_iff state event h) _ events trivial ?_
  refine undisturbed_iff.mpr ⟨rfl, fun number slot hLive => ?_⟩
  obtain ⟨request, hRequest, _⟩ := hLive
  cases hRequest

/-- Two requests for one device both find no map; the second forgets the first. -/
def lostInsert : List (CacheEvent Unit) :=
  [.start 0 .config ⟨5⟩, .start 1 .config ⟨5⟩, .check 0, .check 1, .insert 0, .insert 1]

theorem request_disturbed : ¬∀ events : List (CacheEvent Unit),
    Along cacheStep Undisturbed CacheState.initial events := by
  intro h
  have hDelivered := (h lostInsert 6).delivered 0
    { kind := .config, device := ⟨5⟩, key := 0, phase := .waiting, timerPending := true } ()
    (by decide) ⟨rfl, rfl, rfl⟩
  exact absurd hDelivered (by decide)

end SnapEmu.Event
