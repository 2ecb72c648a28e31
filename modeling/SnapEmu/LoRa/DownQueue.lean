import SnapEmu.LoRa.Counter
import SnapEmu.LoRa.Downlink

/-! The life of queued downlink messages. A message is queued by a dispatch,
which may spawn a task that repeats it, and leaves by the pull of an uplink or
by the commit of such a task. -/
namespace SnapEmu.LoRa

open Device Semantics

/-- Where a repetition task stands between two operations on the queue. -/
inductive Phase where
  | sleeping
  | resending
  | leaving
  | ended
  deriving DecidableEq

/-- A spawned `repetition_task`: its arguments, the device EUI that the spawn
captures, and its progress. -/
structure Repetition where
  data : DownloadData
  deviceAddr : LoRaAddr
  deviceEui : Eui
  counter : Nat
  devEui : Eui
  repetition : Nat
  phase : Phase
  deriving DecidableEq

/-- After the sleep: resend while the message stands at the front. -/
def Repetition.wake (cache : DownloadDataCache) (task : Repetition) : Repetition :=
  if cache.repetitionTask task.deviceEui task.counter then { task with phase := .resending }
  else { task with phase := .leaving }

/-- After the resend. An error ends the task without a commit. -/
def Repetition.resent (task : Repetition) (success : Bool) : Repetition :=
  if success then
    { task with
      repetition := task.repetition + 1
      phase := if task.repetition + 1 = 10 then .leaving else .sleeping }
  else { task with phase := .ended }

/-- Up to the spawn; `built` tells whether the gateway was found and the frame
made. -/
def LoRaNode.dispatchTask (cache : DownloadDataCache) (node : LoRaNode) (task : DownloadData)
    (built : Bool) : DownloadDataCache × Option Repetition :=
  if node.info.classC then
    let task := { task with upCount := some node.info.upCount }
    match node.info.gateway with
    | some gatewayEui =>
        if built then
          let (cache, counter) := cache.insert node.info.devEui task
          (cache,
            some ⟨task, node.info.devAddr, gatewayEui, counter, node.info.devEui, 0, .sleeping⟩)
        else (cache, none)
    | none => (cache, none)
  else (cache, none)

/-- A class C node with a gateway is sent the message at once; else it is
queued. -/
def LoRaNode.dispatchTaskNow (cache : DownloadDataCache) (node : LoRaNode) (task : DownloadData) :
    DownloadDataCache × Option Nat :=
  let task := { task with upCount := some node.info.upCount }
  if node.info.classC && node.info.gateway.isSome then (cache, none)
  else
    let (cache, counter) := cache.insert node.info.devEui task
    (cache, some counter)

namespace DownQueue

/-- How a message left its queue. -/
inductive Departure where
  | pulled
  | committed (task : Nat) (wasSent : Bool)
  deriving DecidableEq

/-- The queues and the tasks at work on them: dispatches that still have to
send, repetition tasks, pulls that still have to send. Recorded besides: what
was sent, pulls that failed, and what entered and left each queue. -/
structure State where
  cache : DownloadDataCache
  dispatching : List Nat
  repetitions : Nat → Option Repetition
  pulling : List Nat
  sent : List Nat
  lost : List Nat
  entered : Eui → List Nat
  left : Eui → List (Nat × Departure)

inductive Event where
  | dispatchTask (node : LoRaNode) (task : DownloadData) (built : Bool)
  | dispatched (counter : Nat) (success : Bool)
  | dispatchTaskNow (node : LoRaNode) (task : DownloadData)
  | pullTask (node : LoRaNode)
  | pulled (counter : Nat) (success : Bool)
  | wake (counter : Nat)
  | resent (counter : Nat) (delivered counted : Bool)
  | commit (counter : Nat)

def init : State where
  cache := ⟨fun _ => [], 0⟩
  dispatching := []
  repetitions := fun _ => none
  pulling := []
  sent := []
  lost := []
  entered := fun _ => []
  left := fun _ => []

def State.enter (state : State) (eui : Eui) (counter : Nat) : State :=
  { state with entered := Function.update state.entered eui (state.entered eui ++ [counter]) }

def State.leave (state : State) (eui : Eui) (departure : Nat × Departure) : State :=
  { state with left := Function.update state.left eui (state.left eui ++ [departure]) }

def State.setRepetition (state : State) (task : Repetition) : State :=
  { state with repetitions := Function.update state.repetitions task.counter (some task) }

def step (state : State) : Event → State
  | .dispatchTask node task built =>
      match node.dispatchTask state.cache task built with
      | (cache, some repetition) =>
          { ((state.enter node.info.devEui repetition.counter).setRepetition repetition) with
            cache := cache
            dispatching := repetition.counter :: state.dispatching }
      | (_, none) => state
  | .dispatched counter success =>
      if counter ∈ state.dispatching then
        { state with
          dispatching := state.dispatching.erase counter
          sent := if success then counter :: state.sent else state.sent }
      else state
  | .dispatchTaskNow node task =>
      match node.dispatchTaskNow state.cache task with
      | (cache, some counter) => { (state.enter node.info.devEui counter) with cache := cache }
      | (_, none) => state
  | .pullTask node =>
      match (state.cache.data node.info.devEui).head?, state.cache.pop node.info.devEui with
      | some front, (cache, some task) =>
          let state := state.leave node.info.devEui (front.downId, .pulled)
          if task.upCount.isSome then
            { state with cache := cache, pulling := front.downId :: state.pulling }
          else { state with cache := cache, lost := front.downId :: state.lost }
      | _, _ => state
  | .pulled counter success =>
      if counter ∈ state.pulling then
        { state with
          pulling := state.pulling.erase counter
          sent := if success then counter :: state.sent else state.sent
          lost := if success then state.lost else counter :: state.lost }
      else state
  | .wake counter =>
      match state.repetitions counter with
      | some task =>
          if task.phase = .sleeping then state.setRepetition (task.wake state.cache) else state
      | none => state
  | .resent counter delivered counted =>
      match state.repetitions counter with
      | some task =>
          if task.phase = .resending then
            { (state.setRepetition (task.resent (delivered && counted))) with
              sent := if delivered then counter :: state.sent else state.sent }
          else state
      | none => state
  | .commit counter =>
      match state.repetitions counter with
      | some task =>
          if task.phase = .leaving then
            let ended := state.setRepetition { task with phase := .ended }
            match (state.cache.data task.deviceEui).head? with
            | some front =>
                { (ended.leave task.deviceEui
                    (front.downId, .committed counter (decide (front.downId ∈ state.sent)))) with
                  cache := state.cache.commit task.deviceEui }
            | none => { ended with cache := state.cache.commit task.deviceEui }
          else state
      | none => state

/-- The identifiers of a queue, from its front. -/
def ids (cache : DownloadDataCache) (eui : Eui) : List Nat :=
  (cache.data eui).map DownloadDataWrap.downId

/-- The condition on a step. A pull that took a message sends it. A task that
wakes finds its message at the front of the queue it looks at, or gone from
the queue of its device, and only a task whose message is gone may fail. A
commit finds no message, or that of its own task, which has been sent. -/
def Undisturbed (state : State) : Event → Prop
  | .pulled counter success => counter ∈ state.pulling → success = true
  | .wake counter => ∀ task ∈ state.repetitions counter, task.phase = .sleeping →
      state.cache.repetitionTask task.deviceEui counter = true ∨
        counter ∉ ids state.cache task.devEui
  | .resent counter delivered counted => ∀ task ∈ state.repetitions counter,
      task.phase = .resending →
        (delivered && counted) = true ∨ counter ∉ ids state.cache task.devEui
  | .commit counter => ∀ task ∈ state.repetitions counter, task.phase = .leaving →
      ∀ front ∈ (state.cache.data task.deviceEui).head?,
        front.downId = counter ∧ counter ∈ state.sent
  | _ => True

/-- A task with its message still queued is at work, or has repeated it ten
times. -/
structure TaskKept (cache : DownloadDataCache) (counter : Nat) (task : Repetition) : Prop where
  own : task.counter = counter
  fresh : counter < cache.counter
  active : counter ∈ ids cache task.devEui →
    task.phase = .sleeping ∨ task.phase = .resending ∨ task.repetition = 10

structure Kept (state : State) : Prop where
  order : ∀ eui, state.entered eui = (state.left eui).map Prod.fst ++ ids state.cache eui
  own : ∀ eui, ∀ departure ∈ state.left eui,
    departure.2 = .pulled ∨ departure.2 = .committed departure.1 true
  lost : state.lost = []
  stamped : ∀ eui, ∀ wrap ∈ state.cache.data eui, wrap.data.upCount.isSome
  fresh : ∀ eui, ∀ counter ∈ ids state.cache eui, counter < state.cache.counter
  tasks : ∀ counter task, state.repetitions counter = some task → TaskKept state.cache counter task

/-- At the start every queue is empty. -/
theorem kept_init : Kept init := by
  constructor <;> simp [init, ids]

variable {state : State}

/-- A new task goes to the end of its queue. -/
theorem ids_insert_self (cache : DownloadDataCache) (eui : Eui) (message : DownloadData) :
    ids (cache.insert eui message).1 eui = ids cache eui ++ [cache.counter] := by
  simp [ids, DownloadDataCache.insert]

/-- The other queues stay as they are. -/
theorem ids_insert_of_ne (cache : DownloadDataCache) {eui other : Eui} (message : DownloadData)
    (hEui : other ≠ eui) : ids (cache.insert eui message).1 other = ids cache other := by
  simp [ids, DownloadDataCache.insert, hEui]

/-- A number in a queue was there before or is the new one. -/
theorem mem_ids_insert {cache : DownloadDataCache} {eui other : Eui} {message : DownloadData}
    {counter : Nat} (hMem : counter ∈ ids (cache.insert eui message).1 other) :
    counter ∈ ids cache other ∨ counter = cache.counter := by
  by_cases hEui : other = eui
  · subst hEui
    rw [ids_insert_self, List.mem_append, List.mem_singleton] at hMem
    exact hMem
  · rw [ids_insert_of_ne cache message hEui] at hMem
    exact Or.inl hMem

/-- A stamped message enters a queue. -/
theorem Kept.enter (h : Kept state) (eui : Eui) {message : DownloadData}
    (hStamped : message.upCount.isSome) :
    Kept { (state.enter eui state.cache.counter) with
      cache := (state.cache.insert eui message).1 } where
  order := by
    intro other
    by_cases hEui : other = eui
    · subst hEui
      simp [State.enter, ids_insert_self, h.order]
    · simp [State.enter, ids_insert_of_ne _ _ hEui, hEui, h.order]
  own := h.own
  lost := h.lost
  stamped := by
    intro other wrap hWrap
    by_cases hEui : other = eui
    · subst hEui
      simp only [DownloadDataCache.insert, Function.update_self, List.mem_append,
        List.mem_singleton] at hWrap
      rcases hWrap with hOld | rfl
      · exact h.stamped other wrap hOld
      · exact hStamped
    · simp only [DownloadDataCache.insert, Function.update_of_ne hEui] at hWrap
      exact h.stamped other wrap hWrap
  fresh := by
    intro other counter hCounter
    rcases mem_ids_insert hCounter with hOld | rfl
    · exact Nat.lt_succ_of_lt (h.fresh other counter hOld)
    · exact Nat.lt_succ_self _
  tasks := by
    intro counter task hTask
    have hOld := h.tasks counter task hTask
    refine ⟨hOld.own, Nat.lt_succ_of_lt hOld.fresh, fun hCounter => ?_⟩
    rcases mem_ids_insert hCounter with hQueued | rfl
    · exact hOld.active hQueued
    · exact absurd hOld.fresh (Nat.lt_irrefl _)

/-- Changing a repetition keeps the queues, when its task stays kept. -/
theorem Kept.setRepetition (h : Kept state) {counter : Nat} {task : Repetition}
    (hTask : TaskKept state.cache counter task) : Kept (state.setRepetition task) where
  order := h.order
  own := h.own
  lost := h.lost
  stamped := h.stamped
  fresh := h.fresh
  tasks := by
    intro name other hOther
    by_cases hName : name = counter
    · subst hName
      simp only [State.setRepetition, hTask.own, Function.update_self, Option.some.injEq] at hOther
      exact hOther ▸ hTask
    · simp only [State.setRepetition, hTask.own, Function.update_of_ne hName] at hOther
      exact h.tasks name other hOther

/-- Popping removes the front of a queue. -/
theorem ids_pop_self (cache : DownloadDataCache) {eui : Eui} {front : DownloadDataWrap}
    (hFront : (cache.data eui).head? = some front) :
    ids cache eui = front.downId :: ids (cache.pop eui).1 eui := by
  obtain ⟨rest, hRest⟩ := List.head?_eq_some_iff.mp hFront
  simp [ids, DownloadDataCache.pop, hRest]

/-- Popping adds no task. -/
theorem data_pop_subset (cache : DownloadDataCache) (eui other : Eui) :
    (cache.pop eui).1.data other ⊆ cache.data other := by
  by_cases hEui : other = eui
  · subst hEui
    simpa [DownloadDataCache.pop] using List.tail_subset _
  · simp [DownloadDataCache.pop, hEui]

theorem ids_pop_subset (cache : DownloadDataCache) (eui other : Eui) :
    ids (cache.pop eui).1 other ⊆ ids cache other :=
  List.map_subset _ (data_pop_subset cache eui other)

/-- Popping leaves the other queues. -/
theorem ids_pop_of_ne (cache : DownloadDataCache) {eui other : Eui} (hEui : other ≠ eui) :
    ids (cache.pop eui).1 other = ids cache other := by
  simp [ids, DownloadDataCache.pop, hEui]

/-- A task keeps its promise when messages leave. -/
theorem TaskKept.pop {cache : DownloadDataCache} {counter : Nat} {task : Repetition}
    (h : TaskKept cache counter task) (eui : Eui) : TaskKept (cache.pop eui).1 counter task :=
  ⟨h.own, h.fresh, fun hCounter => h.active (ids_pop_subset cache eui _ hCounter)⟩

/-- The front of a queue leaves, by a pull or by the commit of its own task
after it was sent. -/
theorem Kept.leave (h : Kept state) {eui : Eui} {front : DownloadDataWrap}
    (hFront : (state.cache.data eui).head? = some front) {departure : Departure}
    (hDeparture : departure = .pulled ∨ departure = .committed front.downId true) :
    Kept { (state.leave eui (front.downId, departure)) with
      cache := (state.cache.pop eui).1 } where
  order := by
    intro other
    by_cases hEui : other = eui
    · subst hEui
      have hOrder := h.order other
      rw [ids_pop_self _ hFront] at hOrder
      simp [State.leave, hOrder]
    · simp [State.leave, ids_pop_of_ne _ hEui, hEui, h.order]
  own := by
    intro other removed hRemoved
    by_cases hEui : other = eui
    · subst hEui
      simp only [State.leave, Function.update_self, List.mem_append, List.mem_singleton] at hRemoved
      rcases hRemoved with hOld | rfl
      · exact h.own other removed hOld
      · exact hDeparture
    · simp only [State.leave, Function.update_of_ne hEui] at hRemoved
      exact h.own other removed hRemoved
  lost := h.lost
  stamped := fun other wrap hWrap => h.stamped other wrap (data_pop_subset _ _ _ hWrap)
  fresh := fun other counter hCounter => h.fresh other counter (ids_pop_subset _ _ _ hCounter)
  tasks := fun counter task hTask => (h.tasks counter task hTask).pop eui

/-- Queueing a task keeps the tasks that wait. -/
theorem Kept.dispatchTask (h : Kept state) (node : LoRaNode) (task : DownloadData) (built : Bool) :
    Kept (step state (.dispatchTask node task built)) := by
  simp only [step, LoRaNode.dispatchTask]
  by_cases hClass : node.info.classC
  · cases hGateway : node.info.gateway with
    | none => simpa [hClass] using h
    | some gatewayEui =>
        cases built with
        | false => simpa [hClass] using h
        | true =>
            simp only [hClass, if_true]
            let stamped : DownloadData := { task with upCount := some node.info.upCount }
            let repetition : Repetition := ⟨stamped, node.info.devAddr, gatewayEui,
              state.cache.counter, node.info.devEui, 0, .sleeping⟩
            have hTask : TaskKept (state.cache.insert node.info.devEui stamped).1
                state.cache.counter repetition :=
              ⟨rfl, Nat.lt_succ_self _, fun _ => Or.inl rfl⟩
            have hEntered : Kept { (state.enter node.info.devEui state.cache.counter) with
                cache := (state.cache.insert node.info.devEui stamped).1 } :=
              h.enter node.info.devEui rfl
            have hSpawned := hEntered.setRepetition hTask
            exact ⟨hSpawned.order, hSpawned.own, hSpawned.lost, hSpawned.stamped, hSpawned.fresh,
              hSpawned.tasks⟩
  · simpa [hClass] using h

/-- Sending a task at once keeps the tasks that wait. -/
theorem Kept.dispatchTaskNow (h : Kept state) (node : LoRaNode) (task : DownloadData) :
    Kept (step state (.dispatchTaskNow node task)) := by
  simp only [step, LoRaNode.dispatchTaskNow]
  split_ifs
  · exact h
  · exact h.enter node.info.devEui rfl

/-- Pulling the front task keeps the others. -/
theorem Kept.pullTask (h : Kept state) (node : LoRaNode) : Kept (step state (.pullTask node)) := by
  simp only [step]
  cases hFront : (state.cache.data node.info.devEui).head? with
  | none => exact h
  | some front =>
      have hStamped := h.stamped _ front (List.mem_of_head? hFront)
      have hLeft := h.leave hFront (Or.inl rfl)
      simp only [DownloadDataCache.pop, hFront, Option.map_some, hStamped, if_true]
      exact ⟨hLeft.order, hLeft.own, hLeft.lost, hLeft.stamped, hLeft.fresh, hLeft.tasks⟩

/-- A task that wakes resends, unless its message is gone. -/
theorem TaskKept.wake {cache : DownloadDataCache} {counter : Nat} {task : Repetition}
    (h : TaskKept cache counter task)
    (hFound : cache.repetitionTask task.deviceEui counter = true ∨
      counter ∉ ids cache task.devEui) :
    TaskKept cache counter (task.wake cache) := by
  rw [Repetition.wake, h.own]
  split_ifs with hFront
  · exact ⟨rfl, h.fresh, fun _ => Or.inr (Or.inl rfl)⟩
  · exact ⟨rfl, h.fresh, fun hQueued => absurd hQueued (hFound.resolve_left hFront)⟩

/-- A task that resent sleeps again, or has done so ten times. -/
theorem TaskKept.resent {cache : DownloadDataCache} {counter : Nat} {task : Repetition}
    (h : TaskKept cache counter task) {success : Bool}
    (hSuccess : success = true ∨ counter ∉ ids cache task.devEui) :
    TaskKept cache counter (task.resent success) := by
  cases success with
  | true =>
      by_cases hLast : task.repetition + 1 = 10
      · exact ⟨h.own, h.fresh, fun _ => Or.inr (Or.inr hLast)⟩
      · exact ⟨h.own, h.fresh, fun _ => Or.inl (if_neg hLast)⟩
  | false =>
      exact ⟨h.own, h.fresh,
        fun hQueued => absurd hQueued (hSuccess.resolve_left Bool.false_ne_true)⟩

/-- A task that is left ends. -/
theorem TaskKept.end {cache : DownloadDataCache} {counter : Nat} {task : Repetition}
    (h : TaskKept cache counter task) (hLeaving : task.phase = .leaving) :
    TaskKept cache counter { task with phase := .ended } := by
  refine ⟨h.own, h.fresh, fun hQueued => ?_⟩
  rcases h.active hQueued with hSleeping | hResending | hTen
  · rw [hLeaving] at hSleeping
    cases hSleeping
  · rw [hLeaving] at hResending
    cases hResending
  · exact Or.inr (Or.inr hTen)

/-- A wake-up that nothing disturbed keeps the tasks. -/
theorem Kept.wake (h : Kept state) {counter : Nat} (hWake : Undisturbed state (.wake counter)) :
    Kept (step state (.wake counter)) := by
  simp only [step]
  cases hTask : state.repetitions counter with
  | none => exact h
  | some task =>
      dsimp only
      split_ifs with hSleeping
      · exact h.setRepetition ((h.tasks counter task hTask).wake (hWake task hTask hSleeping))
      · exact h

/-- A retransmission that nothing disturbed keeps the tasks. -/
theorem Kept.resent (h : Kept state) {counter : Nat} {delivered counted : Bool}
    (hResent : Undisturbed state (.resent counter delivered counted)) :
    Kept (step state (.resent counter delivered counted)) := by
  simp only [step]
  cases hTask : state.repetitions counter with
  | none => exact h
  | some task =>
      dsimp only
      by_cases hResending : task.phase = .resending
      · have hNext := h.setRepetition
          ((h.tasks counter task hTask).resent (hResent task hTask hResending))
        rw [if_pos hResending]
        exact ⟨hNext.order, hNext.own, hNext.lost, hNext.stamped, hNext.fresh, hNext.tasks⟩
      · rw [if_neg hResending]
        exact h

/-- A commit that nothing disturbed keeps the tasks. -/
theorem Kept.commit (h : Kept state) {counter : Nat}
    (hCommit : Undisturbed state (.commit counter)) : Kept (step state (.commit counter)) := by
  simp only [step]
  cases hTask : state.repetitions counter with
  | none => exact h
  | some task =>
      dsimp only
      split_ifs with hLeaving
      · have hEnded := h.setRepetition ((h.tasks counter task hTask).end hLeaving)
        cases hFront : (state.cache.data task.deviceEui).head? with
        | none =>
            have hCache : state.cache.commit task.deviceEui = state.cache := by
              have hEmpty := List.head?_eq_none_iff.mp hFront
              rw [DownloadDataCache.commit, DownloadDataCache.pop, hEmpty, List.tail_nil, ← hEmpty,
                Function.update_eq_self]
            dsimp only
            rw [hCache]
            exact hEnded
        | some front =>
            obtain ⟨hOwn, hSent⟩ := hCommit task hTask hLeaving front hFront
            have hDeparture : Departure.committed counter (decide (front.downId ∈ state.sent)) =
                .committed front.downId true := by
              rw [hOwn, decide_eq_true hSent]
            exact hEnded.leave hFront (Or.inr hDeparture)
      · exact h

/-- Every undisturbed step keeps the queues. -/
theorem Kept.step (state : State) (event : Event) (h : Kept state)
    (hUndisturbed : Undisturbed state event) : Kept (DownQueue.step state event) := by
  cases event with
  | dispatchTask node task built => exact h.dispatchTask node task built
  | dispatched counter success =>
      simp only [DownQueue.step]
      split_ifs <;> exact ⟨h.order, h.own, h.lost, h.stamped, h.fresh, h.tasks⟩
  | dispatchTaskNow node task => exact h.dispatchTaskNow node task
  | pullTask node => exact h.pullTask node
  | pulled counter success =>
      simp only [DownQueue.step]
      split_ifs with hPulling hSuccess
      · exact ⟨h.order, h.own, h.lost, h.stamped, h.fresh, h.tasks⟩
      · exact absurd (hUndisturbed hPulling) hSuccess
      · exact h
  | wake counter => exact h.wake hUndisturbed
  | resent counter delivered counted => exact h.resent hUndisturbed
  | commit counter => exact h.commit hUndisturbed

/-- Messages of a device leave in the order in which they entered; each left
by a pull, none of which failed, or by the commit of its own task after it was
sent; and the task of a message at the front is at work, or has repeated the
message ten times. -/
structure Orderly (state : State) : Prop where
  order : ∀ eui, state.entered eui = (state.left eui).map Prod.fst ++ ids state.cache eui
  own : ∀ eui, ∀ departure ∈ state.left eui,
    departure.2 = .pulled ∨ departure.2 = .committed departure.1 true
  lost : state.lost = []
  repeats : ∀ counter task, state.repetitions counter = some task →
    (ids state.cache task.devEui).head? = some counter →
      task.phase = .sleeping ∨ task.phase = .resending ∨ task.repetition = 10

/-- Undisturbed runs are orderly. -/
theorem orderly_run (events : List Event) (hUndisturbed : Meets step Undisturbed init events) :
    Orderly (run step init events) := by
  have hKept := run_invariant Kept.step init events kept_init hUndisturbed
  exact ⟨hKept.order, hKept.own, hKept.lost, fun counter task hTask hFront =>
    (hKept.tasks counter task hTask).active (List.mem_of_head? hFront)⟩

instance (state : State) : ∀ event, Decidable (Undisturbed state event)
  | .dispatchTask _ _ _ | .dispatched _ _ | .dispatchTaskNow _ _ | .pullTask _ => .isTrue trivial
  | .pulled _ _ => inferInstanceAs (Decidable (_ → _))
  | .wake counter => inferInstanceAs (Decidable (∀ task ∈ state.repetitions counter, _ → _ ∨ _))
  | .resent counter _ _ =>
      inferInstanceAs (Decidable (∀ task ∈ state.repetitions counter, _ → _ ∨ _))
  | .commit counter =>
      inferInstanceAs (Decidable (∀ task ∈ state.repetitions counter, _ → ∀ front ∈ _, _ ∧ _))

/-- A class C node behind the gateway with EUI 1. -/
def sampleNode : LoRaNode := ⟨{ sampleInfo 5 9 with classC := true, gateway := some ⟨1⟩ }⟩

/-- A message that is dispatched, and pulled before its task first wakes. -/
theorem orderly_run_sample :
    Orderly (run step init [.dispatchTask sampleNode ⟨2, none, [1], 1⟩ true, .dispatched 0 true,
      .pullTask sampleNode, .pulled 0 true, .wake 0, .commit 0]) :=
  orderly_run _ (by decide +kernel)

/-- The task looks for its message under the EUI of the gateway: when it first
wakes it gives up, with the message at the front of the queue of its device. -/
theorem repetition_gives_up : ¬ ∀ events, Orderly (run step init events) := by
  intro h
  have hOrderly := h [.dispatchTask sampleNode ⟨2, none, [1], 1⟩ true, .dispatched 0 true, .wake 0]
  have hPhase := hOrderly.repeats 0
    ⟨⟨2, some 5, [1], 1⟩, default, ⟨1⟩, 0, default, 0, .leaving⟩ (by decide +kernel)
    (by decide +kernel)
  exact absurd hPhase (by decide)

end DownQueue
end SnapEmu.LoRa
