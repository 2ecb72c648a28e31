import SnapEmu.Semantics.Run

/-! Scripts of one runtime, one at a time, and the timers that are to stop
them. All of them share one flag, which the interrupt handler swaps away. -/
namespace SnapEmu.Decode

open Semantics

/-- The task that `ctx` spawns. `loaded` has found the flag clear and will set it. -/
inductive Timer where
  | sleeping | loaded | ended | aborted
  deriving DecidableEq

inductive Script where
  | waiting | running | finished | dropped
  deriving DecidableEq

structure JsContext where
  hand : Timer
  script : Script
  deriving DecidableEq

/-- Calls of `eval` are known by their places in `contexts`. The flag is kept
with the call whose timer set it, the lock with the call that holds it;
`interrupted` lists the scripts that were stopped, each with that timer. -/
structure JsManager where
  notify : Option Nat
  lock : Option Nat
  contexts : List JsContext
  interrupted : List (Nat × Nat)
  deriving DecidableEq

inductive JsEvent where
  | start
  | acquire (call : Nat)
  | fire (call : Nat)
  | store (call : Nat)
  | poll
  | finish (call : Nat)
  | drop (call : Nat)
  deriving DecidableEq

namespace JsManager

def new : JsManager := { notify := none, lock := none, contexts := [], interrupted := [] }

def set (manager : JsManager) (call : Nat) (context : JsContext) : JsManager :=
  { manager with contexts := manager.contexts.set call context }

end JsManager

/-- `ctx` spawns the timer before the lock of the runtime is held. -/
def startEval (manager : JsManager) : JsManager :=
  { manager with contexts := manager.contexts ++ [{ hand := .sleeping, script := .waiting }] }

def acquire (manager : JsManager) (call : Nat) (context : JsContext) : JsManager :=
  match context.script, manager.lock with
  | .waiting, none =>
      { manager with lock := some call }.set call { context with script := .running }
  | _, _ => manager

/-- The timer wakes up and loads the flag. -/
def fire (manager : JsManager) (call : Nat) (context : JsContext) : JsManager :=
  match context.hand with
  | .sleeping =>
      manager.set call { context with hand := if manager.notify.isSome then .ended else .loaded }
  | _ => manager

/-- To set a flag that is set changes nothing. -/
def store (manager : JsManager) (call : Nat) (context : JsContext) : JsManager :=
  match context.hand with
  | .loaded =>
      { manager with notify := some (manager.notify.getD call) }.set call
        { context with hand := .ended }
  | _ => manager

/-- The interrupt handler of the runtime, called for the script that runs. -/
def poll (manager : JsManager) : JsManager :=
  match manager.lock, manager.notify with
  | some call, some timer =>
      { manager with notify := none, interrupted := (call, timer) :: manager.interrupted }
  | _, _ => manager

def finish (manager : JsManager) (call : Nat) (context : JsContext) : JsManager :=
  match context.script with
  | .running => { manager with lock := none }.set call { context with script := .finished }
  | _ => manager

/-- A task can be aborted only while it sleeps. -/
def dropContext (manager : JsManager) (call : Nat) (context : JsContext) : JsManager :=
  match context.script with
  | .finished =>
      manager.set call
        { hand := if context.hand = .sleeping then .aborted else context.hand, script := .dropped }
  | _ => manager

def onEval (manager : JsManager) (call : Nat) (act : JsManager → Nat → JsContext → JsManager) :
    JsManager :=
  match manager.contexts[call]? with
  | none => manager
  | some context => act manager call context

def jsStep (manager : JsManager) : JsEvent → JsManager
  | .start => startEval manager
  | .acquire call => onEval manager call acquire
  | .fire call => onEval manager call fire
  | .store call => onEval manager call store
  | .poll => poll manager
  | .finish call => onEval manager call finish
  | .drop call => onEval manager call dropContext

/-- Scripts are stopped by their own timers only. -/
def Isolated (manager : JsManager) : Prop := ∀ stop ∈ manager.interrupted, stop.2 = stop.1

/-- A timer sets the flag while its own script runs, and a script that ends
leaves the flag clear. -/
def Timely (manager : JsManager) : JsEvent → Prop
  | .store call =>
      manager.contexts[call]?.map JsContext.hand = some .loaded → manager.notify = none →
        manager.lock = some call
  | .finish call =>
      manager.contexts[call]?.map JsContext.script = some .running → manager.notify = none
  | _ => True

instance (manager : JsManager) : ∀ event, Decidable (Timely manager event)
  | .store _ => inferInstanceAs (Decidable (_ → _ → _))
  | .finish _ => inferInstanceAs (Decidable (_ → _))
  | .start | .acquire _ | .fire _ | .poll | .drop _ => .isTrue trivial

variable {manager : JsManager} {call timer : Nat} {context : JsContext}

/-- The flag belongs to a call that has started. -/
def Started (manager : JsManager) : Prop :=
  ∀ timer, manager.notify = some timer → timer < manager.contexts.length

/-- Scripts are isolated, and a flag that is set was set for the script that runs. -/
structure OwnFlag (manager : JsManager) : Prop where
  isolated : Isolated manager
  running : ∀ timer, manager.notify = some timer → manager.lock = some timer

/-- What the step of a call keeps, if each context of it keeps it. -/
theorem onEval_keeps {Keeps : JsManager → Prop} {act : JsManager → Nat → JsContext → JsManager}
    (h : Keeps manager)
    (hAct : ∀ context, manager.contexts[call]? = some context → Keeps (act manager call context)) :
    Keeps (onEval manager call act) := by
  unfold onEval
  cases hContext : manager.contexts[call]? with
  | none => exact h
  | some context => exact hAct context hContext

/-- Taking the lock keeps the flag with its owner. -/
theorem acquire_own (h : OwnFlag manager) : OwnFlag (acquire manager call context) := by
  unfold acquire
  split
  · next hLock =>
      refine ⟨h.isolated, fun timer hFlag => ?_⟩
      rw [h.running timer hFlag] at hLock
      cases hLock
  · exact h

/-- A timer sets its own flag. -/
theorem fire_own (h : OwnFlag manager) : OwnFlag (fire manager call context) := by
  unfold fire
  split
  · exact ⟨h.isolated, h.running⟩
  · exact h

/-- A timely store installs the flag of the call that holds the lock. -/
theorem store_own (h : OwnFlag manager) (hContext : manager.contexts[call]? = some context)
    (hTimely : Timely manager (.store call)) : OwnFlag (store manager call context) := by
  unfold store
  split
  · next hHand =>
      refine ⟨h.isolated, fun timer hFlag => ?_⟩
      have hSetter : manager.notify.getD call = timer := Option.some.inj hFlag
      cases hNotify : manager.notify with
      | none =>
          rw [hNotify, Option.getD_none] at hSetter
          rw [← hSetter]
          exact hTimely (by rw [hContext, Option.map_some, hHand]) hNotify
      | some setter =>
          rw [hNotify, Option.getD_some] at hSetter
          exact h.running timer (by rw [hNotify, hSetter])
  · exact h

/-- Polling keeps the flag with its owner. -/
theorem poll_own (h : OwnFlag manager) : OwnFlag (poll manager) := by
  unfold poll
  split
  · next running timer hLock hFlag =>
      refine ⟨fun stop hStop => ?_, fun timer hFlag => by cases hFlag⟩
      rcases List.mem_cons.mp hStop with rfl | hBefore
      · have hOwn := h.running timer hFlag
        rw [hLock, Option.some.injEq] at hOwn
        exact hOwn.symm
      · exact h.isolated stop hBefore
  · exact h

/-- A timely end takes the flag away with the lock. -/
theorem finish_own (h : OwnFlag manager) (hContext : manager.contexts[call]? = some context)
    (hTimely : Timely manager (.finish call)) : OwnFlag (finish manager call context) := by
  unfold finish
  split
  · next hScript =>
      refine ⟨h.isolated, fun timer hFlag => ?_⟩
      have hClear := hTimely (by rw [hContext, Option.map_some, hScript])
      have hSet : manager.notify = some timer := hFlag
      rw [hClear] at hSet
      cases hSet
  · exact h

/-- Dropping a call keeps the flag with its owner. -/
theorem drop_own (h : OwnFlag manager) : OwnFlag (dropContext manager call context) := by
  unfold dropContext
  split
  · exact ⟨h.isolated, h.running⟩
  · exact h

/-- Each timely event keeps the flag with its owner. -/
theorem jsStep_own (event : JsEvent) (h : OwnFlag manager) (hTimely : Timely manager event) :
    OwnFlag (jsStep manager event) := by
  cases event with
  | start => exact ⟨h.isolated, h.running⟩
  | acquire call => exact onEval_keeps h fun _ _ => acquire_own h
  | fire call => exact onEval_keeps h fun _ _ => fire_own h
  | store call => exact onEval_keeps h fun _ hContext => store_own h hContext hTimely
  | poll => exact poll_own h
  | finish call => exact onEval_keeps h fun _ hContext => finish_own h hContext hTimely
  | drop call => exact onEval_keeps h fun _ _ => drop_own h

theorem set_started (manager : JsManager) (call : Nat) (context : JsContext)
    (h : Started manager) : Started (manager.set call context) := by
  intro timer hFlag
  have hLength : (manager.set call context).contexts.length = manager.contexts.length :=
    List.length_set
  rw [hLength]
  exact h timer hFlag

theorem store_started (h : Started manager) (hContext : manager.contexts[call]? = some context) :
    Started (store manager call context) := by
  unfold store
  split
  · refine set_started { manager with notify := some (manager.notify.getD call) } call _
      fun timer hFlag => ?_
    have hSetter : manager.notify.getD call = timer := Option.some.inj hFlag
    cases hNotify : manager.notify with
    | none =>
        rw [hNotify, Option.getD_none] at hSetter
        obtain ⟨hCall, _⟩ := List.getElem?_eq_some_iff.mp hContext
        exact hSetter ▸ hCall
    | some setter =>
        rw [hNotify, Option.getD_some] at hSetter
        exact h timer (by rw [hNotify, hSetter])
  · exact h

theorem poll_started (h : Started manager) : Started (poll manager) := by
  unfold poll
  split
  · intro timer hFlag
    cases hFlag
  · exact h

/-- Calls keep their places. -/
theorem jsStep_started (event : JsEvent) (h : Started manager) :
    Started (jsStep manager event) := by
  cases event with
  | start =>
      intro timer hFlag
      exact Nat.lt_of_lt_of_le (h timer hFlag) (by simp [jsStep, startEval])
  | acquire call =>
      refine onEval_keeps h fun context _ => ?_
      unfold acquire
      split
      · exact set_started { manager with lock := some call } call _ h
      · exact h
  | fire call =>
      refine onEval_keeps h fun context _ => ?_
      unfold fire
      split
      · exact set_started manager call _ h
      · exact h
  | store call => exact onEval_keeps h fun _ hContext => store_started h hContext
  | poll => exact poll_started h
  | finish call =>
      refine onEval_keeps h fun context _ => ?_
      unfold finish
      split
      · exact set_started { manager with lock := none } call _ h
      · exact h
  | drop call =>
      refine onEval_keeps h fun context _ => ?_
      unfold dropContext
      split
      · exact set_started manager call _ h
      · exact h

/-- A flag that is set stops the call that holds the lock. -/
theorem poll_stops {holder : Nat} (hLock : manager.lock = some holder)
    (hFlag : manager.notify = some timer) :
    (holder, timer) ∈ (jsStep manager .poll).interrupted := by
  rw [jsStep, poll, hLock, hFlag]
  exact List.mem_cons_self

/-- A call that starts while the lock is free can take it. -/
theorem acquire_new (hLock : manager.lock = none) :
    (jsStep (jsStep manager .start) (.acquire manager.contexts.length)).lock =
        some manager.contexts.length ∧
      (jsStep (jsStep manager .start) (.acquire manager.contexts.length)).notify =
        manager.notify := by
  have hNew : (startEval manager).contexts[manager.contexts.length]? =
      some { hand := .sleeping, script := .waiting } := by
    rw [startEval, List.getElem?_append_right (Nat.le_refl _), Nat.sub_self]
    rfl
  have hFree : (startEval manager).lock = none := hLock
  rw [jsStep, jsStep, onEval, hNew]
  dsimp only
  rw [acquire, hFree]
  exact ⟨rfl, rfl⟩

/-- A flag that is set while its script does not run stops another script:
the one that runs, or the next one to start. -/
theorem foreign_stop (hStarted : Started manager) (hFlag : manager.notify = some timer)
    (hLock : manager.lock ≠ some timer) : ∃ more, ¬Isolated (run jsStep manager more) := by
  cases hHolder : manager.lock with
  | some holder =>
      refine ⟨[.poll], fun hIsolated => ?_⟩
      have hOwn : timer = holder := hIsolated (holder, timer) (poll_stops hHolder hFlag)
      exact hLock (hHolder.trans (congrArg some hOwn.symm))
  | none =>
      refine ⟨[.start, .acquire manager.contexts.length, .poll], fun hIsolated => ?_⟩
      obtain ⟨hTaken, hSame⟩ := acquire_new hHolder
      have hOwn : timer = manager.contexts.length :=
        hIsolated (manager.contexts.length, timer) (poll_stops hTaken (hSame.trans hFlag))
      exact absurd (hStarted timer hFlag) (by rw [hOwn]; exact Nat.lt_irrefl _)

/-- After a step that is not timely the flag is set while its script does not run. -/
theorem flag_of_untimely {event : JsEvent} (hUntimely : ¬Timely manager event) :
    ∃ timer, (jsStep manager event).notify = some timer ∧
      (jsStep manager event).lock ≠ some timer := by
  cases event with
  | store call =>
      rw [Timely, Classical.not_imp, Classical.not_imp] at hUntimely
      obtain ⟨hHand, hNotify, hLock⟩ := hUntimely
      obtain ⟨context, hContext, hLoaded⟩ := Option.map_eq_some_iff.mp hHand
      refine ⟨call, ?_, ?_⟩
      · rw [jsStep, onEval, hContext]
        dsimp only
        rw [store, hLoaded, hNotify]
        rfl
      · rw [jsStep, onEval, hContext]
        dsimp only
        rw [store, hLoaded]
        exact hLock
  | finish call =>
      rw [Timely, Classical.not_imp] at hUntimely
      obtain ⟨hScript, hNotify⟩ := hUntimely
      obtain ⟨context, hContext, hRunning⟩ := Option.map_eq_some_iff.mp hScript
      obtain ⟨timer, hFlag⟩ := Option.ne_none_iff_exists'.mp hNotify
      refine ⟨timer, ?_, ?_⟩
      · rw [jsStep, onEval, hContext]
        dsimp only
        rw [finish, hRunning]
        exact hFlag
      · rw [jsStep, onEval, hContext]
        dsimp only
        rw [finish, hRunning]
        intro hTaken
        cases hTaken
  | start => exact absurd trivial hUntimely
  | acquire call => exact absurd trivial hUntimely
  | fire call => exact absurd trivial hUntimely
  | poll => exact absurd trivial hUntimely
  | drop call => exact absurd trivial hUntimely

/-- Scripts stay isolated throughout a run of timely steps, and a step that is
not timely can be followed by steps that stop the script of another call. -/
theorem isolated_while_timely (events : List JsEvent) :
    (Meets jsStep Timely JsManager.new events → Along jsStep Isolated JsManager.new events) ∧
      ∀ event, ¬Timely (run jsStep JsManager.new events) event →
        ∃ more, ¬Isolated (run jsStep JsManager.new (events ++ event :: more)) := by
  constructor
  · intro hTimely count
    have hStart : OwnFlag JsManager.new :=
      ⟨fun _ hStop => absurd hStop List.not_mem_nil, fun _ hFlag => by cases hFlag⟩
    exact (run_invariant (fun _ event h hEvent => jsStep_own event h hEvent) _ _ hStart
      (meets_take hTimely count)).isolated
  · intro event hUntimely
    have hStarted : Started (run jsStep JsManager.new (events ++ [event])) :=
      run_always (fun _ event h => jsStep_started event h) _ _ fun timer hFlag => by cases hFlag
    obtain ⟨timer, hFlag, hLock⟩ := flag_of_untimely hUntimely
    rw [run_append, run_cons, run_nil] at hStarted
    obtain ⟨more, hMore⟩ := foreign_stop hStarted hFlag hLock
    refine ⟨more, ?_⟩
    rwa [run_append, run_cons]

example : Meets jsStep Timely JsManager.new
    [.start, .acquire 0, .fire 0, .store 0, .poll, .finish 0, .drop 0] := by decide

/-- The timer of a script that waits for the lock stops the script that holds it. -/
def stoppedByWaiting : List JsEvent := [.start, .start, .acquire 1, .fire 0, .store 0, .poll]

theorem script_stopped_by_other : ¬∀ events : List JsEvent,
    Along jsStep Isolated JsManager.new events := by
  intro h
  have hStop := h stoppedByWaiting 6 (1, 0) (by decide)
  cases hStop

end SnapEmu.Decode
