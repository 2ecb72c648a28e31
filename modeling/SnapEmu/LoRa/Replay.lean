import SnapEmu.LoRa.Counter
import SnapEmu.Semantics.ReplayLog

/-! One session of a node under deliveries and replays of its frames. Each
task loads a copy of the node and checks its frame against that copy, at any
later time. -/
namespace SnapEmu.LoRa

open Device Semantics

variable {Plain : Type}

/-- The copy belongs to the session. -/
structure InSession (addr : LoRaAddr) (nwkSkey appSkey : Key) (info : NodeInfo) : Prop where
  devAddr : info.devAddr = addr
  nwkSkey : info.nwkSkey = nwkSkey
  appSkey : info.appSkey = appSkey

/-- A frame the device sent in the session. -/
structure SessionFrame (Plain : Type) (nwkSkey appSkey : Key) where
  payload : LoRaPayload Plain
  counter : UInt32
  made : payload.MadeWith nwkSkey appSkey counter

/-- How far a counter is ahead of a stored one, modulo `2 ^ 32`. -/
def ahead (upCount counter : UInt32) : Nat := (2 ^ 32 + counter.toNat - upCount.toNat) % 2 ^ 32

/-- The counter lies outside the two stretches ahead of the stored one that
the guess from the wire counter covers. -/
def OutOfReach (upCount counter : UInt32) : Prop :=
  2 ^ 15 ≤ ahead upCount counter ∧
    ¬(2 ^ 16 + 2 ^ 15 ≤ ahead upCount counter ∧ ahead upCount counter < 2 ^ 17)

/-- What tells an old frame by its counter: it repeats the low half of the
stored counter, past the first two, or it is from after the first `2 ^ 16`
frames and out of reach. -/
def Recognised (upCount counter : UInt32) : Prop :=
  upCount.toNat % 2 ^ 16 = counter.toNat % 2 ^ 16 ∧ 2 ≤ counter.toNat % 2 ^ 16 ∨
    2 ^ 16 ≤ counter.toNat ∧ OutOfReach upCount counter

instance (upCount counter : UInt32) : Decidable (Recognised upCount counter) :=
  inferInstanceAs (Decidable (_ ∧ _ ∨ _ ∧ _ ∧ ¬_))

/-- The guess finds the counters within its reach and no others. -/
theorem newUpCount_eq_iff {upCount counter : UInt32} :
    newUpCount upCount counter.toUInt16 = counter ↔ ¬OutOfReach upCount counter := by
  have hUpCount := upCount.toNat_lt
  have hCounter := counter.toNat_lt
  rw [← UInt32.toNat_inj, newUpCount_toNat, UInt32.toNat_toUInt16, OutOfReach, ahead]
  dsimp only
  split_ifs with hDiff <;> omega

/-- A repetition has the stored counter on the wire, from 2 on. -/
theorem isRepetition_iff {node : LoRaNode} {counter : UInt32} :
    isRepetition node counter.toUInt16 = true ↔
      node.info.upCount.toNat % 2 ^ 16 = counter.toNat % 2 ^ 16 ∧ 2 ≤ counter.toNat % 2 ^ 16 := by
  rw [← Bool.not_eq_false, isRepetition_eq_false, ne_eq, ← UInt16.toNat_inj, ← UInt16.toNat_inj,
    ← UInt16.toNat_inj, UInt32.toNat_toUInt16, UInt32.toNat_toUInt16,
    show (0 : UInt16).toNat = 0 by rfl, show (1 : UInt16).toNat = 1 by rfl]
  omega

variable {store : NodeStore} {node : LoRaNode} {payload : LoRaPayload Plain} {counter : UInt32}

/-- A recognised frame changes nothing. -/
theorem receive_refused (hMade : payload.MadeWith node.info.nwkSkey node.info.appSkey counter)
    (hOld : Recognised node.info.upCount counter) :
    receive store node payload = (store, false) := by
  obtain ⟨plain, _, hDecode⟩ := payloadDecode_admission store hMade
  by_cases hRepetition : isRepetition node payload.fcnt = true
  · rw [receive, if_pos hRepetition]
  · rw [hMade.fcnt, isRepetition_iff] at hRepetition
    obtain ⟨hLate, hFar⟩ := hOld.resolve_left hRepetition
    have hWire : ¬counter < 0x10000 := by
      rw [UInt32.lt_iff_toNat_lt, show (0x10000 : UInt32).toNat = 2 ^ 16 by rfl]
      exact Nat.not_lt.mpr hLate
    have hRefused : admission node.info.upCount counter = .refused := by
      rw [admission, if_neg (fun hGuess => newUpCount_eq_iff.mp hGuess hFar), if_neg hWire]
    rw [receive, if_neg (by rwa [hMade.fcnt, isRepetition_iff]), hDecode, hRefused]

/-- Any other frame is accepted and its counter stored; the down counter may
restart, and the session stays. -/
theorem receive_accepted (hMade : payload.MadeWith node.info.nwkSkey node.info.appSkey counter)
    (hNew : ¬Recognised node.info.upCount counter) {info : NodeInfo}
    (hLoad : NodeInfo.loadByAddr store node.info.devAddr = .ok (some info)) :
    (receive store node payload).2 = true ∧ ∃ downCount,
      NodeInfo.loadByAddr (receive store node payload).1 node.info.devAddr =
        .ok (some { info with upCount := counter, downCount := downCount }) := by
  obtain ⟨plain, _, hDecode⟩ := payloadDecode_admission store hMade
  obtain ⟨hOther, hNear⟩ := not_or.mp hNew
  have hFirst : ¬isRepetition node payload.fcnt = true := by
    rwa [hMade.fcnt, isRepetition_iff]
  have hStored := load_updateUpCount node counter hLoad
  rw [receive, if_neg hFirst, hDecode]
  by_cases hGuess : newUpCount node.info.upCount counter.toUInt16 = counter
  · rw [admission, if_pos hGuess]
    exact ⟨rfl, info.downCount, hStored⟩
  · have hFar : OutOfReach node.info.upCount counter := by
      by_contra hReach
      exact hGuess (newUpCount_eq_iff.mpr hReach)
    have hWire : counter < 0x10000 := by
      rw [UInt32.lt_iff_toNat_lt, show (0x10000 : UInt32).toNat = 2 ^ 16 by rfl]
      exact Nat.not_le.mp fun hLate => hNear ⟨hLate, hFar⟩
    rw [admission, if_neg hGuess, if_pos hWire]
    exact ⟨rfl, 0, load_resetDownCount hStored⟩

instance uint32PartialOrder : PartialOrder UInt32 where
  le_refl := UInt32.le_refl
  le_trans _ _ _ := UInt32.le_trans
  le_antisymm _ _ := UInt32.le_antisymm
  lt_iff_le_not_ge first second := by
    rw [UInt32.le_iff_toNat_le, UInt32.le_iff_toNat_le, UInt32.lt_iff_toNat_lt]
    omega

namespace Replay

/-- The clock in milliseconds, the cache, the copies of tasks that have not
checked their frame yet, what was accepted, and when the cached counter last
changed, if it did. -/
structure State where
  now : Nat
  store : NodeStore
  copies : List LoRaNode
  accepted : List (ReplayLog.Entry UInt32)
  raised : Option Nat

inductive Event (Plain : Type) (nwkSkey appSkey : Key) where
  | wait (time : Nat)
  | load
  | deliver (task : Nat) (frame : SessionFrame Plain nwkSkey appSkey)

def start (store : NodeStore) : State := ⟨0, store, [], [], none⟩

/-- The counter in the cache; an absent or unreadable record has none. -/
def storedUpCount (store : NodeStore) (addr : LoRaAddr) : UInt32 :=
  match NodeInfo.loadByAddr store addr with
  | .ok (some info) => info.upCount
  | _ => 0

variable {nwkSkey appSkey : Key}

def step (addr : LoRaAddr) (state : State) : Event Plain nwkSkey appSkey → State
  | .wait time => { state with now := state.now + time }
  | .load =>
      match NodeInfo.loadByAddr state.store addr with
      | .ok (some info) => { state with copies := ⟨info⟩ :: state.copies }
      | _ => state
  | .deliver task frame =>
      match state.copies[task]? with
      | none => state
      | some node =>
          let (store, isAccepted) := receive state.store node frame.payload
          { state with
            store := store
            copies := state.copies.eraseIdx task
            accepted :=
              if isAccepted then
                ⟨state.now, frame.counter, storedUpCount store addr⟩ :: state.accepted
              else state.accepted
            raised :=
              if storedUpCount store addr = storedUpCount state.store addr then state.raised
              else some state.now }

/-- The deliveries the check is made for. A frame not ahead of the cached
counter is the cached one, through another gateway and within the window from
when its counter was stored, or the task's copy tells that it is old. -/
def InOrder (addr : LoRaAddr) (state : State) : Event Plain nwkSkey appSkey → Prop
  | .deliver task frame =>
      ∀ node ∈ state.copies[task]?, frame.counter ≤ storedUpCount state.store addr →
        (frame.counter = storedUpCount state.store addr ∧
          ∃ first ∈ state.raised, state.now < first + window) ∨
        Recognised node.info.upCount frame.counter
  | _ => True

instance (addr : LoRaAddr) (state : State) :
    ∀ event : Event Plain nwkSkey appSkey, Decidable (InOrder addr state event)
  | .wait _ | .load => .isTrue trivial
  | .deliver task _ =>
      inferInstanceAs (Decidable (∀ node ∈ state.copies[task]?, _ → (_ ∧ ∃ first ∈ _, _) ∨ _))

/-- The session, its copies and the log of its acceptances, marked by the
cached counter. -/
structure Tracked (addr : LoRaAddr) (nwkSkey appSkey : Key) (initial : UInt32)
    (state : State) : Prop where
  cached : ∃ info, NodeInfo.loadByAddr state.store addr = .ok (some info) ∧
    InSession addr nwkSkey appSkey info ∧
    ReplayLog.Marked window initial info.upCount state.raised state.accepted
  copies : ∀ node ∈ state.copies, InSession addr nwkSkey appSkey node.info
  past : ∀ first, state.raised = some first → first ≤ state.now

/-- The stored counter of a record that loads. -/
theorem storedUpCount_eq {store : NodeStore} {addr : LoRaAddr} {info : NodeInfo}
    (hLoad : NodeInfo.loadByAddr store addr = .ok (some info)) :
    storedUpCount store addr = info.upCount := by
  rw [storedUpCount, hLoad]

variable {addr : LoRaAddr} {initial : UInt32} {state : State} {task : Nat}
  {frame : SessionFrame Plain nwkSkey appSkey}

/-- What a delivery does: nothing to the cache where the copy tells the frame
is old, else it stores and logs the frame's counter. -/
theorem Tracked.deliver_cases (h : Tracked addr nwkSkey appSkey initial state) {node : LoRaNode}
    (hTask : state.copies[task]? = some node) (frame : SessionFrame Plain nwkSkey appSkey) :
    (Recognised node.info.upCount frame.counter ∧
      step addr state (.deliver task frame) =
        { state with copies := state.copies.eraseIdx task }) ∨
    ¬Recognised node.info.upCount frame.counter ∧
      (step addr state (.deliver task frame)).accepted =
        ⟨state.now, frame.counter, frame.counter⟩ :: state.accepted ∧
      (step addr state (.deliver task frame)).raised =
        (if frame.counter = storedUpCount state.store addr then state.raised
          else some state.now) ∧
      ∃ info, NodeInfo.loadByAddr (step addr state (.deliver task frame)).store addr =
          .ok (some info) ∧ InSession addr nwkSkey appSkey info ∧
        info.upCount = frame.counter := by
  obtain ⟨info, hLoad, hSession, _⟩ := h.cached
  have hNode := h.copies node (List.mem_of_getElem? hTask)
  have hMade : frame.payload.MadeWith node.info.nwkSkey node.info.appSkey frame.counter := by
    rw [hNode.nwkSkey, hNode.appSkey]
    exact frame.made
  by_cases hOld : Recognised node.info.upCount frame.counter
  · refine Or.inl ⟨hOld, ?_⟩
    simp only [step, hTask, receive_refused hMade hOld, Bool.false_eq_true, if_false, if_true]
  · rw [← hNode.devAddr] at hLoad
    obtain ⟨hAccepted, downCount, hStored⟩ := receive_accepted hMade hOld hLoad
    rw [hNode.devAddr] at hLoad hStored
    refine Or.inr ⟨hOld, ?_⟩
    simp only [step, hTask, hAccepted, if_true, storedUpCount_eq hStored]
    exact ⟨trivial, trivial, _, hStored,
      ⟨hSession.devAddr, hSession.nwkSkey, hSession.appSkey⟩, rfl⟩

/-- A delivery in order keeps the log marked by the cached counter: it raises
both, or repeats the cached counter in its window, or changes neither. -/
theorem Tracked.deliver (h : Tracked addr nwkSkey appSkey initial state)
    (hInOrder : InOrder addr state (.deliver task frame)) :
    Tracked addr nwkSkey appSkey initial (step addr state (.deliver task frame)) := by
  cases hTask : state.copies[task]? with
  | none => simpa only [step, hTask] using h
  | some node =>
      obtain ⟨info, hLoad, hSession, hMarked⟩ := h.cached
      have hErase : ∀ other ∈ state.copies.eraseIdx task,
          InSession addr nwkSkey appSkey other.info := fun other hOther =>
        h.copies other (List.eraseIdx_subset hOther)
      have hCopies : (step addr state (.deliver task frame)).copies =
          state.copies.eraseIdx task := by
        simp only [step, hTask]
      have hNow : (step addr state (.deliver task frame)).now = state.now := by
        simp only [step, hTask]
      rcases h.deliver_cases hTask frame with ⟨_, hStep⟩ | ⟨hNew, hLog, hRaised, hCached⟩
      · rw [hStep]
        exact ⟨⟨info, hLoad, hSession, hMarked⟩, hErase, h.past⟩
      · obtain ⟨stored, hStored, hStoredSession, hCounter⟩ := hCached
        have hOrder := hInOrder node hTask
        rw [storedUpCount_eq hLoad] at hOrder hRaised
        refine ⟨⟨stored, hStored, hStoredSession, ?_⟩, hCopies ▸ hErase, ?_⟩
        · rw [hLog, hRaised, hCounter]
          by_cases hAhead : frame.counter ≤ info.upCount
          · obtain ⟨hSame, first, hFirst, hRecent⟩ := (hOrder hAhead).resolve_right hNew
            rw [if_pos hSame, hSame, hFirst]
            rw [hFirst] at hMarked
            exact hMarked.repeat hRecent (h.past first hFirst)
          · rw [if_neg (fun hSame => hAhead (le_of_eq hSame))]
            exact hMarked.advance (UInt32.not_le.mp hAhead)
        · rw [hRaised, hNow]
          intro first hFirst
          split_ifs at hFirst
          · exact h.past first hFirst
          · cases hFirst
            exact Nat.le_refl _

/-- Each event keeps the acceptances tracked, when it keeps the order. -/
theorem Tracked.step (state : State) (event : Event Plain nwkSkey appSkey)
    (h : Tracked addr nwkSkey appSkey initial state) (hInOrder : InOrder addr state event) :
    Tracked addr nwkSkey appSkey initial (Replay.step addr state event) := by
  cases event with
  | wait time =>
      exact ⟨h.cached, h.copies, fun first hFirst =>
        Nat.le_trans (h.past first hFirst) (Nat.le_add_right _ _)⟩
  | load =>
      obtain ⟨info, hLoad, hSession, hMarked⟩ := h.cached
      simp only [Replay.step, hLoad]
      refine ⟨⟨info, hLoad, hSession, hMarked⟩, fun node hNode => ?_, h.past⟩
      rcases List.mem_cons.mp hNode with rfl | hOld
      · exact hSession
      · exact h.copies node hOld
  | deliver task frame => exact h.deliver hInOrder

/-- A delivery out of order is accepted and does not raise the cached
counter: it sets it back, or comes after the window of the cached one. -/
theorem Tracked.out_of_order (h : Tracked addr nwkSkey appSkey initial state)
    {event : Event Plain nwkSkey appSkey} (hLate : ¬InOrder addr state event) :
    ∃ entry, (Replay.step addr state event).accepted = entry :: state.accepted ∧
      (entry.stored < storedUpCount state.store addr ∨
        entry.stored = storedUpCount state.store addr ∧
          ∀ first ∈ state.raised, first + window ≤ entry.time) := by
  cases event with
  | wait time => exact absurd trivial hLate
  | load => exact absurd trivial hLate
  | deliver task frame =>
      simp only [InOrder, not_forall, not_or, not_and, not_exists, exists_prop] at hLate
      obtain ⟨node, hTask, hBehind, hCopy, hOld⟩ := hLate
      rcases h.deliver_cases hTask frame with ⟨hKnown, _⟩ | ⟨_, hLog, _⟩
      · exact absurd hKnown hOld
      · refine ⟨_, hLog, ?_⟩
        rcases lt_or_eq_of_le hBehind with hLess | hSame
        · exact Or.inl hLess
        · exact Or.inr ⟨hSame, fun first hFirst => Nat.not_lt.mp (hCopy hSame first hFirst)⟩

/-- In every run in which each delivery is in order, no frame is accepted
twice outside the window, and each newly accepted frame stores a counter above
the initial one and above all stored before. A first delivery out of order
breaks this. -/
theorem accepted_once {store : NodeStore} {info : NodeInfo}
    (hLoad : NodeInfo.loadByAddr store info.devAddr = .ok (some info))
    (events : List (Event Plain info.nwkSkey info.appSkey))
    (hInOrder : Meets (step info.devAddr) (InOrder info.devAddr) (start store) events) :
    let final := run (step info.devAddr) (start store) events
    ReplayLog.Protected window info.upCount final.accepted ∧
      ∀ event : Event Plain info.nwkSkey info.appSkey, ¬InOrder info.devAddr final event →
        ∃ entry, (step info.devAddr final event).accepted = entry :: final.accepted ∧
          (entry.stored < storedUpCount final.store info.devAddr ∨
            entry.stored = storedUpCount final.store info.devAddr ∧
              ∀ first ∈ final.raised, first + window ≤ entry.time) := by
  have hStart : Tracked info.devAddr info.nwkSkey info.appSkey info.upCount (start store) :=
    ⟨⟨info, hLoad, ⟨rfl, rfl, rfl⟩, ReplayLog.marked_nil _ _⟩, by simp [start], by simp [start]⟩
  have hTracked := run_invariant Tracked.step _ events hStart hInOrder
  obtain ⟨_, _, _, hMarked⟩ := hTracked.cached
  exact ⟨hMarked.protects, fun event hLate => hTracked.out_of_order hLate⟩

/-- Frames of the session of a node in use. -/
def sampleFrameOf (upCount counter : UInt32) :
    SessionFrame Unit (sampleInfo upCount 0).nwkSkey (sampleInfo upCount 0).appSkey :=
  ⟨sampleFrame counter, counter, sampleFrame_madeWith _ _ counter⟩

abbrev SampleEvent (upCount : UInt32) : Type :=
  Event Unit (sampleInfo upCount 0).nwkSkey (sampleInfo upCount 0).appSkey

/-- Their session, from an empty log. -/
abbrev sampleRun (upCount : UInt32) (events : List (SampleEvent upCount)) : State :=
  run (step (sampleInfo upCount 0).devAddr) (start (sampleStore (sampleInfo upCount 0))) events

/-- Two receptions of frame 70001, 100 ms apart and each with a copy of its
own from before, then frame 70002, and ten seconds later 70001 again. -/
def sampleSession : List (SampleEvent 70000) :=
  [.load, .load, .deliver 0 (sampleFrameOf _ 70001), .wait 100, .deliver 0 (sampleFrameOf _ 70001),
    .wait 1000, .load, .deliver 0 (sampleFrameOf _ 70002),
    .wait 10000, .load, .deliver 0 (sampleFrameOf _ 70001)]

theorem accepted_once_sample :
    (sampleRun 70000 sampleSession).accepted =
        [⟨1100, 70002, 70002⟩, ⟨100, 70001, 70001⟩, ⟨0, 70001, 70001⟩] ∧
      ReplayLog.Protected window 70000 (sampleRun 70000 sampleSession).accepted := by
  have hLoad := loadByAddr_sampleStore (sampleInfo 70000 0)
  have hProtected := accepted_once hLoad sampleSession (by decide +kernel)
  exact ⟨by decide +kernel, hProtected.1⟩

/-- Frame 1 again, ten seconds after frame 2. -/
def sampleReplay : List (SampleEvent 0) :=
  [.load, .deliver 0 (sampleFrameOf _ 1), .wait 1000, .load, .deliver 0 (sampleFrameOf _ 2),
    .wait 10000, .load, .deliver 0 (sampleFrameOf _ 1)]

/-- The replayed frame passes by its wire counter alone. -/
theorem replayed_after_restart :
    ¬ ∀ events, ReplayLog.Protected window 0 (sampleRun 0 events).accepted := by
  have hAccepted : (sampleRun 0 sampleReplay).accepted =
      [⟨11000, 1, 1⟩, ⟨1000, 2, 2⟩, ⟨0, 1, 1⟩] := by decide +kernel
  refine not_forall.mpr ⟨sampleReplay, ?_⟩
  rw [hAccepted]
  rintro ⟨_, hTime, _⟩
  exact absurd (hTime ⟨0, 1, 1⟩ (by simp) rfl) (by decide)

end Replay
end SnapEmu.LoRa
