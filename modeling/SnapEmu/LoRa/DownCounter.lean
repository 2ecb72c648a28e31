import SnapEmu.LoRa.Counter
import SnapEmu.LoRa.Downlink

/-! Downlink counters under interleaved senders. Every sender works on a copy
of the node it loaded itself, takes the frame counter from that copy, and
counts in the cache, where the copy does not follow. -/
namespace SnapEmu.LoRa.DownCounter

open Device Semantics

/-- The paths that send to a node. -/
inductive Path where
  | pullTask
  | pullAck
  | dispatchTask
  | dispatchTaskNow
  | repetitionTask
  deriving DecidableEq

inductive Action where
  | build
  | updateDownCount
  | downLink
  deriving DecidableEq

/-- The order of the steps on each path, after the load. -/
def Path.actions : Path → List Action
  | .pullTask => [.updateDownCount, .build, .downLink]
  | .pullAck => [.build, .downLink, .updateDownCount]
  | .dispatchTask => [.build, .updateDownCount, .downLink]
  | .dispatchTaskNow => [.build, .updateDownCount, .downLink]
  | .repetitionTask => [.build, .downLink, .updateDownCount]

/-- The class C paths send at once, by the gateway of the copy. -/
def Path.enabled (node : NodeInfo) (task : DownloadData) : Path → Bool
  | .pullTask => task.upCount.isSome
  | .pullAck => true
  | .dispatchTask => node.classC && node.gateway.isSome
  | .dispatchTaskNow => node.classC && node.gateway.isSome
  | .repetitionTask => node.gateway.isSome

def Path.frame (node : NodeInfo) (task : DownloadData) : Path → DownFrame
  | .pullTask => RespDataBuilder.buildWithTask node task
  | .pullAck => RespDataBuilder.buildAck node
  | .dispatchTask => RespDataClassCBuilder.buildWithTask node task
  | .dispatchTaskNow => RespDataClassCBuilder.buildWithTask node task
  | .repetitionTask => RespDataClassCBuilder.buildWithTask node task

/-- A copy of the node, with the number of increments before it was loaded,
and what its task sends and has still to do. -/
structure Sender where
  node : LoRaNode
  loaded : Nat
  plan : Option (Path × DownloadData)
  todo : List Action
  frame : Option DownFrame

/-- A frame sent from a copy loaded after so many increments. -/
structure Sent where
  frame : DownFrame
  loaded : Nat
  deriving DecidableEq

structure State where
  store : NodeStore
  increments : Nat
  senders : List Sender
  sent : List Sent

inductive Event where
  | load
  | start (sender : Nat) (path : Path) (task : DownloadData)
  | act (sender : Nat) (success : Bool)

def init (store : NodeStore) : State := ⟨store, 0, [], []⟩

/-- The next step of a sender, where it succeeds. -/
def perform (state : State) (index : Nat) (sender : Sender) (path : Path) (task : DownloadData)
    (rest : List Action) : Action → State
  | .build =>
      { state with
        senders := state.senders.set index
          { sender with todo := rest, frame := some (path.frame sender.node.info task) } }
  | .updateDownCount =>
      match sender.node.updateDownCount state.store with
      | (store, .ok _) =>
          { state with
            store := store
            increments := state.increments + 1
            senders := state.senders.set index { sender with todo := rest } }
      | (store, .error _) =>
          { state with
            store := store
            senders := state.senders.set index { sender with todo := [] } }
  | .downLink =>
      { state with
        senders := state.senders.set index { sender with todo := rest }
        sent := (sender.frame.map (Sent.mk · sender.loaded)).toList ++ state.sent }

def step (addr : LoRaAddr) (state : State) : Event → State
  | .load =>
      match NodeInfo.loadByAddr state.store addr with
      | .ok (some info) =>
          { state with senders := state.senders ++ [⟨⟨info⟩, state.increments, none, [], none⟩] }
      | _ => state
  | .start index path task =>
      match state.senders[index]? with
      | some sender =>
          if sender.plan.isNone && path.enabled sender.node.info task then
            { state with
              senders := state.senders.set index
                { sender with plan := some (path, task), todo := path.actions } }
          else state
      | none => state
  | .act index success =>
      match state.senders[index]? with
      | some sender =>
          match sender.plan, sender.todo with
          | some (path, task), action :: rest =>
              if success then perform state index sender path task rest action
              else
                { state with senders := state.senders.set index { sender with todo := [] } }
          | _, _ => state
      | none => state

/-- A hash that differs from a loaded one in the down counter at most. -/
def counting (hash : NodeHash) (count : Int) : NodeHash :=
  Function.update hash .downCount (some (.int count))

/-- A record loaded is the record with its own counter. -/
theorem counting_self {hash : NodeHash} {base : NodeInfo} (hLoad : hash.load = .ok (some base)) :
    counting hash base.downCount.toNat = hash := by
  obtain ⟨fields, hRead, rfl⟩ := NodeHash.load_eq_some hLoad
  have hEntry := uint32_fromValue.mp (HashRecord.read_eq_some.mp hRead .downCount)
  exact Function.update_eq_self_iff.mpr hEntry.symm

/-- What a counting hash loads as: the keys of the record, and the count if
it is a counter. -/
theorem load_counting {hash : NodeHash} {base info : NodeInfo} {count : Int}
    (hLoad : hash.load = .ok (some base))
    (hCounting : (counting hash count).load = .ok (some info)) :
    info.devAddr = base.devAddr ∧ info.nwkSkey = base.nwkSkey ∧ info.appSkey = base.appSkey ∧
      info.downCount.toNat = count := by
  obtain ⟨fields, hRead, rfl⟩ := NodeHash.load_eq_some hLoad
  obtain ⟨counted, hCounted, rfl⟩ := NodeHash.load_eq_some hCounting
  rw [HashRecord.read_eq_some] at hRead hCounted
  have hOther : ∀ field, field ≠ .downCount → counted field = fields field := by
    intro field hField
    have hEntry := hCounted field
    rw [counting, Function.update_of_ne hField, hRead field] at hEntry
    exact (Option.some.inj hEntry).symm
  have hCount := uint32_fromValue.mp (hCounted .downCount)
  rw [counting, Function.update_self, Option.some.injEq, RedisArg.int.injEq] at hCount
  exact ⟨hOther .devAddr (by decide), hOther .nwkSkey (by decide), hOther .appSkey (by decide),
    hCount.symm⟩

/-- An increment either succeeds, or leaves the range of a counter. -/
theorem updateDownCount_counting {store : NodeStore} {node : LoRaNode} {hash : NodeHash}
    {count : Int} (hHash : store.node node.info.devAddr = counting hash count)
    (hCount : 0 ≤ count) :
    ∃ next : Int, (node.updateDownCount store).1.node node.info.devAddr = counting hash next ∧
      ((∃ value, (node.updateDownCount store).2 = .ok value ∧ next = count + 1) ∨
        (∃ error, (node.updateDownCount store).2 = .error error ∧ 2 ^ 32 ≤ next)) := by
  have hEntry : counting hash count .downCount = some (.int count) := Function.update_self ..
  rw [LoRaNode.updateDownCount, hHash, NodeHash.incrBy, hEntry]
  dsimp only
  by_cases hRange : -2 ^ 63 ≤ count + 1 ∧ count + 1 < 2 ^ 63
  · rw [if_pos hRange]
    refine ⟨count + 1, ?_, ?_⟩
    · rw [NodeStore.setHash_self, counting, Function.update_idem, counting]
    · by_cases hCounter : 0 ≤ count + 1 ∧ count + 1 < 2 ^ 32
      · left
        exact ⟨_, if_pos hCounter, rfl⟩
      · right
        exact ⟨_, if_neg hCounter, by omega⟩
  · rw [if_neg hRange]
    refine ⟨count, hHash, Or.inr ⟨_, rfl, by omega⟩⟩

/-- The copy belongs to the session of `base`, and its counter is that of
`base` after so many increments. -/
structure CopyOf (base : NodeInfo) (loaded : Nat) (info : NodeInfo) : Prop where
  devAddr : info.devAddr = base.devAddr
  nwkSkey : info.nwkSkey = base.nwkSkey
  appSkey : info.appSkey = base.appSkey
  downCount : info.downCount.toNat = base.downCount.toNat + loaded

/-- The same of a frame. -/
structure FromCopy (base : NodeInfo) (loaded : Nat) (frame : DownFrame) : Prop where
  devAddr : frame.devAddr = base.devAddr
  nwkSkey : frame.nwkSkey = base.nwkSkey
  appSkey : frame.appSkey = base.appSkey
  fcnt : frame.fcnt.toNat = base.downCount.toNat + loaded

/-- A frame built from a copy carries the counter of that copy. -/
theorem CopyOf.frame {base info : NodeInfo} {loaded : Nat} (h : CopyOf base loaded info)
    (task : DownloadData) (path : Path) : FromCopy base loaded (path.frame info task) := by
  cases path <;> exact ⟨h.devAddr, h.nwkSkey, h.appSkey, h.downCount⟩

structure Sender.Sound (base : NodeInfo) (sender : Sender) : Prop where
  copy : CopyOf base sender.loaded sender.node.info
  frame : ∀ frame ∈ sender.frame, FromCopy base sender.loaded frame

/-- The cached counter has moved by the increments, or out of its range; all
copies and frames have the counter of the moment of their load. -/
structure Sound (base : NodeInfo) (hash : NodeHash) (state : State) : Prop where
  cached : ∃ count : Int, state.store.node base.devAddr = counting hash count ∧
    (count = base.downCount.toNat + state.increments ∨ 2 ^ 32 ≤ count)
  senders : ∀ sender ∈ state.senders, sender.Sound base
  sent : ∀ sent ∈ state.sent, FromCopy base sent.loaded sent.frame

variable {base : NodeInfo} {hash : NodeHash} {state : State}

/-- At the start the stored record is the only copy. -/
theorem sound_init {store : NodeStore}
    (hLoad : NodeInfo.loadByAddr store base.devAddr = .ok (some base)) :
    Sound base (store.node base.devAddr) (init store) where
  cached := ⟨base.downCount.toNat, (counting_self hLoad).symm, Or.inl (by simp [init])⟩
  senders := by simp [init]
  sent := by simp [init]

/-- Replacing a sender by a sound one. -/
theorem Sound.set (h : Sound base hash state) (index : Nat) {sender : Sender}
    (hSender : sender.Sound base) :
    Sound base hash { state with senders := state.senders.set index sender } where
  cached := h.cached
  senders := by
    intro other hOther
    rcases List.mem_or_eq_of_mem_set hOther with hOld | rfl
    · exact h.senders other hOld
    · exact hSender
  sent := h.sent

/-- Loading makes a further copy. -/
theorem Sound.load (h : Sound base hash state) (hHash : hash.load = .ok (some base)) :
    Sound base hash (step base.devAddr state .load) := by
  simp only [step]
  split
  · rename_i info hInfo
    obtain ⟨count, hStore, hCount⟩ := h.cached
    rw [NodeInfo.loadByAddr, hStore] at hInfo
    obtain ⟨hDevAddr, hNwkSkey, hAppSkey, hDownCount⟩ := load_counting hHash hInfo
    have hRange := info.downCount.toNat_lt
    have hCopy : CopyOf base state.increments info :=
      ⟨hDevAddr, hNwkSkey, hAppSkey, by omega⟩
    refine ⟨h.cached, fun sender hSender => ?_, h.sent⟩
    rcases List.mem_append.mp hSender with hOld | hNew
    · exact h.senders sender hOld
    · obtain rfl := List.mem_singleton.mp hNew
      exact ⟨hCopy, by simp⟩
  · exact h

/-- Each action of a sender keeps the copies sound. -/
theorem Sound.perform (h : Sound base hash state) (index : Nat) {sender : Sender}
    (hSender : sender.Sound base) (path : Path) (task : DownloadData) (rest : List Action)
    (action : Action) : Sound base hash (perform state index sender path task rest action) := by
  cases action with
  | build =>
      refine h.set index ⟨hSender.copy, fun frame hFrame => ?_⟩
      obtain rfl := Option.mem_some_iff.mp hFrame
      exact hSender.copy.frame task path
  | updateDownCount =>
      obtain ⟨count, hStore, hCount⟩ := h.cached
      rw [← hSender.copy.devAddr] at hStore
      obtain ⟨next, hNext, hResult⟩ := updateDownCount_counting hStore (by omega)
      rw [hSender.copy.devAddr] at hNext
      simp only [DownCounter.perform]
      rcases hResult with ⟨value, hOk, hSucc⟩ | ⟨error, hError, hRange⟩
      · rw [show sender.node.updateDownCount state.store =
          ((sender.node.updateDownCount state.store).1, .ok value) from Prod.ext rfl hOk]
        have hMoved : Sound base hash { state with
            store := (sender.node.updateDownCount state.store).1
            increments := state.increments + 1 } :=
          ⟨⟨next, hNext, by push_cast; omega⟩, h.senders, h.sent⟩
        exact hMoved.set index ⟨hSender.copy, hSender.frame⟩
      · rw [show sender.node.updateDownCount state.store =
          ((sender.node.updateDownCount state.store).1, .error error) from Prod.ext rfl hError]
        have hMoved : Sound base hash { state with
            store := (sender.node.updateDownCount state.store).1 } :=
          ⟨⟨next, hNext, Or.inr hRange⟩, h.senders, h.sent⟩
        exact hMoved.set index ⟨hSender.copy, hSender.frame⟩
  | downLink =>
      have hRest : Sender.Sound base { sender with todo := rest } := ⟨hSender.copy, hSender.frame⟩
      have hSet := h.set index hRest
      refine ⟨hSet.cached, hSet.senders, fun sent hSent => ?_⟩
      rcases List.mem_append.mp hSent with hNew | hOld
      · rw [Option.mem_toList, Option.map_eq_some_iff] at hNew
        obtain ⟨frame, hFrame, rfl⟩ := hNew
        exact hSender.frame frame hFrame
      · exact h.sent sent hOld

/-- Each event keeps the copies sound. -/
theorem Sound.step (hHash : hash.load = .ok (some base)) (state : State) (event : Event)
    (h : Sound base hash state) : Sound base hash (step base.devAddr state event) := by
  cases event with
  | load => exact h.load hHash
  | start index path task =>
      simp only [DownCounter.step]
      split
      · rename_i sender hSender
        have hSound := h.senders sender (List.mem_of_getElem? hSender)
        split_ifs
        · exact h.set index ⟨hSound.copy, hSound.frame⟩
        · exact h
      · exact h
  | act index success =>
      simp only [DownCounter.step]
      split
      · rename_i sender hSender
        have hSound := h.senders sender (List.mem_of_getElem? hSender)
        split
        · split_ifs
          · exact h.perform index hSound _ _ _ _
          · exact h.set index ⟨hSound.copy, hSound.frame⟩
        · exact h
      · exact h

/-- Two frames of a session differ in port or data. -/
def Differ (first second : DownFrame) : Prop :=
  first.fPort ≠ second.fPort ∨ first.data ≠ second.data

/-- Under the same keys no two different frames carry the same counter. -/
def CountersUnique (state : State) : Prop :=
  ∀ first ∈ state.sent, ∀ second ∈ state.sent, first.frame.nwkSkey = second.frame.nwkSkey →
    first.frame.appSkey = second.frame.appSkey → first.frame.fcnt = second.frame.fcnt →
    first.frame = second.frame

instance (first second : DownFrame) : Decidable (Differ first second) :=
  inferInstanceAs (Decidable (_ ∨ _))

instance (state : State) : Decidable (CountersUnique state) :=
  inferInstanceAs (Decidable (∀ first ∈ state.sent, ∀ second ∈ state.sent, _ → _ → _ → _))

/-- If two frames differ, an increment lies between the loads of their
copies. -/
def Apart (first second : Sent) : Prop :=
  Differ first.frame second.frame → first.loaded ≠ second.loaded

instance (first second : Sent) : Decidable (Apart first second) :=
  inferInstanceAs (Decidable (_ → _))

/-- What a step sends: the frame of a sender whose next step is the link. -/
def sending (state : State) : Event → Option Sent
  | .act index true =>
      match state.senders[index]? with
      | some sender =>
          if sender.plan.isSome ∧ sender.todo.head? = some .downLink then
            sender.frame.map (Sent.mk · sender.loaded)
          else none
      | none => none
  | _ => none

/-- The condition on a step: what it sends is apart from all that was sent. -/
def SendsApart (state : State) (event : Event) : Prop :=
  ∀ sent ∈ sending state event, ∀ other ∈ state.sent, Apart sent other

instance (state : State) (event : Event) : Decidable (SendsApart state event) :=
  inferInstanceAs (Decidable (∀ sent ∈ sending state event, _))

theorem Apart.symm {first second : Sent} (h : Apart first second) : Apart second first := by
  rintro (hPort | hData) hLoaded
  · exact h (Or.inl (Ne.symm hPort)) hLoaded.symm
  · exact h (Or.inr (Ne.symm hData)) hLoaded.symm

/-- Frames from copies share a counter exactly if their copies were loaded
after the same increments. -/
theorem unique_iff_apart {first second : Sent} (hFirst : FromCopy base first.loaded first.frame)
    (hSecond : FromCopy base second.loaded second.frame) :
    (first.frame.nwkSkey = second.frame.nwkSkey → first.frame.appSkey = second.frame.appSkey →
      first.frame.fcnt = second.frame.fcnt → first.frame = second.frame) ↔ Apart first second := by
  have hCounter : first.frame.fcnt = second.frame.fcnt ↔ first.loaded = second.loaded := by
    rw [← UInt32.toNat_inj, hFirst.fcnt, hSecond.fcnt, Nat.add_left_cancel_iff]
  constructor
  · intro hUnique hDiffer hLoaded
    have hSame := hUnique (hFirst.nwkSkey.trans hSecond.nwkSkey.symm)
      (hFirst.appSkey.trans hSecond.appSkey.symm) (hCounter.mpr hLoaded)
    rw [hSame] at hDiffer
    exact hDiffer.elim (fun h => h rfl) (fun h => h rfl)
  · intro hApart hNwkSkey hAppSkey hFcnt
    have hAlike : ¬Differ first.frame second.frame := fun hDiffer =>
      hApart hDiffer (hCounter.mp hFcnt)
    rw [Differ, not_or, not_not, not_not] at hAlike
    exact DownFrame.ext (hFirst.devAddr.trans hSecond.devAddr.symm) hFcnt hAlike.1 hAlike.2
      hNwkSkey hAppSkey

/-- Counters are unique exactly when any two frames sent are apart. -/
theorem Sound.unique_iff (h : Sound base hash state) :
    CountersUnique state ↔ ∀ first ∈ state.sent, ∀ second ∈ state.sent, Apart first second :=
  forall₂_congr fun _ hFirst => forall₂_congr fun _ hSecond =>
    unique_iff_apart (h.sent _ hFirst) (h.sent _ hSecond)

/-- A frame more has to be apart from those already sent. -/
theorem apart_cons_iff {sent : Sent} {rest : List Sent} :
    (∀ first ∈ sent :: rest, ∀ second ∈ sent :: rest, Apart first second) ↔
      (∀ first ∈ rest, ∀ second ∈ rest, Apart first second) ∧ ∀ other ∈ rest, Apart sent other := by
  constructor
  · intro h
    exact ⟨fun first hFirst second hSecond => h _ (List.mem_cons_of_mem _ hFirst) _
        (List.mem_cons_of_mem _ hSecond),
      fun other hOther => h _ List.mem_cons_self _ (List.mem_cons_of_mem _ hOther)⟩
  · rintro ⟨hRest, hSent⟩ first hFirst second hSecond
    rcases List.mem_cons.mp hFirst with hFirst | hFirst
    · rcases List.mem_cons.mp hSecond with hSecond | hSecond
      · exact fun hDiffer => absurd hDiffer (by simp [Differ, hFirst, hSecond])
      · exact hFirst ▸ hSent second hSecond
    · rcases List.mem_cons.mp hSecond with hSecond | hSecond
      · exact hSecond ▸ (hSent first hFirst).symm
      · exact hRest first hFirst second hSecond

/-- An action sends a frame exactly when it is the downlink. -/
theorem perform_sent (index : Nat) (sender : Sender) (path : Path) (task : DownloadData)
    (rest : List Action) (action : Action) :
    (perform state index sender path task rest action).sent =
      (if action = .downLink then sender.frame.map (Sent.mk · sender.loaded) else none).toList ++
        state.sent := by
  cases action with
  | build => rfl
  | updateDownCount =>
      simp only [DownCounter.perform]
      split <;> rfl
  | downLink => rfl

/-- What one event adds to the frames sent. -/
theorem step_sent (addr : LoRaAddr) (event : Event) :
    (step addr state event).sent = (sending state event).toList ++ state.sent := by
  cases event with
  | load =>
      simp only [DownCounter.step]
      split <;> rfl
  | start index path task =>
      simp only [DownCounter.step]
      split
      · split_ifs <;> rfl
      · rfl
  | act index success =>
      cases success with
      | false =>
          simp only [DownCounter.step]
          split
          · split <;> rfl
          · rfl
      | true =>
          simp only [DownCounter.step, sending]
          cases state.senders[index]? with
          | none => rfl
          | some sender =>
              cases hPlan : sender.plan with
              | none => simp [hPlan]
              | some plan =>
                  cases hTodo : sender.todo with
                  | nil => simp [hPlan, hTodo]
                  | cons action rest => simp [perform_sent, hPlan, hTodo]

/-- A step keeps counters unique exactly where it sends apart. -/
theorem Sound.unique_step (hHash : hash.load = .ok (some base)) (event : Event)
    (h : Sound base hash state) :
    CountersUnique (DownCounter.step base.devAddr state event) ↔
      CountersUnique state ∧ SendsApart state event := by
  have hNext := h.step hHash state event
  rw [hNext.unique_iff, h.unique_iff, step_sent, SendsApart]
  cases sending state event with
  | none => simp
  | some sent => simpa using apart_cons_iff

/-- In every run, counters are unique exactly if each step sends apart. -/
theorem countersUnique_iff {store : NodeStore}
    (hLoad : NodeInfo.loadByAddr store base.devAddr = .ok (some base)) (events : List Event) :
    CountersUnique (run (step base.devAddr) (init store) events) ↔
      Meets (step base.devAddr) SendsApart (init store) events := by
  have hEmpty : CountersUnique (init store) := by simp [CountersUnique, init]
  have hRun : CountersUnique (run (step base.devAddr) (init store) events) ↔
      CountersUnique (init store) ∧
        Meets (step base.devAddr) SendsApart (init store) events :=
    run_iff_meets (Sound.step hLoad) (fun _ event h => h.unique_step hLoad event) (init store)
      events (sound_init hLoad)
  rw [hRun, and_iff_right hEmpty]

/-- A class C node that is reached by a gateway. -/
def sampleNode : NodeInfo :=
  { sampleInfo 5 9 with classC := true, gateway := some ⟨1⟩ }

/-- Their runs, from a cache with that node. -/
abbrev sampleRun (events : List Event) : State :=
  run (step sampleNode.devAddr) (init (sampleStore sampleNode)) events

def sampleMessage (byte : UInt8) : DownloadData := ⟨2, none, [byte], 1⟩

/-- Two messages, one after the other. -/
def sampleSequence : List Event :=
  [.load, .start 0 .dispatchTaskNow (sampleMessage 1), .act 0 true, .act 0 true, .act 0 true,
    .load, .start 1 .dispatchTaskNow (sampleMessage 2), .act 1 true, .act 1 true, .act 1 true]

theorem countersUnique_iff_sample :
    (sampleRun sampleSequence).sent.length = 2 ∧ CountersUnique (sampleRun sampleSequence) := by
  have hLoad := loadByAddr_sampleStore sampleNode
  have hUnique := countersUnique_iff hLoad sampleSequence
  exact ⟨by decide +kernel, hUnique.mpr (by decide +kernel)⟩

/-- Two messages at once: both copies are loaded before either counts. -/
def sampleRace : List Event :=
  [.load, .load, .start 0 .dispatchTaskNow (sampleMessage 1),
    .start 1 .dispatchTaskNow (sampleMessage 2), .act 0 true, .act 0 true, .act 0 true,
    .act 1 true, .act 1 true, .act 1 true]

theorem counter_reused : ¬ ∀ events, CountersUnique (sampleRun events) := by
  refine not_forall.mpr ⟨sampleRace, ?_⟩
  decide +kernel

end SnapEmu.LoRa.DownCounter
