import SnapEmu.LoRa.Counter
import SnapEmu.Management.Create
import SnapEmu.Management.InfoEdit

/-! What the management of a node does to the counters of its session. -/
namespace SnapEmu.Management

open Device User

def Counter (field : NodeField) : Prop := field = .upCount ∨ field = .downCount

/-- The counters stored under an address stay as they are. -/
def CountersKept (before after : NodeStore) (addr : LoRaAddr) : Prop :=
  ∀ field, Counter field → ∀ arg, before.node addr field = some arg →
    after.node addr field = some arg

/-- The counters stored under an address stand at zero. -/
def CountersZero (store : NodeStore) (addr : LoRaAddr) : Prop :=
  ∀ field, Counter field → ∀ arg, store.node addr field = some arg → arg = .int 0

theorem countersKept_refl (store : NodeStore) (addr : LoRaAddr) : CountersKept store store addr :=
  fun _ _ _ hArg => hArg

/-- Keeping the counters composes over successive edits of the store. -/
theorem CountersKept.trans {first second third : NodeStore} {addr : LoRaAddr}
    (h : CountersKept first second addr) (hNext : CountersKept second third addr) :
    CountersKept first third addr :=
  fun field hField arg hArg => hNext field hField arg (h field hField arg hArg)

/-- Writing a hash keeps the counters when it repeats the counters that stand there. -/
theorem countersKept_setHash {store : NodeStore} {addr : LoRaAddr} {hash : NodeHash}
    (hHash : ∀ field, Counter field → hash field = store.node addr field) (other : LoRaAddr) :
    CountersKept store (store.setHash addr hash) other := by
  intro field hField arg hArg
  by_cases hAddr : other = addr
  · subst hAddr
    rw [NodeStore.setHash_self, hHash field hField, hArg]
  · rw [NodeStore.setHash_of_ne _ _ hAddr, hArg]

/-- A change of another field by EUI keeps every counter. -/
theorem countersKept_updateByEui (store : NodeStore) (eui : Eui) {field : NodeField}
    (hField : ¬Counter field) (value : field.Value) (addr : LoRaAddr) :
    CountersKept store (NodeInfo.updateByEui store eui field value) addr := by
  unfold NodeInfo.updateByEui
  split
  · exact countersKept_refl store addr
  · split_ifs
    · refine countersKept_setHash (fun other hOther => ?_) addr
      have hNe : other ≠ field := fun hSame => hField (hSame ▸ hOther)
      exact NodeHash.set_of_ne _ _ hNe
    · exact countersKept_refl store addr

theorem countersKept_resetByEui (store : NodeStore) (eui : Eui) {field : NodeField}
    (hField : ¬Counter field) (addr : LoRaAddr) :
    CountersKept store (NodeInfo.resetByEui store eui field) addr := by
  unfold NodeInfo.resetByEui
  split
  · exact countersKept_refl store addr
  · split_ifs
    · refine countersKept_setHash (fun other hOther => ?_) addr
      have hNe : other ≠ field := fun hSame => hField (hSame ▸ hOther)
      exact Function.update_of_ne hNe _ _
    · exact countersKept_refl store addr

/-- A list of changes that names no counter keeps the counters of every node. -/
theorem countersKept_updateCache (eui : Eui) (addr : LoRaAddr) :
    ∀ (changes : List NodeChange) (store : NodeStore), (∀ change ∈ changes, ¬Counter change.1) →
      CountersKept store (updateCache store eui changes) addr := by
  intro changes
  induction changes with
  | nil => exact fun store _ => countersKept_refl store addr
  | cons change changes ih =>
      intro store hChanges
      have hHead := countersKept_updateByEui store eui (hChanges change List.mem_cons_self)
        change.2 addr
      exact hHead.trans (ih _ fun other hOther => hChanges other (List.mem_cons_of_mem _ hOther))

/-- Changes of other fields than the counters. -/
def Free (changes : List NodeChange) : Prop := ∀ change ∈ changes, ¬Counter change.1

theorem free_of_assigns {changes : List NodeChange} (h : Assigns changes) : Free changes := by
  intro change hChange hCounter
  have hAssigned := h change hChange
  rcases hCounter with hUp | hDown
  · rw [hUp] at hAssigned
    cases hAssigned
  · rw [hDown] at hAssigned
    cases hAssigned

/-- The administrator's edit keeps the counters, whatever fields it changes. -/
theorem putDeviceInfo_kept (state : State) (id : Id) (info : DeviceChangeBody) (addr : LoRaAddr) :
    CountersKept state.store (putDeviceInfo state id info).1.store addr := by
  unfold putDeviceInfo
  split
  · exact countersKept_refl _ _
  · split
    · split
      · exact countersKept_refl _ _
      · split
        · exact countersKept_refl _ _
        · rename_i hChanges
          -- an administrator cannot change a counter
          exact countersKept_updateCache _ _ _ _ (free_of_assigns (assigns_changes hChanges))
    all_goals exact countersKept_refl _ _

theorem updateScript_kept {state next : State} {device active row : DevicesModel}
    {info : DeviceModify} (hScript : updateScript state device active info = .ok (next, row))
    (addr : LoRaAddr) : CountersKept state.store next.store addr := by
  unfold updateScript at hScript
  split at hScript
  · cases hScript
    exact countersKept_refl _ _
  · split_ifs at hScript
    · cases hScript
      exact countersKept_updateByEui _ _ (by simp [Counter]) _ _
    · cases hScript
      exact countersKept_refl _ _

theorem resetScript_kept (state : State) (device active : DevicesModel) (info : DeviceModify)
    (addr : LoRaAddr) :
    CountersKept state.store (resetScript state device active info).1.store addr := by
  unfold resetScript
  split_ifs
  · exact countersKept_resetByEui _ _ (by simp [Counter]) _
  · exact countersKept_refl _ _

/-- The radio part of the owner's edit keeps the counters. -/
theorem updateLoRaNode_kept (state : State) (device active : DevicesModel) (info : DeviceModify)
    (addr : LoRaAddr) :
    CountersKept state.store (updateLoRaNode state device active info).1.store addr := by
  unfold updateLoRaNode
  split
  · exact countersKept_refl _ _
  · exact countersKept_updateCache _ _ _ _ (free_of_assigns (assigns_cacheChanges info))

/-- Nor can an owner. -/
theorem updateInfo_kept (state : State) (device : DevicesModel) (info : DeviceModify)
    (addr : LoRaAddr) : CountersKept state.store (updateInfo state device info).1.store addr := by
  unfold updateInfo
  dsimp only
  split
  · exact countersKept_refl _ _
  · rename_i next active hScript
    have hReset := (updateScript_kept hScript addr).trans
      (resetScript_kept next device active info addr)
    split_ifs
    · exact hReset
    · exact hReset.trans (updateLoRaNode_kept _ _ _ _ addr)
    · exact hReset

/-- The owner's edit keeps the counters, whether it succeeds or is refused. -/
theorem putDevice_kept (state : State) (userId deviceId : Id) (info : DeviceModify)
    (addr : LoRaAddr) :
    CountersKept state.store (putDevice state userId deviceId info).1.store addr := by
  unfold putDevice
  split
  · exact countersKept_refl _ _
  · exact updateInfo_kept _ _ _ _

/-- A registration, in contrast, writes both counters as zero. -/
theorem ofModels_counter (node : DeviceLoraNodeModel) (device : DevicesModel) (hash : NodeHash)
    {field : NodeField} (hField : Counter field) :
    hash.write (NodeInfo.ofModels node device) field = some (.int 0) := by
  rcases hField with rfl | rfl <;> rfl

/-- Registration puts both counters at zero, and touches no other address. -/
theorem register_counters (store : NodeStore) (node : DeviceLoraNodeModel) (device : DevicesModel) :
    (∀ field, Counter field →
      (NodeInfo.registerToRedis store node device).1.node node.devAddr field = some (.int 0)) ∧
    ∀ addr, addr ≠ node.devAddr →
      (NodeInfo.registerToRedis store node device).1.node addr = store.node addr := by
  constructor
  · intro field hField
    simp only [NodeInfo.registerToRedis, NodeInfo.register, Function.update_self]
    exact ofModels_counter node device _ hField
  · intro addr hAddr
    simp only [NodeInfo.registerToRedis, NodeInfo.register, Function.update_of_ne hAddr]

/-- A registration keeps counters if they stood at zero. -/
theorem countersKept_register_iff {before store : NodeStore} {node : DeviceLoraNodeModel}
    {device : DevicesModel} :
    CountersKept before (NodeInfo.registerToRedis store node device).1 node.devAddr ↔
      CountersZero before node.devAddr := by
  have hZero := (register_counters store node device).1
  constructor
  · intro hKept field hField arg hArg
    have hAfter := hKept field hField arg hArg
    rw [hZero field hField] at hAfter
    exact (Option.some.inj hAfter).symm
  · intro hStood field hField arg hArg
    rw [hZero field hField, hStood field hField arg hArg]

end SnapEmu.Management
