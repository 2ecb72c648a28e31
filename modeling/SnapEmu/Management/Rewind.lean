import SnapEmu.Management.Counters

/-! Which management requests rewind a live session: the counters stored for
a node go back although its address and its session keys stay. -/
namespace SnapEmu.Management

open Device User

inductive Operation where
  | getDeviceInfo (id : Id)
  | putDeviceInfo (id : Id) (info : DeviceChangeBody)
  | updateInfo (userId deviceId : Id) (info : DeviceModify)
  | updateBlue (userId : Id) (req : ReqLoraNode) (assigned : Assigned)

structure SameSession (first second : DeviceLoraNodeModel) : Prop where
  devAddr : first.devAddr = second.devAddr
  nwkSkey : first.nwkSkey = second.nwkSkey
  appSkey : first.appSkey = second.appSkey

/-- The counters of every node whose session stays are kept. -/
def Keeps (before after : State) : Prop :=
  ∀ row ∈ before.loraNodes, (∃ next ∈ after.loraNodes, next.id = row.id ∧ SameSession next row) →
    CountersKept before.store after.store row.devAddr

/-- Counters kept at every address are kept for every node. -/
theorem keeps_of_counters {before after : State}
    (hKept : ∀ addr, CountersKept before.store after.store addr) : Keeps before after :=
  fun row _ _ => hKept row.devAddr

/-- A read of a device rewinds its node exactly if it registers a record over
counters in use. -/
theorem getDeviceInfo_keeps_iff (state : State) (id : Id) :
    Keeps state (getDeviceInfo state id).1 ↔
      ∀ device ∈ state.findDevice id, device.deviceType = .LoRaNode →
        NodeInfo.loadByEui state.store device.eui = .ok none →
        ∀ node ∈ state.findNode device.id, CountersZero state.store node.devAddr := by
  have hSame : Keeps state state := keeps_of_counters fun addr => countersKept_refl _ addr
  unfold getDeviceInfo
  cases hDevice : state.findDevice id with
  | none => simpa using hSame
  | some device =>
      simp only [Option.mem_def, Option.some.injEq, forall_eq']
      cases hType : device.deviceType with
      | LoRaNode =>
          cases hLoad : NodeInfo.loadByEui state.store device.eui with
          | error error => simpa using hSame
          | ok found =>
              cases found with
              | some info => simpa using hSame
              | none =>
                  cases hNode : state.findNode device.id with
                  | none => simpa using hSame
                  | some node =>
                      simp only [Option.some.injEq, forall_eq', true_implies]
                      constructor
                      · intro hKeeps
                        have hMem : node ∈ state.loraNodes := List.mem_of_find?_eq_some hNode
                        exact countersKept_register_iff.mp
                          (hKeeps node hMem ⟨node, hMem, rfl, rfl, rfl, rfl⟩)
                      · intro hZero row _ _
                        by_cases hAddr : row.devAddr = node.devAddr
                        · rw [hAddr]
                          exact countersKept_register_iff.mpr hZero
                        · intro field _ arg hArg
                          rw [(register_counters state.store node device).2 _ hAddr]
                          exact hArg
      | LoRaGate => simpa using hSame
      | MQTT => simpa using hSame
      | Snap => simpa using hSame

/-- A row that is inserted has an address of its own. -/
theorem insertNode_keeps (state : State) (node : LoraNodeDeviceDefault) (userId : Id)
    (assigned : Assigned) : Keeps state (insertNode state node userId assigned).1 := by
  unfold insertNode
  dsimp only
  split
  · exact keeps_of_counters fun addr => countersKept_refl _ addr
  · rename_i inserted hInserted
    rw [bind_eq_ok] at hInserted
    obtain ⟨_, _, hInserted⟩ := hInserted
    rw [bind_eq_ok] at hInserted
    obtain ⟨withDevice, hDevice, hInserted⟩ := hInserted
    unfold State.insertDevice at hDevice
    unfold State.insertNodeRow at hInserted
    split_ifs at hDevice hInserted with hTaken hRow
    obtain rfl := Except.ok.inj hDevice
    obtain rfl := Except.ok.inj hInserted
    intro row hMem _ field _ arg hArg
    have hAddr : row.devAddr ≠ (newNode node assigned).devAddr := by
      intro hSame
      exact hRow (List.any_eq_true.mpr ⟨row, hMem, by simp [hSame]⟩)
    dsimp only
    rw [(register_counters _ _ _).2 _ hAddr]
    exact hArg

section

variable {queryEui : String → Except ApiError Bool}

/-- A change of the identifier keeps the session of the node. -/
theorem blueDevEui_ok {state : State} {blue : BluetoothNode} {node next : DeviceLoraNodeModel}
    (hNext : blueDevEui queryEui state blue node = .ok next) :
    next.id = node.id ∧ SameSession next node := by
  unfold blueDevEui at hNext
  split_ifs at hNext
  · cases hNext
    exact ⟨rfl, rfl, rfl, rfl⟩
  · cases hValid : validDevEui queryEui state blue.devEui with
    | error error => rw [hValid] at hNext; cases hNext
    | ok predefined =>
        rw [hValid] at hNext
        cases hNext
        exact ⟨rfl, rfl, rfl, rfl⟩

/-- The address stays with the session, or is one that no row has. -/
theorem blueDevAddr_ok {state : State} {blue : BluetoothNode} {node next : DeviceLoraNodeModel}
    (hNext : blueDevAddr queryEui state blue node = .ok next) :
    next.id = node.id ∧
      ((node.devAddr = blue.devAddr ∧ SameSession next node) ∨
        (node.devAddr ≠ blue.devAddr ∧ ∀ row ∈ state.loraNodes, row.devAddr ≠ next.devAddr)) := by
  unfold blueDevAddr at hNext
  split_ifs at hNext with hSame hExists
  · cases hNext
    exact ⟨rfl, Or.inl ⟨hSame, rfl, rfl, rfl⟩⟩
  · cases hValid : validAddr queryEui state blue.devAddr with
    | error error => rw [hValid] at hNext; cases hNext
    | ok predefined =>
        rw [hValid] at hNext
        cases hNext
        refine ⟨rfl, Or.inr ⟨hSame, fun row hMem hAddr => hExists ?_⟩⟩
        rw [State.devAddrExists, List.find?_isSome]
        exact ⟨row, hMem, by simpa using hAddr⟩

/-- The address stays, with the session, or moves to one that no row uses. -/
theorem blueModel_ok {state : State} {node next : DeviceLoraNodeModel} {blue : BluetoothNode}
    (hNext : blueModel queryEui state node blue = .ok next) :
    next.id = node.id ∧
      ((node.devAddr = blue.devAddr ∧ SameSession next node) ∨
        (node.devAddr ≠ blue.devAddr ∧ ∀ row ∈ state.loraNodes, row.devAddr ≠ next.devAddr)) := by
  simp only [blueModel, bind_eq_ok] at hNext
  obtain ⟨joinType, _, active, hDevEui, addressed, hDevAddr, hLast⟩ := hNext
  obtain rfl := Except.ok.inj hLast
  obtain ⟨hId, hSession⟩ := blueDevEui_ok hDevEui
  obtain ⟨hIdNext, hAddr⟩ := blueDevAddr_ok hDevAddr
  refine ⟨hIdNext.trans hId, ?_⟩
  rw [← hSession.devAddr]
  rcases hAddr with ⟨hSame, hKept⟩ | ⟨hOther, hFree⟩
  · exact Or.inl ⟨hSame, hKept.devAddr.trans hSession.devAddr,
      hKept.nwkSkey.trans hSession.nwkSkey, hKept.appSkey.trans hSession.appSkey⟩
  · exact Or.inr ⟨hOther, hFree⟩

/-- The counters after the record under an address was dropped and registered
again. -/
theorem countersKept_reregister_of_ne {store : NodeStore} {node : DeviceLoraNodeModel}
    {device : DevicesModel} {addr : LoRaAddr} (hAddr : addr ≠ node.devAddr) :
    CountersKept store (NodeInfo.registerToRedis
      (NodeInfo.unregister store node.devEui node.devAddr) node device).1 addr := by
  intro field _ arg hArg
  rw [(register_counters _ node device).2 _ hAddr, NodeInfo.unregister]
  dsimp only
  rw [Function.update_of_ne hAddr, hArg]

/-- An update that was let through. -/
theorem reregister_keeps_iff {state : State} {node next : DeviceLoraNodeModel}
    {blue : BluetoothNode} {device : DevicesModel} (hMem : node ∈ state.loraNodes)
    (hNext : blueModel queryEui state node blue = .ok next) :
    Keeps state { state.updateNode next with
      store := (NodeInfo.registerToRedis
        (NodeInfo.unregister state.store next.devEui next.devAddr) next device).1 } ↔
      (node.devAddr = blue.devAddr → CountersZero state.store node.devAddr) := by
  obtain ⟨hId, hAddr⟩ := blueModel_ok hNext
  constructor
  · intro hKeeps hSame
    obtain ⟨_, hSession⟩ := hAddr.resolve_right fun hOther => hOther.1 hSame
    have hRow : next ∈ state.loraNodes.map fun row => if row.id = next.id then next else row :=
      List.mem_map.mpr ⟨node, hMem, if_pos hId.symm⟩
    have hKept := hKeeps node hMem ⟨next, hRow, hId, hSession⟩
    rw [← hSession.devAddr] at hKept ⊢
    exact countersKept_register_iff.mp hKept
  · intro hZero row hRow _
    by_cases hOwn : row.devAddr = next.devAddr
    · rcases hAddr with ⟨hSame, hSession⟩ | ⟨_, hFree⟩
      · have hStood := hZero hSame
        rw [← hSession.devAddr] at hStood
        rw [hOwn]
        exact countersKept_register_iff.mpr hStood
      · exact absurd hOwn (hFree row hRow)
    · exact countersKept_reregister_of_ne hOwn

/-- A Bluetooth update of a device rewinds its node exactly if it is let
through, keeps the address, and finds counters in use. -/
theorem updateBlue_keeps_iff (state : State) (userId : Id) (req : ReqLoraNode)
    (assigned : Assigned) :
    Keeps state (updateBlue queryEui state userId req assigned).1 ↔
      ∀ deviceId ∈ req.device, ∀ device, queryOne state userId deviceId = .ok device →
        ∀ node ∈ state.findNode deviceId, ∀ blue ∈ req.blueParm, node.devAddr = blue.devAddr →
          (∃ next, blueModel queryEui state node blue = .ok next) →
            CountersZero state.store node.devAddr := by
  have hSame : Keeps state state := keeps_of_counters fun addr => countersKept_refl _ addr
  unfold updateBlue
  cases hReq : req.device with
  | none =>
      simp only [Option.mem_def, reduceCtorEq, false_implies, implies_true, iff_true]
      split
      · exact hSame
      · exact insertNode_keeps _ _ _ _
  | some deviceId =>
      simp only [Option.mem_def, Option.some.injEq, forall_eq']
      cases hQuery : queryOne state userId deviceId with
      | error error => simpa using hSame
      | ok device =>
          cases hNode : state.findNode deviceId with
          | none => simpa using hSame
          | some node =>
              cases hBlue : req.blueParm with
              | none => simpa using hSame
              | some blue =>
                  simp only [Except.ok.injEq, Option.some.injEq, forall_eq']
                  cases hNext : blueModel queryEui state node blue with
                  | error error => simpa using hSame
                  | ok next =>
                      have hMem : node ∈ state.loraNodes := List.mem_of_find?_eq_some hNode
                      simpa using reregister_keeps_iff hMem hNext

/-- The requests that rewind no session in use: reads that find the record or
register one over counters at zero, all changes of fields, and Bluetooth
updates that are refused, bring a new address or find counters at zero. -/
def Spares (queryEui : String → Except ApiError Bool) (state : State) : Operation → Prop
  | .getDeviceInfo id =>
      ∀ device ∈ state.findDevice id, device.deviceType = .LoRaNode →
        NodeInfo.loadByEui state.store device.eui = .ok none →
        ∀ node ∈ state.findNode device.id, CountersZero state.store node.devAddr
  | .putDeviceInfo _ _ => True
  | .updateInfo _ _ _ => True
  | .updateBlue userId req _ =>
      ∀ deviceId ∈ req.device, ∀ device, queryOne state userId deviceId = .ok device →
        ∀ node ∈ state.findNode deviceId, ∀ blue ∈ req.blueParm, node.devAddr = blue.devAddr →
          (∃ next, blueModel queryEui state node blue = .ok next) →
            CountersZero state.store node.devAddr

def perform (queryEui : String → Except ApiError Bool) (state : State) : Operation → State
  | .getDeviceInfo id => (getDeviceInfo state id).1
  | .putDeviceInfo id info => (putDeviceInfo state id info).1
  | .updateInfo userId deviceId info => (putDevice state userId deviceId info).1
  | .updateBlue userId req assigned => (updateBlue queryEui state userId req assigned).1

/-- In every state, a request keeps the counters of all sessions that stay
exactly if it is one of these. -/
theorem perform_keeps_iff (queryEui : String → Except ApiError Bool) (state : State)
    (operation : Operation) :
    Keeps state (perform queryEui state operation) ↔ Spares queryEui state operation := by
  cases operation with
  | getDeviceInfo id => exact getDeviceInfo_keeps_iff state id
  | putDeviceInfo id info =>
      exact iff_of_true (keeps_of_counters (putDeviceInfo_kept state id info)) trivial
  | updateInfo userId deviceId info =>
      exact iff_of_true (keeps_of_counters (putDevice_kept state userId deviceId info)) trivial
  | updateBlue userId req assigned => exact updateBlue_keeps_iff state userId req assigned

/-- States reached by the creation of nodes, their uplinks, and requests. -/
inductive Reachable (queryEui : String → Except ApiError Bool) : State → Prop
  | empty : Reachable queryEui State.empty
  | create {state : State} (node : LoraNodeDeviceDefault) (userId : Id) (assigned : Assigned) :
      Reachable queryEui state → Reachable queryEui (insertNode state node userId assigned).1
  | uplink {state : State} (addr : LoRaAddr) (payload : LoRa.LoRaPayload Unit) :
      Reachable queryEui state →
        Reachable queryEui { state with store := LoRa.receiveAt addr state.store payload }
  | perform {state : State} (operation : Operation) :
      Reachable queryEui state → Reachable queryEui (perform queryEui state operation)

/-- A node whose device has another EUI than itself, as it is created, and its
seventh uplink. -/
def sampleCreated : State :=
  (insertNode State.empty { (default : LoraNodeDeviceDefault) with eui := ⟨1⟩, devEui := ⟨2⟩ } ⟨5⟩
    ⟨⟨3⟩, ⟨4⟩, ⟨0⟩⟩).1

def sampleUsed : State :=
  { sampleCreated with store := LoRa.receiveAt default sampleCreated.store (LoRa.sampleFrame 7) }

/-- A read of that device looks for the record under the wrong EUI. -/
theorem read_rewinds :
    ¬ ∀ (queryEui : String → Except ApiError Bool) (state : State), Reachable queryEui state →
      ∀ operation, Keeps state (perform queryEui state operation) := by
  intro h
  have hReachable : Reachable (fun _ => .ok false) sampleUsed :=
    .uplink default (LoRa.sampleFrame 7) (.create _ _ _ .empty)
  have hKeeps := h _ _ hReachable (.getDeviceInfo ⟨3⟩)
  have hSpares := (getDeviceInfo_keeps_iff sampleUsed ⟨3⟩).mp hKeeps
  have hZero := hSpares _ rfl rfl rfl _ rfl .upCount (Or.inl rfl) (.int 7) (by decide +kernel)
  exact absurd hZero (by decide)

end
end SnapEmu.Management
