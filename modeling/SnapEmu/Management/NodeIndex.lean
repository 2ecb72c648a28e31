import SnapEmu.Management.Counters
import SnapEmu.Management.CreateNode
import SnapEmu.Semantics.TableIndex

/-! The cache as an index of the LoRa nodes, and what a creation, an update and
a deletion of one node do to it. -/
namespace SnapEmu.Management

open Device User Semantics TableIndex

/-- The record of a node, as a registration writes it to a fresh hash. -/
def recordOf (devices : List DevicesModel) (node : DeviceLoraNodeModel) : NodeHash :=
  match devices.find? fun device => device.id = node.deviceId with
  | some device => NodeHash.empty.write (NodeInfo.ofModels node device)
  | none => NodeHash.empty

/-- The hashes that exist. -/
def hashes (store : NodeStore) (addr : LoRaAddr) : Option NodeHash :=
  if (store.node addr).Present then some (store.node addr) else none

/-- The keys are those of the rows, each EUI leads to the address of its row,
and the hash there carries the values of the row. -/
structure Refines (state : State) : Prop where
  euis : Indexes state.store.nodeEui (fun node => node.devEui) (fun node => node.devAddr)
    state.loraNodes
  hashes : Indexes (hashes state.store) (fun node => node.devAddr) (recordOf state.devices)
    state.loraNodes

/-- The unique keys of the node table, and the device of each node. -/
structure Keyed (state : State) : Prop where
  ids : (state.loraNodes.map fun node => node.id).Nodup
  deviceIds : (state.loraNodes.map fun node => node.deviceId).Nodup
  devEuis : (state.loraNodes.map fun node => node.devEui).Nodup
  devAddrs : (state.loraNodes.map fun node => node.devAddr).Nodup
  devices : ∀ node ∈ state.loraNodes, (state.findDevice node.deviceId).isSome

/-- A record that is written leaves a hash that exists. -/
theorem present_write (hash : NodeHash) (info : NodeInfo) : (hash.write info).Present :=
  ⟨.deviceId, rfl⟩

theorem not_present_empty : ¬NodeHash.empty.Present := by
  intro hPresent
  obtain ⟨field, hField⟩ := hPresent
  cases hField

/-- Where the cache has no hash, loading reads an empty one. -/
theorem hashes_eq_none {store : NodeStore} {addr : LoRaAddr} (h : hashes store addr = none) :
    store.node addr = NodeHash.empty := by
  unfold hashes at h
  split_ifs at h with hPresent
  funext field
  rw [NodeHash.empty, ← Option.not_isSome_iff_eq_none]
  exact fun hField => hPresent ⟨field, hField⟩

/-- Registration writes the record over the hash at its address. -/
theorem hashes_register (store : NodeStore) (info : NodeInfo) (eui : Eui) (addr : LoRaAddr) :
    hashes (NodeInfo.register store info eui addr) =
      Function.update (hashes store) addr (some ((store.node addr).write info)) := by
  funext other
  by_cases hAddr : other = addr
  · subst hAddr
    simp only [hashes, NodeInfo.register, Function.update_self]
    rw [if_pos (present_write _ _)]
  · simp only [hashes, NodeInfo.register, Function.update_of_ne hAddr]

/-- Removal deletes the hash at the address. -/
theorem hashes_unregister (store : NodeStore) (eui : Eui) (addr : LoRaAddr) :
    hashes (NodeInfo.unregister store eui addr) = Function.update (hashes store) addr none := by
  funext other
  by_cases hAddr : other = addr
  · subst hAddr
    simp only [hashes, NodeInfo.unregister, Function.update_self]
    rw [if_neg not_present_empty]
  · simp only [hashes, NodeInfo.unregister, Function.update_of_ne hAddr]

theorem recordOf_eq {devices : List DevicesModel} {node : DeviceLoraNodeModel}
    {device : DevicesModel}
    (hDevice : (devices.find? fun device => device.id = node.deviceId) = some device) :
    recordOf devices node = NodeHash.empty.write (NodeInfo.ofModels node device) := by
  simp only [recordOf, hDevice]

/-! The insertion of a node. -/

section

variable {state : State} {node : LoraNodeDeviceDefault} {userId : Id} {assigned : Assigned}

/-- What a creation that succeeds has found and done. -/
structure Inserted (state : State) (node : LoraNodeDeviceDefault) (userId : Id)
    (assigned : Assigned) (after : State) : Prop where
  device : ∀ row ∈ state.devices, row.id ≠ assigned.device
  ids : ∀ row ∈ state.loraNodes, row.id ≠ assigned.node
  deviceIds : ∀ row ∈ state.loraNodes, row.deviceId ≠ assigned.device
  devEuis : ∀ row ∈ state.loraNodes, row.devEui ≠ node.devEui
  devAddrs : ∀ row ∈ state.loraNodes, row.devAddr ≠ node.devAddr
  after : after = { state with
    devices := state.devices ++ [newDevice node userId assigned]
    loraNodes := state.loraNodes ++ [newNode node assigned]
    store := NodeInfo.register state.store
      (NodeInfo.ofModels (newNode node assigned) (newDevice node userId assigned))
      node.devEui node.devAddr }

/-- A creation is refused and changes nothing, or inserts one node with free keys. -/
theorem insertNode_cases (state : State) (node : LoraNodeDeviceDefault) (userId : Id)
    (assigned : Assigned) :
    (insertNode state node userId assigned).1 = state ∨
      Inserted state node userId assigned (insertNode state node userId assigned).1 := by
  unfold insertNode
  dsimp only
  cases hTaken : identityTaken state node with
  | error error => exact .inl rfl
  | ok _ =>
      by_cases hDevice : state.devices.any fun row =>
          row.id = (newDevice node userId assigned).id ||
            row.eui = (newDevice node userId assigned).eui
      · left
        simp only [State.insertDevice, hDevice, if_true]
        rfl
      · by_cases hNode : state.loraNodes.any fun row =>
            row.id = (newNode node assigned).id ||
              row.deviceId = (newNode node assigned).deviceId ||
              row.devEui = (newNode node assigned).devEui ||
              row.devAddr = (newNode node assigned).devAddr
        · left
          simp only [State.insertDevice, hDevice, Bool.false_eq_true, if_false, State.insertNodeRow,
            bind, Except.bind, hNode, if_true]
        · right
          simp only [State.insertDevice, hDevice, Bool.false_eq_true, if_false, State.insertNodeRow,
            bind, Except.bind, hNode]
          simp only [List.any_eq_true, Bool.or_eq_true, decide_eq_true_eq, not_exists, not_and,
            not_or] at hDevice hNode
          exact
            { device := fun row hRow => (hDevice row hRow).1
              ids := fun row hRow => (hNode row hRow).1.1.1
              deviceIds := fun row hRow => (hNode row hRow).1.1.2
              devEuis := fun row hRow => (hNode row hRow).1.2
              devAddrs := fun row hRow => (hNode row hRow).2
              after := rfl }

/-- A device that is there is found after another one is added. -/
theorem find_append_of_isSome {devices : List DevicesModel} {id : Id} (added : DevicesModel)
    (hFound : (devices.find? fun device => device.id = id).isSome) :
    ((devices ++ [added]).find? fun device => device.id = id) =
      devices.find? fun device => device.id = id := by
  rw [List.find?_append, Option.or_of_isSome hFound]

variable {after : State}

/-- The inserted row keeps the keys unique. -/
theorem Inserted.keyed (h : Inserted state node userId assigned after) (hKeyed : Keyed state) :
    Keyed after := by
  rw [h.after]
  exact
    { ids := nodup_enter hKeyed.ids h.ids
      deviceIds := nodup_enter hKeyed.deviceIds h.deviceIds
      devEuis := nodup_enter hKeyed.devEuis h.devEuis
      devAddrs := nodup_enter hKeyed.devAddrs h.devAddrs
      devices := by
        intro row hRow
        rw [State.findDevice]
        rcases List.mem_append.mp hRow with hRow | hRow
        · rw [find_append_of_isSome _ (hKeyed.devices row hRow)]
          exact hKeyed.devices row hRow
        · rw [List.mem_singleton.mp hRow, List.find?_isSome]
          exact ⟨newDevice node userId assigned, by simp, by simp [newDevice, newNode]⟩ }

/-- The inserted row and its record agree. -/
theorem Inserted.refines (h : Inserted state node userId assigned after) (hKeyed : Keyed state)
    (hRefines : Refines state) : Refines after := by
  have hEmpty : state.store.node node.devAddr = NodeHash.empty := by
    apply hashes_eq_none
    rw [← Option.not_isSome_iff_eq_none, hRefines.hashes.isSome_iff]
    rintro ⟨row, hRow, hAddr⟩
    exact h.devAddrs row hRow hAddr
  have hRecord : recordOf (state.devices ++ [newDevice node userId assigned])
      (newNode node assigned) = NodeHash.empty.write
        (NodeInfo.ofModels (newNode node assigned) (newDevice node userId assigned)) := by
    apply recordOf_eq
    rw [List.find?_append, List.find?_eq_none.mpr]
    · simp [newDevice, newNode]
    · intro row hRow
      exact fun hId => h.device row hRow (of_decide_eq_true hId)
  rw [h.after]
  constructor
  · exact hRefines.euis.enter (newNode node assigned) h.devEuis
  · dsimp only
    rw [hashes_register, hEmpty, ← hRecord]
    refine Indexes.enter (hRefines.hashes.congr ?_) (newNode node assigned) h.devAddrs
    intro row hRow
    rw [recordOf, recordOf, find_append_of_isSome _ (hKeyed.devices row hRow)]

end

/-! The deletion of a node. -/

/-- A row found by its device belongs to that device. -/
theorem findNode_some {state : State} {deviceId : Id} {node : DeviceLoraNodeModel}
    (hNode : state.findNode deviceId = some node) :
    node ∈ state.loraNodes ∧ node.deviceId = deviceId :=
  ⟨List.mem_of_find?_eq_some hNode, by simpa using List.find?_some hNode⟩

/-- Removing a row keeps the keys unique. -/
theorem Keyed.removeNode {state : State} (hKeyed : Keyed state) (node : DeviceLoraNodeModel)
    (store : NodeStore) : Keyed ({ state with store := store }.removeNode node) where
  ids := nodup_leave hKeyed.ids _
  deviceIds := nodup_leave hKeyed.deviceIds _
  devEuis := nodup_leave hKeyed.devEuis _
  devAddrs := nodup_leave hKeyed.devAddrs _
  devices := fun row hRow => hKeyed.devices row (List.mem_of_mem_filter hRow)

/-- The rows other than one are those with other values of a unique key. -/
theorem kept_iff {κ : Type*} {rows : List DeviceLoraNodeModel} {key : DeviceLoraNodeModel → κ}
    (hKey : (rows.map key).Nodup) (hIds : (rows.map fun row => row.id).Nodup)
    {node : DeviceLoraNodeModel} (hNode : node ∈ rows) :
    ∀ row ∈ rows, decide (row.id ≠ node.id) = true ↔ key row ≠ key node := by
  intro row hRow
  rw [decide_eq_true_eq, not_iff_not]
  constructor
  · exact fun h => congrArg key (List.inj_on_of_nodup_map hIds hRow hNode h)
  · exact fun h => congrArg (fun row => row.id) (List.inj_on_of_nodup_map hKey hRow hNode h)

/-- Removing a row together with its record keeps the two in agreement. -/
theorem Refines.removeNode {state : State} (hKeyed : Keyed state) (hRefines : Refines state)
    {node : DeviceLoraNodeModel} (hNode : node ∈ state.loraNodes) :
    Refines ({ state with
      store := NodeInfo.unregister state.store node.devEui node.devAddr }.removeNode node) := by
  constructor
  · exact hRefines.euis.leave node.devEui _ (kept_iff hKeyed.devEuis hKeyed.ids hNode)
  · dsimp only [State.removeNode]
    rw [hashes_unregister]
    exact hRefines.hashes.leave node.devAddr _ (kept_iff hKeyed.devAddrs hKeyed.ids hNode)

/-! The update of a node. -/

/-- The change of a row, as a map over the table. -/
def replace (next row : DeviceLoraNodeModel) : DeviceLoraNodeModel :=
  if row.id = next.id then next else row

theorem replace_self {next row : DeviceLoraNodeModel} (hId : row.id = next.id) :
    replace next row = next := if_pos hId

theorem replace_of_ne {next row : DeviceLoraNodeModel} (hId : row.id ≠ next.id) :
    replace next row = row := if_neg hId

theorem updateNode_rows (state : State) (next : DeviceLoraNodeModel) :
    (state.updateNode next).loraNodes = state.loraNodes.map (replace next) := rfl

section

variable {queryEui : String → Except ApiError Bool} {state : State} {blue : BluetoothNode}
  {node next : DeviceLoraNodeModel}

/-- What the row of an update that is not refused has to do with the old one. -/
structure Renewed (state : State) (blue : BluetoothNode) (node next : DeviceLoraNodeModel) :
    Prop where
  id : next.id = node.id
  deviceId : next.deviceId = node.deviceId
  devEui : next.devEui = blue.devEui
  devAddr : next.devAddr = blue.devAddr
  euiFree : node.devEui ≠ blue.devEui → ∀ row ∈ state.loraNodes, row.devEui ≠ blue.devEui
  addrFree : node.devAddr ≠ blue.devAddr → ∀ row ∈ state.loraNodes, row.devAddr ≠ blue.devAddr

/-- An identifier the lookup does not find is free. -/
theorem devEuiExists_false {devEui : Eui} (h : ¬state.devEuiExists devEui = true) :
    ∀ row ∈ state.loraNodes, row.devEui ≠ devEui := by
  simpa [State.devEuiExists, List.find?_isSome] using h

/-- An address the lookup does not find is free. -/
theorem devAddrExists_false {devAddr : LoRaAddr} (h : ¬state.devAddrExists devAddr = true) :
    ∀ row ∈ state.loraNodes, row.devAddr ≠ devAddr := by
  simpa [State.devAddrExists, List.find?_isSome] using h

/-- The new identifier of a node is its own or free. -/
theorem blueDevEui_free (h : blueDevEui queryEui state blue node = .ok next) :
    next = { node with devEui := blue.devEui } ∧
      (node.devEui ≠ blue.devEui → ∀ row ∈ state.loraNodes, row.devEui ≠ blue.devEui) := by
  unfold blueDevEui at h
  split_ifs at h with hSame hExists
  · cases h
    exact ⟨by rw [← hSame], fun hNe => absurd hSame hNe⟩
  · cases hValid : validDevEui queryEui state blue.devEui with
    | error error =>
        rw [hValid] at h
        cases h
    | ok known =>
        rw [hValid] at h
        cases h
        exact ⟨rfl, fun _ => devEuiExists_false hExists⟩

/-- The new address of a node is its own or free. -/
theorem blueDevAddr_free (h : blueDevAddr queryEui state blue node = .ok next) :
    next.id = node.id ∧ next.deviceId = node.deviceId ∧ next.devEui = node.devEui ∧
      next.devAddr = blue.devAddr ∧
      (node.devAddr ≠ blue.devAddr → ∀ row ∈ state.loraNodes, row.devAddr ≠ blue.devAddr) := by
  unfold blueDevAddr at h
  split_ifs at h with hSame hExists
  · cases h
    exact ⟨rfl, rfl, rfl, hSame, fun hNe => absurd hSame hNe⟩
  · cases hValid : validAddr queryEui state blue.devAddr with
    | error error =>
        rw [hValid] at h
        cases h
    | ok known =>
        rw [hValid] at h
        cases h
        exact ⟨rfl, rfl, rfl, rfl, fun _ => devAddrExists_false hExists⟩

/-- The row that an identity change writes: the asked keys, each its own or free. -/
theorem blueModel_renewed (h : blueModel queryEui state node blue = .ok next) :
    Renewed state blue node next := by
  simp only [blueModel, bind_eq_ok] at h
  obtain ⟨joinType, _, active, hEui, addressed, hAddr, hLast⟩ := h
  obtain rfl := Except.ok.inj hLast
  obtain ⟨rfl, hEuiFree⟩ := blueDevEui_free hEui
  obtain ⟨hId, hDeviceId, hDevEui, hDevAddr, hAddrFree⟩ := blueDevAddr_free hAddr
  exact ⟨hId, hDeviceId, hDevEui, hDevAddr, hEuiFree, hAddrFree⟩

variable {store : NodeStore}

/-- A new value of a unique key that no other row has keeps the key unique. -/
theorem nodup_replace {κ : Type*} {key : DeviceLoraNodeModel → κ} {rows : List DeviceLoraNodeModel}
    (hKey : (rows.map key).Nodup) (hIds : (rows.map fun row => row.id).Nodup)
    (hFree : ∀ row ∈ rows, row.id ≠ next.id → key row ≠ key next) :
    ((rows.map (replace next)).map key).Nodup := by
  refine nodup_change hKey (replace next) fun first hFirst second hSecond hSame => ?_
  by_cases hFirstId : first.id = next.id <;> by_cases hSecondId : second.id = next.id
  · rw [List.inj_on_of_nodup_map hIds hFirst hSecond (hFirstId.trans hSecondId.symm)]
  · rw [replace_self hFirstId, replace_of_ne hSecondId] at hSame
    exact absurd hSame.symm (hFree second hSecond hSecondId)
  · rw [replace_of_ne hFirstId, replace_self hSecondId] at hSame
    exact absurd hSame (hFree first hFirst hFirstId)
  · rw [replace_of_ne hFirstId, replace_of_ne hSecondId] at hSame
    exact hSame

/-- A unique key of the updated row is free or its own. -/
theorem free_of_renewed {κ : Type*} {key : DeviceLoraNodeModel → κ}
    {rows : List DeviceLoraNodeModel} (hKey : (rows.map key).Nodup) (hNode : node ∈ rows)
    (hId : next.id = node.id)
    (hFree : key node ≠ key next → ∀ row ∈ rows, key row ≠ key next) :
    ∀ row ∈ rows, row.id ≠ next.id → key row ≠ key next := by
  intro row hRow hNe
  by_cases hSame : key node = key next
  · rw [← hSame]
    intro hRowKey
    rw [List.inj_on_of_nodup_map hKey hRow hNode hRowKey, hId] at hNe
    exact hNe rfl
  · exact hFree hSame row hRow

/-- An identity change keeps the keys unique. -/
theorem Keyed.updateNode (hKeyed : Keyed state) (hNode : node ∈ state.loraNodes)
    (hRenewed : Renewed state blue node next) :
    Keyed { state.updateNode next with store := store } where
  ids := nodup_replace hKeyed.ids hKeyed.ids fun _ _ hNe => hNe
  deviceIds := nodup_replace hKeyed.deviceIds hKeyed.ids
    (free_of_renewed hKeyed.deviceIds hNode hRenewed.id fun hNe =>
      absurd hRenewed.deviceId.symm hNe)
  devEuis := nodup_replace hKeyed.devEuis hKeyed.ids
    (free_of_renewed hKeyed.devEuis hNode hRenewed.id (hRenewed.devEui ▸ hRenewed.euiFree))
  devAddrs := nodup_replace hKeyed.devAddrs hKeyed.ids
    (free_of_renewed hKeyed.devAddrs hNode hRenewed.id (hRenewed.devAddr ▸ hRenewed.addrFree))
  devices := by
    intro row hRow
    obtain ⟨before, hBefore, rfl⟩ := List.mem_map.mp hRow
    by_cases hId : before.id = next.id
    · rw [if_pos hId]
      have hDevice := hKeyed.devices node hNode
      rw [← hRenewed.deviceId] at hDevice
      exact hDevice
    · rw [if_neg hId]
      exact hKeyed.devices before hBefore

/-- Under the old identifiers the slots of the node change in place. -/
theorem Refines.updateNode (hKeyed : Keyed state) (hRefines : Refines state)
    (hNode : node ∈ state.loraNodes) (hRenewed : Renewed state blue node next)
    {device : DevicesModel} (hDevice : state.findDevice next.deviceId = some device)
    (hEui : next.devEui = node.devEui) (hAddr : next.devAddr = node.devAddr) :
    Refines { state.updateNode next with
      store := (NodeInfo.registerToRedis
        (NodeInfo.unregister state.store next.devEui next.devAddr) next device).1 } := by
  have hSelf : replace next node = next := replace_self hRenewed.id.symm
  have hOthers {κ : Type} {key : DeviceLoraNodeModel → κ} :
      ∀ other ∈ state.loraNodes, key other ≠ key node → replace next other = other := by
    intro other hOther hKey
    apply replace_of_ne
    intro hId
    rw [List.inj_on_of_nodup_map hKeyed.ids hOther hNode (hId.trans hRenewed.id)] at hKey
    exact hKey rfl
  have hOwn {κ : Type} {key : DeviceLoraNodeModel → κ}
      (hKeys : (state.loraNodes.map key).Nodup) :
      ∀ other ∈ state.loraNodes, key other = key node → other = node :=
    fun other hOther hKey => List.inj_on_of_nodup_map hKeys hOther hNode hKey
  have hRecord : recordOf state.devices next =
      NodeHash.empty.write (NodeInfo.ofModels next device) := recordOf_eq hDevice
  constructor
  · have hChange := hRefines.euis.change (replace next) hNode (by rw [hSelf, hEui]) hOthers
      (hOwn hKeyed.devEuis)
    rw [hSelf] at hChange
    simpa only [NodeInfo.registerToRedis, NodeInfo.register, NodeInfo.unregister,
      Function.update_idem, hEui, updateNode_rows] using hChange
  · have hChange := hRefines.hashes.change (replace next) hNode (by rw [hSelf, hAddr]) hOthers
      (hOwn hKeyed.devAddrs)
    rw [hSelf, hRecord] at hChange
    have hEmpty : (NodeInfo.unregister state.store next.devEui next.devAddr).node next.devAddr =
        NodeHash.empty := by
      simp only [NodeInfo.unregister, Function.update_self]
    dsimp only [NodeInfo.registerToRedis]
    rw [hashes_register, hashes_unregister, hEmpty, Function.update_idem, hAddr]
    exact hChange

/-- A key of the old row that the new one does not have stays behind. -/
theorem stale_of_renewed {κ : Type*} {key : DeviceLoraNodeModel → κ}
    (hKey : (state.loraNodes.map key).Nodup) (hNode : node ∈ state.loraNodes)
    (hId : next.id = node.id) (hNe : key next ≠ key node) :
    ∀ row ∈ (state.updateNode next).loraNodes, key row ≠ key node := by
  intro row hRow
  obtain ⟨before, hBefore, rfl⟩ := List.mem_map.mp hRow
  by_cases hSame : before.id = next.id
  · rw [if_pos hSame]
    exact hNe
  · rw [if_neg hSame]
    intro hKeys
    rw [List.inj_on_of_nodup_map hKey hBefore hNode hKeys, hId] at hSame
    exact hSame rfl

/-- An identity change that moves a node leaves its old record behind. -/
theorem not_refines_updateNode (hKeyed : Keyed state) (hRefines : Refines state)
    (hNode : node ∈ state.loraNodes) (hRenewed : Renewed state blue node next)
    (device : DevicesModel) (hMoved : next.devEui = node.devEui → next.devAddr ≠ node.devAddr) :
    ¬Refines { state.updateNode next with
      store := (NodeInfo.registerToRedis
        (NodeInfo.unregister state.store next.devEui next.devAddr) next device).1 } := by
  intro hAfter
  by_cases hEui : next.devEui = node.devEui
  · refine Indexes.not_of_stale ?_ (stale_of_renewed hKeyed.devAddrs hNode hRenewed.id
      (hMoved hEui)) hAfter.hashes
    dsimp only [NodeInfo.registerToRedis]
    rw [hashes_register, hashes_unregister, Function.update_idem,
      Function.update_of_ne (hMoved hEui).symm, hRefines.hashes.lookup hNode]
    rfl
  · refine Indexes.not_of_stale ?_ (stale_of_renewed hKeyed.devEuis hNode hRenewed.id hEui)
      hAfter.euis
    simp only [NodeInfo.registerToRedis, NodeInfo.register, NodeInfo.unregister]
    rw [Function.update_idem, Function.update_of_ne (Ne.symm hEui), hRefines.euis.lookup hNode]
    rfl

end

end SnapEmu.Management
