import SnapEmu.Server.Atomicity
import SnapEmu.Server.Deletion

/-! When the deletion of a device leaves nothing of it in the tables and in the
cache. -/
namespace SnapEmu.Server

open Device Management Semantics User Action DeviceService

/-- The tables whose rows refer to a device. -/
inductive Table where
  | devices | loraNodes | loraGates | snaps | mqtts | authorities | data | functions | downlinks
  | dataNames | links
  deriving DecidableEq

namespace Rows

/-- The devices that the rows of a table refer to. -/
def references (rows : Rows) : Table → List Id
  | .devices => rows.devices.map fun row => row.id
  | .loraNodes => rows.loraNodes.map fun row => row.deviceId
  | .loraGates => rows.loraGates.map fun row => row.deviceId
  | .snaps => rows.snaps.map fun row => row.deviceId
  | .mqtts => rows.mqtts.map fun row => row.deviceId
  | .authorities => rows.authorities.map fun row => row.deviceId
  | .data => rows.data.map fun row => row.deviceId
  | .functions => rows.functions.map fun row => row.device
  | .downlinks => rows.downlinks.map fun row => row.deviceId
  | .dataNames => rows.dataNames.map fun row => row.deviceId
  | .links => rows.links.map fun row => row.deviceId

/-- Unique keys of the tables of devices, of nodes and of gateways. -/
structure Keyed (rows : Rows) : Prop where
  deviceIds : (rows.devices.map fun row => row.id).Nodup
  deviceEuis : (rows.devices.map fun row => row.eui).Nodup
  nodeDevices : (rows.loraNodes.map fun row => row.deviceId).Nodup
  gateDevices : (rows.loraGates.map fun row => row.deviceId).Nodup

end Rows

/-- The records of devices in the cache. -/
inductive Record where
  | node (addr : LoRaAddr)
  | gateway (eui : Eui)
  | snap (eui : Eui)
  deriving DecidableEq

namespace Cache

/-- The device that a record names. -/
def names (cache : Cache) : Record → Option Id
  | .node addr => (RedisCodec.codec : FieldCodec RedisArg Id).fromValue
      (cache.nodes.node addr .deviceId)
  | .gateway eui => (RedisCodec.codec : FieldCodec RedisArg Id).fromValue
      (cache.gateways eui .device)
  | .snap eui => (RedisCodec.codec : FieldCodec RedisArg Id).fromValue (cache.snaps eui .id)

/-- There is a key of an identity, by the type of the device. -/
def Taken (cache : Cache) (eui : Eui) : DeviceType → Prop
  | .LoRaNode => cache.nodes.nodeEui eui ≠ none
  | .LoRaGate => cache.gateways eui ≠ fun _ => none
  | .Snap => cache.snaps eui ≠ fun _ => none
  | .MQTT => False

end Cache

/-- Nothing of a device is left: no row refers to it and no record names it, its
identity is free, and the keys of its rows are gone. -/
structure Forgotten (world after : World) (deviceId : Id) : Prop where
  rows : ∀ table, deviceId ∉ after.rows.references table
  free : ∀ device ∈ world.rows.devices, device.id = deviceId →
    ∀ row ∈ after.rows.devices, row.eui ≠ device.eui
  nodes : ∀ node ∈ world.rows.loraNodes, node.deviceId = deviceId →
    after.cache.nodes.nodeEui node.devEui = none ∧
      after.cache.nodes.node node.devAddr = NodeHash.empty
  gates : ∀ gate ∈ world.rows.loraGates, gate.deviceId = deviceId →
    after.cache.gateways gate.eui = fun _ => none
  snaps : ∀ snap ∈ world.rows.snaps, snap.deviceId = deviceId →
    after.cache.snaps snap.eui = fun _ => none
  unnamed : ∀ record, after.cache.names record ≠ some deviceId
  untaken : ∀ device ∈ world.rows.devices, device.id = deviceId →
    ¬after.cache.Taken device.eui device.deviceType
  unaddressed : ∀ node ∈ world.rows.loraNodes, node.deviceId = deviceId →
    ∀ eui, after.cache.nodes.nodeEui eui ≠ some node.devAddr

/-- The tables that a deletion clears, by the type of the device. -/
def cleared : DeviceType → List Table
  | .Snap => [.devices, .authorities, .links, .data]
  | .MQTT => [.devices, .authorities, .links, .mqtts]
  | .LoRaNode => [.devices, .authorities, .links, .loraNodes, .data]
  | .LoRaGate => [.devices, .authorities, .links, .loraGates]

/-- The record that a deletion takes out, that of the row it finds. -/
def unregistered (rows : Rows) (device : DevicesModel) : Option Record :=
  match device.deviceType with
  | .Snap => (rows.snaps.find? fun row => row.deviceId = device.id).map fun row => .snap row.eui
  | .MQTT => none
  | .LoRaNode => (rows.loraNodes.find? fun row => row.deviceId = device.id).map
      fun row => .node row.devAddr
  | .LoRaGate => (rows.loraGates.find? fun row => row.deviceId = device.id).map
      fun row => .gateway row.eui

/-- The identity whose key a deletion takes out. -/
def freed (rows : Rows) (device : DevicesModel) : Option Eui :=
  match device.deviceType with
  | .Snap => (rows.snaps.find? fun row => row.deviceId = device.id).map fun row => row.eui
  | .MQTT => none
  | .LoRaNode => (rows.loraNodes.find? fun row => row.deviceId = device.id).map
      fun row => row.devEui
  | .LoRaGate => (rows.loraGates.find? fun row => row.deviceId = device.id).map fun row => row.eui

/-- The deletion of a device comes by all that refers to it: rows of tables that
its type clears, the record of its row, the key of its identity under that of
its row, and no other key with its address. -/
structure Clearable (world : World) (device : DevicesModel) : Prop where
  rows : ∀ table, device.id ∈ world.rows.references table → table ∈ cleared device.deviceType
  records : ∀ record, world.cache.names record = some device.id →
    unregistered world.rows device = some record
  identity : world.cache.Taken device.eui device.deviceType →
    freed world.rows device = some device.eui
  addresses : ∀ node ∈ world.rows.loraNodes, node.deviceId = device.id →
    ∀ eui, world.cache.nodes.nodeEui eui = some node.devAddr → eui = node.devEui

section

variable {world after : World} {device : DevicesModel}

namespace Cache

variable (cache : Cache)

/-- Without the keys of a node no record of these keys is named. -/
theorem names_unregisterNode (devEui : Eui) (devAddr : LoRaAddr) (record : Record) :
    { cache with nodes := NodeInfo.unregister cache.nodes devEui devAddr }.names record =
      if record = .node devAddr then none else cache.names record := by
  cases record with
  | node addr =>
      by_cases hAddr : addr = devAddr
      · rw [if_pos (congrArg Record.node hAddr), names, NodeInfo.unregister, hAddr]
        dsimp only
        rw [Function.update_self]
        rfl
      · rw [if_neg fun hSame => hAddr (Record.node.inj hSame), names, names, NodeInfo.unregister]
        dsimp only
        rw [Function.update_of_ne hAddr]
  | _ => rw [if_neg fun hSame => by cases hSame]; rfl

/-- Without the key of a gateway no record of this key is named. -/
theorem names_unregisterGateway (eui : Eui) (record : Record) :
    { cache with gateways := Function.update cache.gateways eui fun _ => none }.names record =
      if record = .gateway eui then none else cache.names record := by
  cases record with
  | gateway other =>
      by_cases hEui : other = eui
      · rw [if_pos (congrArg Record.gateway hEui), names, hEui]
        dsimp only
        rw [Function.update_self]
        rfl
      · rw [if_neg fun hSame => hEui (Record.gateway.inj hSame), names, names]
        dsimp only
        rw [Function.update_of_ne hEui]
  | _ => rw [if_neg nofun]; rfl

/-- Without the key of a device of the other protocol no record of this key is named. -/
theorem names_unregisterSnap (eui : Eui) (record : Record) :
    { cache with snaps := Function.update cache.snaps eui fun _ => none }.names record =
      if record = .snap eui then none else cache.names record := by
  cases record with
  | snap other =>
      by_cases hEui : other = eui
      · rw [if_pos (congrArg Record.snap hEui), names, hEui]
        dsimp only
        rw [Function.update_self]
        rfl
      · rw [if_neg fun hSame => hEui (Record.snap.inj hSame), names, names]
        dsimp only
        rw [Function.update_of_ne hEui]
  | _ => rw [if_neg nofun]; rfl

end Cache

/-- The deletion by type of such a device drops the key of its row, and no row. -/
theorem deleteSnap_ok {deviceId : Id}
    (h : SnapDeviceService.delete deviceId world = some (after, .ok ())) :
    ∃ snap, (world.rows.snaps.find? fun row => row.deviceId = deviceId) = some snap ∧
      after = world.unregisterSnap snap.eui := by
  unfold SnapDeviceService.delete at h
  rw [get_bind] at h
  cases hRow : world.rows.snaps.find? fun row => row.deviceId = deviceId with
  | none =>
      rw [hRow] at h
      cases h
  | some snap =>
      rw [hRow] at h
      cases h
      exact ⟨snap, rfl, rfl⟩

/-- The deletion of a node drops its row and both keys of that row. -/
theorem deleteNode_ok {deviceId : Id}
    (h : LoRaNodeService.deleteNode deviceId world = some (after, .ok ())) :
    ∃ node, (world.rows.loraNodes.find? fun row => row.deviceId = deviceId) = some node ∧
      after = { world with
        rows := { world.rows with
          loraNodes := world.rows.loraNodes.filter fun row => row.id ≠ node.id }
        cache := { world.cache with
          nodes := NodeInfo.unregister world.cache.nodes node.devEui node.devAddr } } := by
  have hFind : world.lora.findNode deviceId =
    world.rows.loraNodes.find? fun row => row.deviceId = deviceId := rfl
  unfold LoRaNodeService.deleteNode onLora Management.deleteNode at h
  dsimp only at h
  cases hRow : world.rows.loraNodes.find? fun row => row.deviceId = deviceId with
  | none =>
      rw [hFind, hRow] at h
      cases h
  | some node =>
      rw [hFind, hRow] at h
      cases h
      exact ⟨node, rfl, rfl⟩

/-- The deletion of a gateway drops its row, its integration and its key. -/
theorem deleteGateway_ok {deviceId : Id}
    (h : LoRaGateService.deleteGateway deviceId world = some (after, .ok ())) :
    ∃ gate integrations,
      (world.rows.loraGates.find? fun row => row.deviceId = deviceId) = some gate ∧
        after = { world.unregisterGateway gate.eui with
          rows := { world.rows with
            loraGates := world.rows.loraGates.filter fun row => row.id ≠ gate.id
            integrations := integrations } } := by
  unfold LoRaGateService.deleteGateway at h
  rw [get_bind] at h
  cases hRow : world.rows.loraGates.find? fun row => row.deviceId = deviceId with
  | none =>
      rw [hRow] at h
      cases h
  | some gate =>
      rw [hRow] at h
      dsimp only at h
      rw [modify_bind] at h
      cases hToken : world.rows.integrations.find? fun row =>
          row.username = showEui gate.eui ∧ row.mqttType = .Gateway with
      | none =>
          rw [hToken] at h
          cases h
          exact ⟨gate, _, rfl, rfl⟩
      | some token =>
          rw [hToken] at h
          cases h
          exact ⟨gate, _, rfl, rfl⟩

/-- The state after the step of a deletion that depends on the type. -/
theorem deleteTyped_ok (h : deleteTyped device world = some (after, .ok ())) :
    match device.deviceType with
    | .Snap => ∃ snap, (world.rows.snaps.find? fun row => row.deviceId = device.id) = some snap ∧
        after = { world.unregisterSnap snap.eui with
          rows := { world.rows with
            data := world.rows.data.filter fun row => row.deviceId ≠ device.id } }
    | .MQTT => after = { world with
        rows := { world.rows with
          mqtts := world.rows.mqtts.filter fun row => row.deviceId ≠ device.id } }
    | .LoRaNode => ∃ node,
        (world.rows.loraNodes.find? fun row => row.deviceId = device.id) = some node ∧
          after = { world with
            rows := { world.rows with
              loraNodes := world.rows.loraNodes.filter fun row => row.id ≠ node.id
              data := world.rows.data.filter fun row => row.deviceId ≠ device.id }
            cache := { world.cache with
              nodes := NodeInfo.unregister world.cache.nodes node.devEui node.devAddr } }
    | .LoRaGate => ∃ gate integrations,
        (world.rows.loraGates.find? fun row => row.deviceId = device.id) = some gate ∧
          after = { world.unregisterGateway gate.eui with
            rows := { world.rows with
              loraGates := world.rows.loraGates.filter fun row => row.id ≠ gate.id
              integrations := integrations } } := by
  unfold deleteTyped at h
  cases hType : device.deviceType with
  | Snap =>
      rw [hType] at h
      obtain ⟨middle, _, hDelete, hData⟩ := bind_eq_ok.mp h
      obtain ⟨snap, hRow, rfl⟩ := deleteSnap_ok hDelete
      cases hData
      exact ⟨snap, hRow, rfl⟩
  | MQTT =>
      rw [hType] at h
      cases h
      rfl
  | LoRaNode =>
      rw [hType] at h
      obtain ⟨middle, _, hDelete, hData⟩ := bind_eq_ok.mp h
      obtain ⟨node, hRow, rfl⟩ := deleteNode_ok hDelete
      cases hData
      exact ⟨node, hRow, rfl⟩
  | LoRaGate =>
      rw [hType] at h
      exact deleteGateway_ok h

/-- A device is found with the number that is asked for. -/
theorem queryOneWithAuth_ok {userId deviceId : Id} {found : DeviceWithAuth}
    (h : queryOneWithAuth world userId deviceId = .ok found) :
    found.device ∈ world.rows.devices ∧ found.device.id = deviceId := by
  unfold queryOneWithAuth at h
  split at h
  · rename_i item hItem
    cases h
    obtain ⟨auth, _, hAuth⟩ := List.mem_filterMap.mp (List.mem_of_find?_eq_some hItem)
    obtain ⟨device, hDevice, rfl⟩ := Option.map_eq_some_iff.mp hAuth
    exact ⟨List.mem_of_find?_eq_some hDevice, by simpa using List.find?_some hItem⟩
  · cases h

/-- A deletion that succeeds has found the device, and taken its links, what its
type asks for, its row and its authorities. -/
theorem delete_ok {deviceId userId : Id} (h : delete deviceId userId world = some (after, .ok ())) :
    ∃ device ∈ world.rows.devices, device.id = deviceId ∧ ∃ middle,
      deleteTyped device (world.filterLinks fun link => link.deviceId ≠ deviceId) =
        some (middle, .ok ()) ∧
        after = { middle with
          rows := { middle.rows with
            devices := middle.rows.devices.filter fun row => row.id ≠ deviceId
            authorities :=
              middle.rows.authorities.filter fun row => row.deviceId ≠ deviceId } } := by
  unfold delete at h
  rw [get_bind] at h
  cases hFound : queryOneWithAuth world userId deviceId with
  | error error =>
      rw [hFound] at h
      cases h
  | ok found =>
      obtain ⟨hDevice, rfl⟩ := queryOneWithAuth_ok hFound
      rw [hFound] at h
      dsimp only at h
      split_ifs at h with hOwner
      · obtain ⟨middle, _, hTyped, hRest⟩ := bind_eq_ok.mp (modify_bind.symm.trans h)
        cases hRest
        exact ⟨found.device, hDevice, rfl, middle, hTyped, rfl⟩
      · cases h

/-- A key that is filtered out is gone. -/
theorem not_mem_filter {α : Type} (rows : List α) (key : α → Id) (id : Id) :
    id ∉ (rows.filter fun row => key row ≠ id).map key := by
  intro hMem
  obtain ⟨row, hRow, hKey⟩ := List.mem_map.mp hMem
  exact of_decide_eq_true (List.mem_filter.mp hRow).2 hKey

/-- Without the row that is found there is none with its key. -/
theorem not_mem_of_find {α : Type} {rows : List α} {key : α → Id} (hKeys : (rows.map key).Nodup)
    {id : Id} {found : α} (hFound : (rows.find? fun row => key row = id) = some found)
    (primary : α → Id) : id ∉ (rows.filter fun row => primary row ≠ primary found).map key := by
  intro hMem
  obtain ⟨row, hRow, hKey⟩ := List.mem_map.mp hMem
  obtain ⟨hIn, hNe⟩ := List.mem_filter.mp hRow
  have hId : key found = id := by simpa using List.find?_some hFound
  have hSame : key row = key found := hKey.trans hId.symm
  rw [List.inj_on_of_nodup_map hKeys hIn (List.mem_of_find?_eq_some hFound) hSame] at hNe
  exact of_decide_eq_true hNe rfl

/-- The row with a key is the one that is found. -/
theorem find_of_nodup {α : Type} {rows : List α} {key : α → Id} (hKeys : (rows.map key).Nodup)
    {id : Id} {row : α} (hRow : row ∈ rows) (hKey : key row = id) :
    (rows.find? fun row => key row = id) = some row := by
  obtain ⟨found, hFound⟩ : ∃ found, (rows.find? fun row => key row = id) = some found :=
    Option.isSome_iff_exists.mp (List.find?_isSome.mpr ⟨row, hRow, decide_eq_true hKey⟩)
  have hSame : key found = id := by simpa using List.find?_some hFound
  rw [hFound, List.inj_on_of_nodup_map hKeys (List.mem_of_find?_eq_some hFound) hRow
    (hSame.trans hKey.symm)]

/-- A node frees the identity of its row. -/
theorem freed_node (hKeyed : world.rows.Keyed) (hType : device.deviceType = .LoRaNode)
    {node : DeviceLoraNodeModel} (hNode : node ∈ world.rows.loraNodes)
    (hId : node.deviceId = device.id) : freed world.rows device = some node.devEui := by
  rw [freed, hType]
  dsimp only
  rw [find_of_nodup hKeyed.nodeDevices hNode hId, Option.map_some]

/-- The rows that still refer to the device are those of the tables which its
type does not clear. -/
theorem references_delete (hKeyed : world.rows.Keyed) {deviceId userId : Id}
    (h : delete deviceId userId world = some (after, .ok ())) :
    ∃ device ∈ world.rows.devices, device.id = deviceId ∧
      ∀ table, deviceId ∈ after.rows.references table ↔
        deviceId ∈ world.rows.references table ∧ table ∉ cleared device.deviceType := by
  obtain ⟨device, hDevice, rfl, middle, hTyped, rfl⟩ := delete_ok h
  refine ⟨device, hDevice, rfl, ?_⟩
  have hAfter := deleteTyped_ok hTyped
  cases hType : device.deviceType with
  | Snap =>
      rw [hType] at hAfter
      obtain ⟨snap, -, rfl⟩ := hAfter
      intro table
      cases table with
      | devices | authorities | links | data =>
          exact iff_of_false (not_mem_filter _ _ _) fun h => h.2 (by decide)
      | _ => exact (and_iff_left (by decide)).symm
  | MQTT =>
      rw [hType] at hAfter
      subst hAfter
      intro table
      cases table with
      | devices | authorities | links | mqtts =>
          exact iff_of_false (not_mem_filter _ _ _) fun h => h.2 (by decide)
      | _ => exact (and_iff_left (by decide)).symm
  | LoRaNode =>
      rw [hType] at hAfter
      obtain ⟨node, hNode, rfl⟩ := hAfter
      intro table
      cases table with
      | devices | authorities | links | data =>
          exact iff_of_false (not_mem_filter _ _ _) fun h => h.2 (by decide)
      | loraNodes =>
          exact iff_of_false (not_mem_of_find hKeyed.nodeDevices hNode fun row => row.id)
            fun h => h.2 (by decide)
      | _ => exact (and_iff_left (by decide)).symm
  | LoRaGate =>
      rw [hType] at hAfter
      obtain ⟨gate, integrations, hGate, rfl⟩ := hAfter
      intro table
      cases table with
      | devices | authorities | links =>
          exact iff_of_false (not_mem_filter _ _ _) fun h => h.2 (by decide)
      | loraGates =>
          exact iff_of_false (not_mem_of_find hKeyed.gateDevices hGate fun row => row.id)
            fun h => h.2 (by decide)
      | _ => exact (and_iff_left (by decide)).symm

/-- The records of the rows of the type of the device are unregistered. -/
theorem records_delete (hKeyed : world.rows.Keyed) {deviceId userId : Id}
    (h : delete deviceId userId world = some (after, .ok ())) :
    ∃ device ∈ world.rows.devices, device.id = deviceId ∧
      (device.deviceType = .LoRaNode → ∀ node ∈ world.rows.loraNodes, node.deviceId = deviceId →
        after.cache.nodes.nodeEui node.devEui = none ∧
          after.cache.nodes.node node.devAddr = NodeHash.empty) ∧
      (device.deviceType = .LoRaGate → ∀ gate ∈ world.rows.loraGates, gate.deviceId = deviceId →
        after.cache.gateways gate.eui = fun _ => none) := by
  obtain ⟨device, hDevice, rfl, middle, hTyped, rfl⟩ := delete_ok h
  have hAfter := deleteTyped_ok hTyped
  refine ⟨device, hDevice, rfl, ?_, ?_⟩
  · intro hType node hNode hId
    rw [hType] at hAfter
    obtain ⟨found, hFound, rfl⟩ := hAfter
    have hSame : found.deviceId = device.id := by simpa using List.find?_some hFound
    rw [List.inj_on_of_nodup_map hKeyed.nodeDevices hNode (List.mem_of_find?_eq_some hFound)
      (hId.trans hSame.symm)]
    exact ⟨Function.update_self _ _ _, Function.update_self _ _ _⟩
  · intro hType gate hGate hId
    rw [hType] at hAfter
    obtain ⟨found, integrations, hFound, rfl⟩ := hAfter
    have hSame : found.deviceId = device.id := by simpa using List.find?_some hFound
    rw [List.inj_on_of_nodup_map hKeyed.gateDevices hGate (List.mem_of_find?_eq_some hFound)
      (hId.trans hSame.symm)]
    exact Function.update_self _ _ _

/-- An entry that is taken out is not there, and the others are. -/
theorem update_ne_iff {α β : Type} [DecidableEq α] (entries : α → β) (taken : α) (empty : β)
    (other : α) : Function.update entries taken empty other ≠ empty ↔
      entries other ≠ empty ∧ taken ≠ other := by
  by_cases hSame : taken = other
  · rw [hSame, Function.update_self]
    exact iff_of_false (fun hNe => hNe rfl) fun hNe => hNe.2 rfl
  · rw [Function.update_of_ne (Ne.symm hSame)]
    exact (and_iff_left hSame).symm

/-- What a deletion leaves in the cache: the records but that of the row it
finds, and the keys but that of the identity of this row. -/
theorem cache_delete {deviceId userId : Id}
    (h : delete deviceId userId world = some (after, .ok ())) :
    ∃ device ∈ world.rows.devices, device.id = deviceId ∧
      (∀ record, after.cache.names record =
        if unregistered world.rows device = some record then none else world.cache.names record) ∧
      (∀ eui, after.cache.Taken eui device.deviceType ↔
        world.cache.Taken eui device.deviceType ∧ freed world.rows device ≠ some eui) ∧
      ∀ eui, after.cache.nodes.nodeEui eui =
        if device.deviceType = .LoRaNode ∧ freed world.rows device = some eui then none
        else world.cache.nodes.nodeEui eui := by
  obtain ⟨device, hDevice, rfl, middle, hTyped, rfl⟩ := delete_ok h
  have hAfter := deleteTyped_ok hTyped
  refine ⟨device, hDevice, rfl, ?_⟩
  cases hType : device.deviceType with
  | Snap =>
      rw [hType] at hAfter
      obtain ⟨snap, hSnap, rfl⟩ := hAfter
      have hRow : (world.rows.snaps.find? fun row => row.deviceId = device.id) = some snap := hSnap
      rw [unregistered, freed, hType]
      dsimp only
      rw [hRow, Option.map_some, Option.map_some]
      simp only [Option.some.injEq, ne_eq]
      refine ⟨fun record => ?_, fun eui => update_ne_iff _ _ _ _, fun eui => (if_neg nofun).symm⟩
      refine (Cache.names_unregisterSnap _ _ _).trans ?_
      simp only [eq_comm (a := record)]
      rfl
  | MQTT =>
      rw [hType] at hAfter
      subst hAfter
      rw [unregistered, freed, hType]
      exact ⟨fun record => (if_neg nofun).symm, fun eui => iff_of_false id fun hTaken => hTaken.1,
        fun eui => (if_neg nofun).symm⟩
  | LoRaNode =>
      rw [hType] at hAfter
      obtain ⟨node, hNode, rfl⟩ := hAfter
      have hRow : (world.rows.loraNodes.find? fun row => row.deviceId = device.id) = some node :=
        hNode
      rw [unregistered, freed, hType]
      dsimp only
      rw [hRow, Option.map_some, Option.map_some]
      simp only [Option.some.injEq, ne_eq, true_and]
      refine ⟨fun record => ?_, fun eui => update_ne_iff _ _ _ _, fun eui => ?_⟩
      · refine (Cache.names_unregisterNode _ _ _ _).trans ?_
        simp only [eq_comm (a := record)]
        rfl
      · refine (Function.update_apply _ _ _ _).trans ?_
        simp only [eq_comm (a := eui)]
        rfl
  | LoRaGate =>
      rw [hType] at hAfter
      obtain ⟨gate, integrations, hGate, rfl⟩ := hAfter
      have hRow : (world.rows.loraGates.find? fun row => row.deviceId = device.id) = some gate :=
        hGate
      rw [unregistered, freed, hType]
      dsimp only
      rw [hRow, Option.map_some, Option.map_some]
      simp only [Option.some.injEq, ne_eq]
      refine ⟨fun record => ?_, fun eui => update_ne_iff _ _ _ _, fun eui => (if_neg nofun).symm⟩
      refine (Cache.names_unregisterGateway _ _ _).trans ?_
      simp only [eq_comm (a := record)]
      rfl

/-- The row of the device is gone, and no other. -/
theorem devices_delete {deviceId userId : Id}
    (h : delete deviceId userId world = some (after, .ok ())) :
    after.rows.devices = world.rows.devices.filter fun row => row.id ≠ deviceId := by
  obtain ⟨device, hDevice, rfl, middle, hTyped, rfl⟩ := delete_ok h
  have hAfter := deleteTyped_ok hTyped
  cases hType : device.deviceType with
  | Snap =>
      rw [hType] at hAfter
      obtain ⟨snap, -, rfl⟩ := hAfter
      rfl
  | MQTT =>
      rw [hType] at hAfter
      subst hAfter
      rfl
  | LoRaNode =>
      rw [hType] at hAfter
      obtain ⟨node, -, rfl⟩ := hAfter
      rfl
  | LoRaGate =>
      rw [hType] at hAfter
      obtain ⟨gate, integrations, -, rfl⟩ := hAfter
      rfl

theorem loraNodes_cleared (deviceType : DeviceType) :
    Table.loraNodes ∈ cleared deviceType ↔ deviceType = .LoRaNode := by
  cases deviceType <;> decide

theorem loraGates_cleared (deviceType : DeviceType) :
    Table.loraGates ∈ cleared deviceType ↔ deviceType = .LoRaGate := by
  cases deviceType <;> decide

theorem snaps_kept (deviceType : DeviceType) : Table.snaps ∉ cleared deviceType := by
  cases deviceType <;> decide

/-- What the deletion of a device leaves of its rows, its records and its keys. -/
structure Deleted (world after : World) (device : DevicesModel) : Prop where
  references : ∀ table, device.id ∈ after.rows.references table ↔
    device.id ∈ world.rows.references table ∧ table ∉ cleared device.deviceType
  devices : after.rows.devices = world.rows.devices.filter fun row => row.id ≠ device.id
  nodes : device.deviceType = .LoRaNode → ∀ node ∈ world.rows.loraNodes,
    node.deviceId = device.id → after.cache.nodes.nodeEui node.devEui = none ∧
      after.cache.nodes.node node.devAddr = NodeHash.empty
  gates : device.deviceType = .LoRaGate → ∀ gate ∈ world.rows.loraGates,
    gate.deviceId = device.id → after.cache.gateways gate.eui = fun _ => none
  names : ∀ record, after.cache.names record =
    if unregistered world.rows device = some record then none else world.cache.names record
  taken : ∀ eui, after.cache.Taken eui device.deviceType ↔
    world.cache.Taken eui device.deviceType ∧ freed world.rows device ≠ some eui
  pointers : ∀ eui, after.cache.nodes.nodeEui eui =
    if device.deviceType = .LoRaNode ∧ freed world.rows device = some eui then none
    else world.cache.nodes.nodeEui eui

/-- A deletion that goes through deletes the device with its number. -/
theorem delete_deleted (hKeyed : world.rows.Keyed) {deviceId userId : Id}
    (h : delete deviceId userId world = some (after, .ok ())) :
    ∃ device ∈ world.rows.devices, device.id = deviceId ∧ Deleted world after device := by
  obtain ⟨device, hDevice, rfl, hReferences⟩ := references_delete hKeyed h
  have hUnique : ∀ other ∈ world.rows.devices, other.id = device.id → other = device :=
    fun other hOther hSame => List.inj_on_of_nodup_map hKeyed.deviceIds hOther hDevice hSame
  obtain ⟨recorded, hRecorded, hId, hNodes, hGates⟩ := records_delete hKeyed h
  rw [hUnique recorded hRecorded hId] at hNodes hGates
  obtain ⟨cached, hCached, hSame, hNames, hTaken, hPointers⟩ := cache_delete h
  rw [hUnique cached hCached hSame] at hNames hTaken hPointers
  exact ⟨device, hDevice, rfl, hReferences, devices_delete h, hNodes, hGates, hNames, hTaken,
    hPointers⟩

/-- A device that is forgotten had nothing its deletion does not come by. -/
theorem Deleted.clearable (h : Deleted world after device) (hKeyed : world.rows.Keyed)
    (hDevice : device ∈ world.rows.devices) (hForgotten : Forgotten world after device.id) :
    Clearable world device := by
  refine ⟨fun table hReferred => ?_, fun record hNamed => ?_, fun hIdentity => ?_,
    fun node hNode hNodeId eui hAddr => ?_⟩
  · by_contra hKept
    exact hForgotten.rows table ((h.references table).mpr ⟨hReferred, hKept⟩)
  · by_contra hLeft
    exact hForgotten.unnamed record ((h.names record).trans ((if_neg hLeft).trans hNamed))
  · by_contra hLeft
    exact hForgotten.untaken device hDevice rfl ((h.taken device.eui).mpr ⟨hIdentity, hLeft⟩)
  · have hType : device.deviceType = .LoRaNode := by
      by_contra hOther
      exact hForgotten.rows .loraNodes ((h.references .loraNodes).mpr
        ⟨List.mem_map.mpr ⟨node, hNode, hNodeId⟩, mt (loraNodes_cleared _).mp hOther⟩)
    by_contra hEui
    refine hForgotten.unaddressed node hNode hNodeId eui ?_
    rw [h.pointers, freed_node hKeyed hType hNode hNodeId,
      if_neg fun hGone => hEui (Option.some.inj hGone.2).symm, hAddr]

/-- A device that has only what its deletion comes by is forgotten. -/
theorem Deleted.forgotten (h : Deleted world after device) (hKeyed : world.rows.Keyed)
    (hDevice : device ∈ world.rows.devices) (hClear : Clearable world device) :
    Forgotten world after device.id := by
  have hNone : ∀ table, table ∉ cleared device.deviceType →
      device.id ∉ world.rows.references table :=
    fun table hKept hReferred => hKept (hClear.rows table hReferred)
  refine ⟨fun table hLeft => ?_, ?_, ?_, ?_, ?_, fun record hNamed => ?_, ?_, ?_⟩
  · obtain ⟨hReferred, hKept⟩ := (h.references table).mp hLeft
    exact hNone table hKept hReferred
  · intro gone hGone hGoneId row hRow hEui
    rw [h.devices] at hRow
    obtain ⟨hIn, hNe⟩ := List.mem_filter.mp hRow
    rw [List.inj_on_of_nodup_map hKeyed.deviceEuis hIn hGone hEui] at hNe
    exact of_decide_eq_true hNe hGoneId
  · intro node hNode hNodeId
    by_cases hType : device.deviceType = .LoRaNode
    · exact h.nodes hType node hNode hNodeId
    · exact absurd (List.mem_map.mpr ⟨node, hNode, hNodeId⟩)
        (hNone .loraNodes (mt (loraNodes_cleared _).mp hType))
  · intro gate hGate hGateId
    by_cases hType : device.deviceType = .LoRaGate
    · exact h.gates hType gate hGate hGateId
    · exact absurd (List.mem_map.mpr ⟨gate, hGate, hGateId⟩)
        (hNone .loraGates (mt (loraGates_cleared _).mp hType))
  · intro snap hSnap hSnapId
    exact absurd (List.mem_map.mpr ⟨snap, hSnap, hSnapId⟩) (hNone .snaps (snaps_kept _))
  · rw [h.names] at hNamed
    split_ifs at hNamed with hTakenOut
    exact hTakenOut (hClear.records record hNamed)
  · intro gone hGone hGoneId hStill
    rw [List.inj_on_of_nodup_map hKeyed.deviceIds hGone hDevice hGoneId] at hStill
    obtain ⟨hIdentity, hLeft⟩ := (h.taken device.eui).mp hStill
    exact hLeft (hClear.identity hIdentity)
  · intro node hNode hNodeId eui hAddr
    have hType := (loraNodes_cleared _).mp
      (hClear.rows .loraNodes (List.mem_map.mpr ⟨node, hNode, hNodeId⟩))
    rw [h.pointers, freed_node hKeyed hType hNode hNodeId] at hAddr
    split_ifs at hAddr with hGone
    exact hGone ⟨hType, congrArg some (hClear.addresses node hNode hNodeId eui hAddr).symm⟩

/-- A device is forgotten exactly if its deletion comes by all that refers to
it. -/
theorem delete_forgets_iff (hKeyed : world.rows.Keyed) {deviceId userId : Id}
    (h : delete deviceId userId world = some (after, .ok ())) :
    Forgotten world after deviceId ↔
      ∀ device ∈ world.rows.devices, device.id = deviceId → Clearable world device := by
  obtain ⟨device, hDevice, rfl, hDeleted⟩ := delete_deleted hKeyed h
  constructor
  · intro hForgotten other hOther hSame
    rw [List.inj_on_of_nodup_map hKeyed.deviceIds hOther hDevice hSame]
    exact hDeleted.clearable hKeyed hDevice hForgotten
  · exact fun hCleared => hDeleted.forgotten hKeyed hDevice (hCleared device hDevice rfl)

end

/-- The request of user 5 for a device with EUI 7. -/
def smallRequest (deviceType : DeviceType) : DeviceCreate :=
  { fieldRequest [] with
    deviceType := deviceType
    joinParameter := some ⟨.ok "00000000000000000000000000000000", .error "missing field"⟩
    blueParm := none
    username := some "small"
    password := some "secret" }

/-- A server with one device. -/
def smallWorld (deviceType : DeviceType) : World :=
  (postDevice quietEnvironment ⟨5⟩ (smallRequest deviceType)).after World.empty

theorem smallWorld_keyed : (smallWorld .MQTT).rows.Keyed := by
  constructor <;> decide +kernel

/-- A device of type MQTT is forgotten. -/
theorem delete_forgets_mqtt :
    Forgotten (smallWorld .MQTT) ((delete ⟨1⟩ ⟨5⟩).after (smallWorld .MQTT)) ⟨1⟩ := by
  have hOk : (delete ⟨1⟩ ⟨5⟩ (smallWorld .MQTT)).map Prod.snd = some (.ok ()) := by decide +kernel
  obtain ⟨⟨after, result⟩, hRun, hResult⟩ := Option.map_eq_some_iff.mp hOk
  subst hResult
  rw [after_eq hRun, delete_forgets_iff smallWorld_keyed hRun]
  have hType : ((smallWorld .MQTT).rows.devices.all fun device =>
      device.deviceType = .MQTT) = true := by decide +kernel
  have hRecords : ∀ record, (smallWorld .MQTT).cache.names record = none := by
    intro record
    cases record <;> rfl
  intro device hDevice hId
  have hDeviceType := of_decide_eq_true (List.all_eq_true.mp hType device hDevice)
  refine ⟨?_, fun record hNamed => ?_, ?_, fun node hNode => ?_⟩
  · rw [hDeviceType, hId]
    intro table
    cases table <;> decide +kernel
  · rw [hRecords] at hNamed
    cases hNamed
  · rw [hDeviceType]
    exact False.elim
  · have hNone : (smallWorld .MQTT).rows.loraNodes = [] := by decide +kernel
    rw [hNone] at hNode
    cases hNode

/-- The row of a device of type Snap stays. -/
theorem delete_keeps_snap :
    ∃ after, delete ⟨1⟩ ⟨5⟩ (smallWorld .Snap) = some (after, .ok ()) ∧
      ¬Forgotten (smallWorld .Snap) after ⟨1⟩ := by
  have hOk : (delete ⟨1⟩ ⟨5⟩ (smallWorld .Snap)).map Prod.snd = some (.ok ()) := by decide +kernel
  obtain ⟨⟨after, result⟩, hRun, hResult⟩ := Option.map_eq_some_iff.mp hOk
  subst hResult
  have hRow : ⟨1⟩ ∈ ((delete ⟨1⟩ ⟨5⟩).after (smallWorld .Snap)).rows.references .snaps := by
    decide +kernel
  rw [after_eq hRun] at hRow
  exact ⟨after, hRun, fun hForgotten => hForgotten.rows .snaps hRow⟩

end SnapEmu.Server
