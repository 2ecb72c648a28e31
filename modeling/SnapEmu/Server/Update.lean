import SnapEmu.Management.InfoEdit
import SnapEmu.Server.DeviceDeletion

/-! The update of a device by its owner, and when the tables and the cache agree
after it. -/
namespace SnapEmu.Server

open Device Management Semantics User Action HashRecord

namespace DeviceService

/-- The row of a gateway changes with its region. -/
def updateGate (device : DevicesModel) (info : DeviceModify) : Service Unit := do
  let world ← get
  match world.rows.loraGates.find? fun gate => gate.deviceId = device.id with
  | none => throw (.user (.plain "invalid device"))
  | some gate => modifyRows fun rows =>
      { rows with
        loraGates := rows.loraGates.map fun row =>
          if row.id = gate.id then { gate with region := info.region.getD gate.region } else row }

def updateInfo (device : DevicesModel) (info : DeviceModify) : Service Unit := do
  onLora fun state => Management.updateInfo state device info
  if device.deviceType = .LoRaGate then updateGate device info else return ()

end DeviceService

/-- The unique keys of the tables of devices. -/
structure Rows.Unique (rows : Rows) : Prop extends rows.Keyed where
  nodeIds : (rows.loraNodes.map fun row => row.id).Nodup
  gateIds : (rows.loraGates.map fun row => row.id).Nodup

/-- The rows of a device as a request asks for them, all other rows as they are. -/
def editRows (rows : Rows) (device : DevicesModel) (info : DeviceModify) : Rows :=
  { rows with
    devices := rows.devices.map fun row => if row.id = device.id then info.editDevice row else row
    loraNodes := rows.loraNodes.map fun row =>
      if device.deviceType = .LoRaNode ∧ row.deviceId = device.id then info.editNode row else row
    loraGates := rows.loraGates.map fun row =>
      if device.deviceType = .LoRaGate ∧ row.deviceId = device.id then
        { row with region := info.region.getD row.region }
      else row }

/-- Of the record of a device of the other protocol only the script may change. -/
def askedSnap (info : DeviceModify) : (field : SnapField) → Option field.Value
  | .script => info.newScript
  | _ => none

/-- The record that a node row stands for. -/
def World.nodeHash (world : World) (node : DeviceLoraNodeModel) : NodeHash :=
  world.cache.nodes.node node.devAddr

def SnapHash.Present (hash : SnapHash) : Prop := ∃ field, (hash field).isSome

/-- The rows of the device are those that the request asks for, its record has the
same new values and its other entries, and no other record changes. A record
that is not there stays away. -/
structure Agreed (world after : World) (device : DevicesModel) (info : DeviceModify) : Prop where
  rows : after.rows = editRows world.rows device info
  node : device.deviceType = .LoRaNode → ∀ node ∈ world.rows.loraNodes, node.deviceId = device.id →
    ((world.nodeHash node).Present →
      HashRecord.Edited NodeField.codec info.asked (world.nodeHash node) (after.nodeHash node)) ∧
    (¬(world.nodeHash node).Present → after.nodeHash node = world.nodeHash node)
  snap : device.deviceType = .Snap →
    (SnapHash.Present (world.cache.snaps device.eui) →
      HashRecord.Edited SnapField.codec (askedSnap info) (world.cache.snaps device.eui)
        (after.cache.snaps device.eui)) ∧
    (¬SnapHash.Present (world.cache.snaps device.eui) →
      after.cache.snaps device.eui = world.cache.snaps device.eui)
  otherNodes : ∀ node ∈ world.rows.loraNodes,
    (device.deviceType = .LoRaNode → node.deviceId ≠ device.id) →
      after.nodeHash node = world.nodeHash node
  otherSnaps : ∀ eui, (device.deviceType = .Snap → eui ≠ device.eui) →
    after.cache.snaps eui = world.cache.snaps eui
  gateways : after.cache.gateways = world.cache.gateways

/-- A device that is no node has the name, the description and the script that the
request asks for. -/
structure Named (device : DevicesModel) (info : DeviceModify) : Prop where
  name : ∀ name ∈ info.name, name = device.name
  description : ∀ description ∈ info.description, description = device.description
  script : info.resetScript = none → ∀ script ∈ info.script, device.script = some script

/-- What is asked for fits the record that the EUI of the device leads to, or it
stands there already; what is written to the record of another device, or left
out of one of the other protocol, stands there too. -/
structure Suits (world : World) (device : DevicesModel) (info : DeviceModify) : Prop where
  named : device.deviceType ≠ .LoRaNode → Named device info
  node : device.deviceType = .LoRaNode → ∀ node ∈ world.rows.loraNodes, node.deviceId = device.id →
    (world.nodeHash node).Present →
      if world.cache.nodes.nodeEui device.eui = some node.devAddr then
        Fits info device (world.nodeHash node)
      else Holds NodeField.codec info.asked (world.nodeHash node)
  others : ∀ node ∈ world.rows.loraNodes,
    (device.deviceType = .LoRaNode → node.deviceId ≠ device.id) →
      world.cache.nodes.nodeEui device.eui = some node.devAddr → (world.nodeHash node).Present →
        Management.Stands info device (world.nodeHash node)
  snap : device.deviceType = .Snap → SnapHash.Present (world.cache.snaps device.eui) →
    ∀ script ∈ info.newScript,
      SnapField.script.codec.fromValue (world.cache.snaps device.eui .script) = some script

section

variable {world after : World} {device : DevicesModel} {info : DeviceModify}

/-- A row that one unique key finds is the one that another finds. -/
theorem map_found {α κ ι : Type} [DecidableEq κ] [DecidableEq ι] {rows : List α} {key : α → κ}
    {other : α → ι} (hKey : (rows.map key).Nodup) (hOther : (rows.map other).Nodup) {found : α}
    (hFound : found ∈ rows) (edit : α → α) :
    (rows.map fun row => if key row = key found then edit found else row) =
      rows.map fun row => if other row = other found then edit row else row := by
  refine List.map_congr_left fun row hRow => ?_
  by_cases hSame : row = found
  · rw [hSame, if_pos rfl, if_pos rfl]
  · rw [if_neg fun h => hSame (List.inj_on_of_nodup_map hKey hRow hFound h),
      if_neg fun h => hSame (List.inj_on_of_nodup_map hOther hRow hFound h)]

/-- The rows that an update writes. -/
def writtenRows (rows : Rows) (device : DevicesModel) (info : DeviceModify) : Rows :=
  { editRows rows device info with
    devices := rows.devices.map fun row =>
      if row.id = device.id then info.writtenDevice device else row }

/-- The row of a gateway gets the region that is asked for. -/
theorem updateGate_ok (hIds : (world.rows.loraGates.map fun row => row.id).Nodup)
    (hDevices : (world.rows.loraGates.map fun row => row.deviceId).Nodup)
    (h : DeviceService.updateGate device info world = some (after, .ok ())) :
    after = { world with
      rows := { world.rows with
        loraGates := world.rows.loraGates.map fun row =>
          if row.deviceId = device.id then { row with region := info.region.getD row.region }
          else row } } := by
  unfold DeviceService.updateGate at h
  rw [get_bind] at h
  cases hGate : world.rows.loraGates.find? fun gate => gate.deviceId = device.id with
  | none =>
      rw [hGate] at h
      cases h
  | some gate =>
      rw [hGate] at h
      cases h
      have hId : gate.deviceId = device.id := by simpa using List.find?_some hGate
      have hMap := map_found hIds hDevices (List.mem_of_find?_eq_some hGate)
        fun row => { row with region := info.region.getD row.region }
      dsimp only
      rw [hMap, hId]

/-- What an update that succeeds has written. -/
theorem updateInfo_ok (hKeys : world.rows.Unique)
    (h : DeviceService.updateInfo device info world = some (after, .ok ())) :
    after.rows = writtenRows world.rows device info ∧
      after.cache = { world.cache with
        nodes := onHash world.cache.nodes device.eui (info.editHash device) } := by
  unfold DeviceService.updateInfo at h
  obtain ⟨middle, _, hLora, hRest⟩ := bind_eq_ok.mp h
  cases hUpdate : Management.updateInfo world.lora device info with
  | mk state result =>
      simp only [onLora, hUpdate] at hLora
      cases hLora
      by_cases hNode : device.deviceType = .LoRaNode
      · have hGate : device.deviceType ≠ .LoRaGate := by rw [hNode]; decide
        rw [if_neg hGate] at hRest
        cases hRest
        obtain ⟨node, hFound, rfl⟩ := updateInfo_node hNode hUpdate
        obtain ⟨hMem, hId⟩ := findNode_some hFound
        have hMap := map_found hKeys.nodeIds hKeys.nodeDevices hMem info.editNode
        refine ⟨?_, rfl⟩
        simp only [writtenRows, editRows, World.withLora, hNode, reduceCtorEq, false_and, if_false,
          true_and, List.map_id']
        rw [hId] at hMap
        rw [← hMap]
        rfl
      · obtain rfl := updateInfo_other hNode hUpdate
        by_cases hGate : device.deviceType = .LoRaGate
        · rw [if_pos hGate] at hRest
          cases @updateGate_ok (world.withLora _) _ _ _ hKeys.gateIds hKeys.gateDevices hRest
          refine ⟨?_, rfl⟩
          simp only [writtenRows, editRows, hGate, reduceCtorEq, false_and, if_false, true_and,
            List.map_id']
          rfl
        · rw [if_neg hGate] at hRest
          cases hRest
          refine ⟨?_, rfl⟩
          simp only [writtenRows, editRows, hGate, hNode, false_and, if_false, List.map_id']
          rfl

/-! The rows. -/

/-- A value that is not asked for is kept, one that is must be there already. -/
theorem eq_getD_iff {α : Type} (asked : Option α) (value : α) :
    value = asked.getD value ↔ ∀ other ∈ asked, other = value := by
  cases asked with
  | none => simp
  | some other => simp [eq_comm]

/-- The script of a row is written for nodes only. -/
theorem rowScript_eq_iff :
    info.rowScript device = info.newScript.getD device.script ↔
      (device.deviceType ≠ .LoRaNode → info.resetScript = none → ∀ script ∈ info.script,
        device.script = some script) := by
  unfold DeviceModify.rowScript DeviceModify.newScript
  cases hReset : info.resetScript with
  | some reset => simp
  | none =>
      cases hScript : info.script with
      | none => simp
      | some script =>
          by_cases hNode : device.deviceType = .LoRaNode
          · simp [hNode]
          · simp [hNode]

/-- The row of a device of another type keeps name and description. -/
theorem writtenDevice_eq_iff :
    info.writtenDevice device = info.editDevice device ↔
      (device.deviceType ≠ .LoRaNode → Named device info) := by
  have hParts : info.writtenDevice device = info.editDevice device ↔
      (info.writtenDevice device).name = info.name.getD device.name ∧
        (info.writtenDevice device).description = info.description.getD device.description ∧
          info.rowScript device = info.newScript.getD device.script := by
    simp [DeviceModify.writtenDevice, DeviceModify.editDevice]
  rw [hParts, rowScript_eq_iff]
  by_cases hNode : device.deviceType = .LoRaNode
  · simp [DeviceModify.writtenDevice, hNode]
  · simp only [DeviceModify.writtenDevice]
    rw [if_neg hNode, if_neg hNode, eq_getD_iff, eq_getD_iff, imp_iff_right hNode,
      imp_iff_right hNode]
    exact ⟨fun h => ⟨h.1, h.2.1, h.2.2⟩, fun h => ⟨h.name, h.description, h.script⟩⟩

/-- The rows are as asked exactly if what is not written was so before. -/
theorem writtenRows_eq_iff (hKeys : world.rows.Unique) (hDevice : device ∈ world.rows.devices) :
    writtenRows world.rows device info = editRows world.rows device info ↔
      (device.deviceType ≠ .LoRaNode → Named device info) := by
  rw [← writtenDevice_eq_iff]
  constructor
  · intro hRows
    have hMaps := congrArg Rows.devices hRows
    have hSame := List.map_inj_left.mp hMaps device hDevice
    rwa [if_pos rfl, if_pos rfl] at hSame
  · intro hSame
    rw [writtenRows, hSame, map_found hKeys.deviceIds hKeys.deviceIds hDevice info.editDevice]
    rfl

/-! The records. -/

section

variable (hCache : after.cache = { world.cache with
  nodes := onHash world.cache.nodes device.eui (info.editHash device) })

include hCache

/-- The record that the EUI of the device leads to is edited. -/
theorem nodeHash_leads {node : DeviceLoraNodeModel}
    (hLeads : Leads world.cache.nodes device.eui node.devAddr) :
    after.nodeHash node = info.editHash device (world.nodeHash node) := by
  rw [World.nodeHash, hCache]
  exact node_onHash_of_leads hLeads

/-- Another record is left as it was. -/
theorem nodeHash_not_leads {node : DeviceLoraNodeModel}
    (hLeads : ¬Leads world.cache.nodes device.eui node.devAddr) :
    after.nodeHash node = world.nodeHash node := by
  rw [World.nodeHash, hCache]
  exact node_onHash_of_not_leads hLeads

/-- The record of the device itself. -/
theorem own_iff (hNode : device.deviceType = .LoRaNode) (node : DeviceLoraNodeModel) :
    (((world.nodeHash node).Present →
        HashRecord.Edited NodeField.codec info.asked (world.nodeHash node) (after.nodeHash node)) ∧
      (¬(world.nodeHash node).Present → after.nodeHash node = world.nodeHash node)) ↔
    ((world.nodeHash node).Present →
      if world.cache.nodes.nodeEui device.eui = some node.devAddr then
        Fits info device (world.nodeHash node)
      else Holds NodeField.codec info.asked (world.nodeHash node)) := by
  by_cases hPresent : (world.nodeHash node).Present
  · rw [imp_iff_right hPresent, imp_iff_right hPresent, and_iff_left fun h => absurd hPresent h]
    split_ifs with hEui
    · rw [nodeHash_leads hCache ⟨hEui, hPresent⟩, edited_iff_fits hNode hPresent]
    · rw [nodeHash_not_leads hCache fun h => hEui h.1, edited_refl_iff]
  · refine iff_of_true ⟨fun h => absurd h hPresent, fun _ => ?_⟩ fun h => absurd h hPresent
    exact nodeHash_not_leads hCache fun h => hPresent h.2

/-- The record of another device. -/
theorem other_iff (node : DeviceLoraNodeModel) :
    after.nodeHash node = world.nodeHash node ↔
      (world.cache.nodes.nodeEui device.eui = some node.devAddr → (world.nodeHash node).Present →
        Management.Stands info device (world.nodeHash node)) := by
  by_cases hLeads : Leads world.cache.nodes device.eui node.devAddr
  · have hPresent : (world.nodeHash node).Present := hLeads.2
    rw [nodeHash_leads hCache hLeads, editHash_eq_self_iff hPresent]
    exact ⟨fun h _ _ => h, fun h => h hLeads.1 hPresent⟩
  · refine iff_of_true (nodeHash_not_leads hCache hLeads) fun hEui hPresent => ?_
    exact absurd ⟨hEui, hPresent⟩ hLeads

end

/-- The record of a device of the other protocol has the script that is asked for. -/
theorem holds_askedSnap_iff (hash : SnapHash) :
    Holds SnapField.codec (askedSnap info) hash ↔
      ∀ script ∈ info.newScript, SnapField.script.codec.fromValue (hash .script) = some script := by
  refine ⟨fun h => h .script, fun h field value hAsked => ?_⟩
  cases field with
  | script => exact h value hAsked
  | _ => cases hAsked

/-- After an update that succeeds the tables and the cache agree exactly if the
request suits the device. -/
theorem updateInfo_agrees_iff (hKeys : world.rows.Unique) (hDevice : device ∈ world.rows.devices)
    (h : DeviceService.updateInfo device info world = some (after, .ok ())) :
    Agreed world after device info ↔ Suits world device info := by
  obtain ⟨hRows, hCache⟩ := updateInfo_ok hKeys h
  have hSnaps : after.cache.snaps = world.cache.snaps := by rw [hCache]
  have hSnap : HashRecord.Edited SnapField.codec (askedSnap info) (world.cache.snaps device.eui)
      (after.cache.snaps device.eui) ↔ ∀ script ∈ info.newScript,
        SnapField.script.codec.fromValue (world.cache.snaps device.eui .script) = some script := by
    rw [hSnaps, edited_refl_iff, holds_askedSnap_iff]
  constructor
  · intro hAgreed
    refine ⟨?_, fun hNode node hMem hId => ?_, fun node hMem hOther => ?_, fun hType hPresent => ?_⟩
    · exact (writtenRows_eq_iff hKeys hDevice).mp (hRows.symm.trans hAgreed.rows)
    · exact (own_iff hCache hNode node).mp (hAgreed.node hNode node hMem hId)
    · exact (other_iff hCache node).mp (hAgreed.otherNodes node hMem hOther)
    · exact hSnap.mp ((hAgreed.snap hType).1 hPresent)
  · intro hSuits
    refine ⟨?_, fun hNode node hMem hId => ?_, fun hType => ⟨fun hPresent => ?_, fun _ => ?_⟩,
      fun node hMem hOther => ?_, fun eui _ => congrFun hSnaps eui, ?_⟩
    · exact hRows.trans ((writtenRows_eq_iff hKeys hDevice).mpr hSuits.named)
    · exact (own_iff hCache hNode node).mpr (hSuits.node hNode node hMem hId)
    · exact hSnap.mpr (hSuits.snap hType hPresent)
    · exact congrFun hSnaps device.eui
    · exact (other_iff hCache node).mpr (hSuits.others node hMem hOther)
    · rw [hCache]

end

/-- A server with one node, whose EUI is that of its device. -/
def fieldWorld : World := (postDevice quietEnvironment ⟨5⟩ (fieldRequest [])).after World.empty

def fieldDevice : DevicesModel := DeviceService.newRow ⟨1⟩ ⟨5⟩ ⟨7⟩ "field" "field" .LoRaNode ⟨0⟩

theorem fieldWorld_unique : fieldWorld.rows.Unique := by
  constructor
  · constructor <;> decide +kernel
  · decide +kernel
  · decide +kernel

theorem fieldDevice_mem : fieldDevice ∈ fieldWorld.rows.devices := by decide +kernel

/-- A request for one of the keys. -/
def keyModify (appKey appSkey : Option Key) : DeviceModify :=
  ⟨none, none, none, none, none, none, none, none, appKey, none, appSkey, none, none⟩

def fieldKey : Key := ⟨Vector.replicate 16 1⟩

/-- A new application key comes to the row and to the record. -/
theorem app_key_agrees :
    ∃ after, DeviceService.updateInfo fieldDevice (keyModify (some fieldKey) none) fieldWorld =
        some (after, .ok ()) ∧
      Agreed fieldWorld after fieldDevice (keyModify (some fieldKey) none) := by
  have hOk : (DeviceService.updateInfo fieldDevice (keyModify (some fieldKey) none)
      fieldWorld).map Prod.snd = some (.ok ()) := by decide +kernel
  obtain ⟨⟨after, result⟩, hRun, hResult⟩ := Option.map_eq_some_iff.mp hOk
  subst hResult
  refine ⟨after, hRun, (updateInfo_agrees_iff fieldWorld_unique fieldDevice_mem hRun).mpr ?_⟩
  have hNodes : (fieldWorld.rows.loraNodes.all fun node =>
      node.deviceId = fieldDevice.id ∧
        fieldWorld.cache.nodes.nodeEui fieldDevice.eui = some node.devAddr ∧
        (fieldWorld.nodeHash node .deviceId).isSome) = true := by decide +kernel
  have hNode : ∀ node ∈ fieldWorld.rows.loraNodes, node.deviceId = fieldDevice.id ∧
      fieldWorld.cache.nodes.nodeEui fieldDevice.eui = some node.devAddr ∧
        (fieldWorld.nodeHash node .deviceId).isSome :=
    fun node hMem => of_decide_eq_true (List.all_eq_true.mp hNodes node hMem)
  refine ⟨fun hType => absurd rfl hType, fun _ node hMem _ _ => ?_, fun node hMem hOther => ?_,
    nofun⟩
  · obtain ⟨-, hEui, hSome⟩ := hNode node hMem
    rw [if_pos hEui]
    exact ⟨nofun, nofun, nofun, nofun, nofun, .inl ⟨.deviceId, hSome, nofun⟩⟩
  · exact absurd (hNode node hMem).1 (hOther rfl)

/-- A new application session key comes to the row, and in the record to the
application key. -/
theorem app_skey_disagrees :
    ∃ after, DeviceService.updateInfo fieldDevice (keyModify none (some fieldKey)) fieldWorld =
        some (after, .ok ()) ∧
      ¬Agreed fieldWorld after fieldDevice (keyModify none (some fieldKey)) := by
  have hOk : (DeviceService.updateInfo fieldDevice (keyModify none (some fieldKey))
      fieldWorld).map Prod.snd = some (.ok ()) := by decide +kernel
  obtain ⟨⟨after, result⟩, hRun, hResult⟩ := Option.map_eq_some_iff.mp hOk
  subst hResult
  refine ⟨after, hRun, fun hAgreed => ?_⟩
  have hNode : (fieldWorld.rows.loraNodes.any fun node =>
      node.deviceId = fieldDevice.id ∧ (fieldWorld.nodeHash node .deviceId).isSome ∧
        NodeField.appSkey.codec.fromValue (((DeviceService.updateInfo fieldDevice
          (keyModify none (some fieldKey))).after fieldWorld).nodeHash node .appSkey) ≠
            some fieldKey) = true := by decide +kernel
  rw [after_eq hRun] at hNode
  obtain ⟨node, hMem, hSame⟩ := List.any_eq_true.mp hNode
  obtain ⟨hId, hSome, hRead⟩ := of_decide_eq_true hSame
  exact hRead (((hAgreed.node rfl node hMem hId).1 ⟨_, hSome⟩).changed .appSkey fieldKey rfl)

end SnapEmu.Server
