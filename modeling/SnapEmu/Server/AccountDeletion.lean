import SnapEmu.Server.DeviceDeletion

/-! When the deletion of an account leaves nothing of the devices of its user. -/
namespace SnapEmu.Server

open Device Management Semantics User Action DeviceService UserService

/-- No record of the rows of these devices is in the cache, and none that names
one of them. -/
structure NoRecords (rows : Rows) (cache : Cache) (devices : List Id) : Prop where
  nodes : ∀ node ∈ rows.loraNodes, node.deviceId ∈ devices →
    cache.nodes.nodeEui node.devEui = none ∧ cache.nodes.node node.devAddr = NodeHash.empty
  gates : ∀ gate ∈ rows.loraGates, gate.deviceId ∈ devices →
    cache.gateways gate.eui = fun _ => none
  snaps : ∀ snap ∈ rows.snaps, snap.deviceId ∈ devices → cache.snaps snap.eui = fun _ => none
  unnamed : ∀ record id, cache.names record = some id → id ∉ devices

/-- The records of a cache depend on its nodes, gateways and snaps only. -/
theorem NoRecords.congr {rows : Rows} {cache cache' : Cache} {devices : List Id}
    (h : NoRecords rows cache devices) (hNodes : cache'.nodes = cache.nodes)
    (hGateways : cache'.gateways = cache.gateways) (hSnaps : cache'.snaps = cache.snaps) :
    NoRecords rows cache' devices := by
  refine ⟨hNodes ▸ h.nodes, hGateways ▸ h.gates, hSnaps ▸ h.snaps, fun record id hNamed => ?_⟩
  refine h.unnamed record id (Eq.trans ?_ hNamed)
  cases record with
  | node addr => rw [Cache.names, Cache.names, hNodes]
  | gateway eui => rw [Cache.names, Cache.names, hGateways]
  | snap eui => rw [Cache.names, Cache.names, hSnaps]

/-- The tables whose rows go with the devices of a user. -/
def deviceTables : List Table :=
  [.loraNodes, .loraGates, .snaps, .mqtts, .authorities, .data, .links]

/-- Nothing of the devices of a user is left, none of the groups, and no
credential. -/
structure AccountGone (world after : World) (userId : Id) : Prop where
  rows : ∀ table ∈ deviceTables, ∀ id ∈ ids (owned world userId), id ∉ after.rows.references table
  groups : ∀ group ∈ after.rows.groups, group.owner ≠ userId
  records : NoRecords world.rows after.cache (ids (owned world userId))
  integrations : ∀ row ∈ after.rows.integrations, row.userId ≠ userId
  refused : ∀ request auth, mqttAuthFn after.rows request = .ok auth → auth.id ≠ userId

/-- Nothing of the devices, the groups and the credentials of others is gone. -/
structure OthersKept (world after : World) (userId : Id) : Prop where
  loraNodes : ∀ row ∈ world.rows.loraNodes, row.deviceId ∉ ids (owned world userId) →
    row ∈ after.rows.loraNodes
  loraGates : ∀ row ∈ world.rows.loraGates, row.deviceId ∉ ids (owned world userId) →
    row ∈ after.rows.loraGates
  snaps : ∀ row ∈ world.rows.snaps, row.deviceId ∉ ids (owned world userId) →
    row ∈ after.rows.snaps
  mqtts : ∀ row ∈ world.rows.mqtts, row.deviceId ∉ ids (owned world userId) →
    row ∈ after.rows.mqtts
  authorities : ∀ row ∈ world.rows.authorities, row.deviceId ∉ ids (owned world userId) →
    row ∈ after.rows.authorities
  data : ∀ row ∈ world.rows.data, row.deviceId ∉ ids (owned world userId) → row ∈ after.rows.data
  links : ∀ row ∈ world.rows.links, row.deviceId ∉ ids (owned world userId) →
    row ∈ after.rows.links
  groups : ∀ group ∈ world.rows.groups, group.owner ≠ userId → group ∈ after.rows.groups
  integrations : ∀ row ∈ world.rows.integrations, row.userId ≠ userId →
    row ∈ after.rows.integrations

/-- What the deletion does not look at is not there: rows of devices under
another type, MQTT devices, links of one user to a device of another, records
and credentials. -/
structure Sweepable (world : World) (userId : Id) : Prop where
  loraNodes : ∀ row ∈ world.rows.loraNodes, row.deviceId ∈ ids (owned world userId) →
    row.deviceId ∈ typed (owned world userId) .LoRaNode
  loraGates : ∀ row ∈ world.rows.loraGates, row.deviceId ∈ ids (owned world userId) →
    row.deviceId ∈ typed (owned world userId) .LoRaGate
  snaps : ∀ row ∈ world.rows.snaps, row.deviceId ∈ ids (owned world userId) →
    row.deviceId ∈ typed (owned world userId) .LoRaNode
  mqtts : ∀ row ∈ world.rows.mqtts, row.deviceId ∉ ids (owned world userId)
  links : ∀ link ∈ world.rows.links,
    link.userId = userId ↔ link.deviceId ∈ ids (owned world userId)
  records : NoRecords world.rows world.cache (ids (owned world userId))
  integrations : ∀ row ∈ world.rows.integrations, row.userId ≠ userId

/-- What the deletion of an account leaves. -/
def withoutAccount (world : World) (userId : Id) : World :=
  let devices := owned world userId
  { world with
    rows := { world.rows with
      scripts := world.rows.scripts.filter fun row => row.owner ≠ userId
      snaps := world.rows.snaps.filter fun row => row.deviceId ∉ typed devices .LoRaNode
      loraNodes := world.rows.loraNodes.filter fun row => row.deviceId ∉ typed devices .LoRaNode
      loraGates := world.rows.loraGates.filter fun row => row.deviceId ∉ typed devices .LoRaGate
      data := world.rows.data.filter fun row => row.deviceId ∉ ids devices
      devices := world.rows.devices.filter fun row => row.id ∉ ids devices
      authorities := world.rows.authorities.filter fun row => row.deviceId ∉ ids devices
      tokens := world.rows.tokens.filter fun row => row.userId ≠ userId
      groups := world.rows.groups.filter fun row => row.owner ≠ userId
      links := world.rows.links.filter fun link => link.userId ≠ userId
      users := world.rows.users.filter fun row => row.id ≠ userId }
    cache := { world.cache with
      tokens := ((TokenService.deleteUserToken userId).after world).cache.tokens
      groups := Function.update world.cache.groups userId none } }

section

variable (world : World) (userId : Id)

theorem deleteLocalUser_eq :
    deleteLocalUser userId world = some (withoutAccount world userId, .ok ()) := rfl

variable {world : World} {userId : Id}

/-- Devices of a type are among the devices. -/
theorem typed_subset {devices : List DevicesModel} {deviceType : DeviceType} {id : Id}
    (h : id ∈ typed devices deviceType) : id ∈ ids devices := by
  obtain ⟨device, hDevice, rfl⟩ := List.mem_map.mp h
  exact List.mem_map_of_mem (List.mem_of_mem_filter hDevice)

/-- What passes the check is a row with its user. -/
theorem mqttAuthFn_ok {rows : Rows} {request : MqttAuthRequest} {auth : MqttAuth}
    (h : mqttAuthFn rows request = .ok auth) :
    ∃ row ∈ rows.integrations, row.userId = auth.id ∧ row.username = request.username ∧
      row.password = request.password := by
  unfold mqttAuthFn at h
  dsimp only at h
  split at h
  · rename_i token hToken
    cases h
    have hMem := List.mem_filter.mp (List.mem_of_find?_eq_some hToken)
    exact ⟨token, hMem.1, rfl, of_decide_eq_true hMem.2, by simpa using List.find?_some hToken⟩
  · cases h

/-- No row of the devices is left exactly if all of them are in the list by
which rows are deleted. -/
theorem filter_gone_iff {α : Type} (rows : List α) (key : α → Id) (devices listed : List Id) :
    (∀ id ∈ devices, id ∉ (rows.filter fun row => key row ∉ listed).map key) ↔
      ∀ row ∈ rows, key row ∈ devices → key row ∈ listed := by
  constructor
  · intro h row hRow hDevice
    by_contra hListed
    exact h (key row) hDevice
      (List.mem_map_of_mem (List.mem_filter.mpr ⟨hRow, decide_eq_true hListed⟩))
  · intro h id hDevice hMem
    obtain ⟨row, hRow, rfl⟩ := List.mem_map.mp hMem
    obtain ⟨hIn, hKept⟩ := List.mem_filter.mp hRow
    exact of_decide_eq_true hKept (h row hIn hDevice)

/-- The rows of other users are kept if the user has only links to devices of his own.
-/
theorem othersKept (hLinks : ∀ link ∈ world.rows.links, link.userId = userId →
      link.deviceId ∈ ids (owned world userId)) :
    OthersKept world (withoutAccount world userId) userId where
  loraNodes := fun _ hRow hOther =>
    List.mem_filter.mpr ⟨hRow, decide_eq_true fun hListed => hOther (typed_subset hListed)⟩
  loraGates := fun _ hRow hOther =>
    List.mem_filter.mpr ⟨hRow, decide_eq_true fun hListed => hOther (typed_subset hListed)⟩
  snaps := fun _ hRow hOther =>
    List.mem_filter.mpr ⟨hRow, decide_eq_true fun hListed => hOther (typed_subset hListed)⟩
  mqtts := fun _ hRow _ => hRow
  authorities := fun _ hRow hOther => List.mem_filter.mpr ⟨hRow, decide_eq_true hOther⟩
  data := fun _ hRow hOther => List.mem_filter.mpr ⟨hRow, decide_eq_true hOther⟩
  links := fun link hLink hOther =>
    List.mem_filter.mpr ⟨hLink, decide_eq_true (mt (hLinks link hLink) hOther)⟩
  groups := fun _ hGroup hOther => List.mem_filter.mpr ⟨hGroup, decide_eq_true hOther⟩
  integrations := fun _ hRow _ => hRow

/-- The deletion of an account is complete exactly if nothing that it does not
look at is there. -/
theorem deleteLocalUser_complete_iff (world : World) (userId : Id) :
    (∀ after, deleteLocalUser userId world = some (after, .ok ()) →
        AccountGone world after userId ∧ OthersKept world after userId) ↔
      Sweepable world userId := by
  constructor
  · intro h
    obtain ⟨hGone, hKept⟩ := h _ (deleteLocalUser_eq world userId)
    refine ⟨?_, ?_, ?_, ?_, ?_, hGone.records.congr rfl rfl rfl, hGone.integrations⟩
    · exact (filter_gone_iff world.rows.loraNodes _ _ _).mp (hGone.rows .loraNodes (by decide))
    · exact (filter_gone_iff world.rows.loraGates _ _ _).mp (hGone.rows .loraGates (by decide))
    · exact (filter_gone_iff world.rows.snaps _ _ _).mp (hGone.rows .snaps (by decide))
    · exact fun row hRow hOwned =>
        hGone.rows .mqtts (by decide) row.deviceId hOwned (List.mem_map_of_mem hRow)
    · intro link hLink
      constructor
      · intro hUser
        by_contra hOther
        exact of_decide_eq_true (List.mem_filter.mp (hKept.links link hLink hOther)).2 hUser
      · intro hOwned
        by_contra hUser
        exact hGone.rows .links (by decide) link.deviceId hOwned
          (List.mem_map_of_mem (List.mem_filter.mpr ⟨hLink, decide_eq_true hUser⟩))
  · intro h after hRun
    cases (deleteLocalUser_eq world userId).symm.trans hRun
    refine ⟨⟨?_, ?_, h.records.congr rfl rfl rfl, h.integrations, ?_⟩,
      othersKept fun link hLink => (h.links link hLink).mp⟩
    · intro table hTable id hOwned
      cases table with
      | loraNodes => exact (filter_gone_iff world.rows.loraNodes _ _ _).mpr h.loraNodes id hOwned
      | loraGates => exact (filter_gone_iff world.rows.loraGates _ _ _).mpr h.loraGates id hOwned
      | snaps => exact (filter_gone_iff world.rows.snaps _ _ _).mpr h.snaps id hOwned
      | mqtts =>
          intro hMem
          obtain ⟨row, hRow, rfl⟩ := List.mem_map.mp hMem
          exact h.mqtts row hRow hOwned
      | authorities =>
          exact (filter_gone_iff world.rows.authorities _ _ _).mpr (fun _ _ hIn => hIn) id hOwned
      | data => exact (filter_gone_iff world.rows.data _ _ _).mpr (fun _ _ hIn => hIn) id hOwned
      | links =>
          intro hMem
          obtain ⟨link, hLink, rfl⟩ := List.mem_map.mp hMem
          obtain ⟨hIn, hUser⟩ := List.mem_filter.mp hLink
          exact of_decide_eq_true hUser ((h.links link hIn).mpr hOwned)
      | _ => exact absurd hTable (by decide)
    · exact fun group hGroup => of_decide_eq_true (List.mem_filter.mp hGroup).2
    · intro request auth hAuth hUser
      obtain ⟨row, hRow, hRowUser, -⟩ := mqttAuthFn_ok hAuth
      exact h.integrations row hRow (hRowUser.trans hUser)

/-- The credential of a gateway outlives the account of its owner. -/
theorem deleted_user_connects :
    ∃ after, deleteLocalUser ⟨5⟩ (smallWorld .LoRaGate) = some (after, .ok ()) ∧
      ¬AccountGone (smallWorld .LoRaGate) after ⟨5⟩ := by
  refine ⟨_, deleteLocalUser_eq _ _, fun hGone => ?_⟩
  have hAuth : mqttAuthFn (withoutAccount (smallWorld .LoRaGate) ⟨5⟩).rows
      ⟨"0000000000000007", "0000000000000007"⟩ = .ok ⟨⟨5⟩, "0000000000000007"⟩ := by
    decide +kernel
  exact hGone.refused _ _ hAuth rfl

end
end SnapEmu.Server
