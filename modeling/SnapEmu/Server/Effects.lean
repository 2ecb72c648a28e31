import SnapEmu.Server.Atomicity
import SnapEmu.Server.DeviceDeletion
import SnapEmu.Server.Requests

/-! What requests do to groups and to their members: most of them only take
away, and two of them add members. -/
namespace SnapEmu.Server

open Device Management Semantics User Action DeviceService DeviceGroupService

/-- The groups with their owners. -/
def owners (world : World) : List (Id × Id) :=
  world.rows.groups.map fun group => (group.id, group.owner)

/-- Who has which device in which group, once for each link. -/
def members (world : World) : List (Id × Id × Id) :=
  world.rows.links.map DeviceMapGroupModel.member

/-- Groups and members are taken away at most, and entries dropped. -/
structure Lessened (world after : World) : Prop where
  owners : (owners after).Sublist (owners world)
  members : (members after).Sublist (members world)
  devices : ∀ row ∈ after.rows.devices, ∃ before ∈ world.rows.devices, before.id = row.id
  dropped : Dropped world after
  group : world.sequences.group ≤ after.sequences.group
  device : world.sequences.device ≤ after.sequences.device

/-- One group and some members come in addition, and an entry is renewed. -/
structure Change (world after : World) (fresh : Option (Id × Id)) (added : List (Id × Id × Id)) :
    Prop where
  owners : (owners after).Sublist (owners world ++ fresh.toList)
  number : ∀ pair ∈ fresh, pair.1.value.toNat = world.sequences.group ∧
    world.sequences.group < after.sequences.group
  members : (members after).Sublist (members world ++ added)
  devices : ∀ row ∈ after.rows.devices, (∃ before ∈ world.rows.devices, before.id = row.id) ∨
    row.id.value.toNat < after.sequences.device
  entries : ∀ userId items, after.cache.groups userId = some items →
    world.cache.groups userId = some items ∨ items = readGroups after userId
  group : world.sequences.group ≤ after.sequences.group
  device : world.sequences.device ≤ after.sequences.device

section

variable {world middle after : World}

theorem lessened_refl (world : World) : Lessened world world :=
  ⟨.refl _, .refl _, fun row hRow => ⟨row, hRow, rfl⟩, dropped_refl world, le_refl _, le_refl _⟩

/-- Entries that are dropped one after another are dropped. -/
theorem Dropped.trans (h : Dropped world middle) (hNext : Dropped middle after) :
    Dropped world after := by
  intro userId
  rcases hNext userId with hGone | hSame
  · exact .inl hGone
  · rw [hSame]
    exact h userId

/-- What two steps take, both take together. -/
theorem Lessened.trans (h : Lessened world middle) (hNext : Lessened middle after) :
    Lessened world after where
  owners := hNext.owners.trans h.owners
  members := hNext.members.trans h.members
  devices := by
    intro row hRow
    obtain ⟨between, hBetween, hId⟩ := hNext.devices row hRow
    obtain ⟨before, hBefore, hSame⟩ := h.devices between hBetween
    exact ⟨before, hBefore, hSame.trans hId⟩
  dropped := h.dropped.trans hNext.dropped
  group := h.group.trans hNext.group
  device := h.device.trans hNext.device

/-- A step that only takes is a change that adds nothing. -/
theorem Lessened.change (h : Lessened world after) : Change world after none [] where
  owners := by
    rw [Option.toList_none, List.append_nil]
    exact h.owners
  number := nofun
  members := by
    rw [List.append_nil]
    exact h.members
  devices := fun row hRow => .inl (h.devices row hRow)
  entries := by
    intro userId items hItems
    rcases h.dropped userId with hGone | hSame
    · rw [hGone] at hItems
      cases hItems
    · exact .inl (hSame.symm.trans hItems)
  group := h.group
  device := h.device

/-- A change of rows takes away groups, links and devices at most. -/
theorem lessened_rows {rows : Rows} (hGroups : rows.groups.Sublist world.rows.groups)
    (hLinks : rows.links.Sublist world.rows.links)
    (hDevices : rows.devices.Sublist world.rows.devices) :
    Lessened world { world with rows := rows } where
  owners := hGroups.map _
  members := hLinks.map _
  devices := fun row hRow => ⟨row, hDevices.subset hRow, rfl⟩
  dropped := dropped_refl world
  group := le_refl _
  device := le_refl _

/-- Rows are only taken by a change that leaves a part of them. -/
theorem keeps_modifyRows {change : Rows → Rows}
    (h : ∀ rows, (change rows).groups.Sublist rows.groups ∧ (change rows).links.Sublist rows.links ∧
      (change rows).devices.Sublist rows.devices) :
    Keeps (Lessened world) (modifyRows change) := by
  refine keeps_modify fun state hState => hState.trans ?_
  obtain ⟨hGroups, hLinks, hDevices⟩ := h state.rows
  exact lessened_rows hGroups hLinks hDevices

/-- An entry that is dropped takes no row. -/
theorem lessened_setGroupCache (world : World) (userId : Id) :
    Lessened world (world.setGroupCache userId none) :=
  ⟨.refl _, .refl _, fun row hRow => ⟨row, hRow, rfl⟩, dropped_setGroupCache world userId,
    le_refl _, le_refl _⟩

/-- A transaction that fails gives back the rows. -/
theorem keeps_lessened_transaction {α : Type} {action : Service α}
    (h : Keeps (Lessened world) action) : Keeps (Lessened world) (transaction rollback action) :=
  keeps_transaction h fun _ _ hState hReached =>
    ⟨hState.owners, hState.members, hState.devices, hReached.dropped, hReached.group,
      hReached.device⟩

theorem keeps_deleteByUserId (userId : Id) :
    Keeps (Lessened world) (DeviceGroupCache.deleteByUserId userId) :=
  keeps_modify fun state hState => hState.trans (lessened_setGroupCache state userId)

theorem keeps_filterLinks (kept : DeviceMapGroupModel → Bool) :
    Keeps (Lessened world) (Action.modify fun world => world.filterLinks kept : Service Unit) :=
  keeps_modify fun _ hState =>
    hState.trans (lessened_rows (.refl _) List.filter_sublist (.refl _))

theorem keeps_filterGroups (kept : DeviceGroupModel → Bool) :
    Keeps (Lessened world) (Action.modify fun world => world.filterGroups kept : Service Unit) :=
  keeps_modify fun _ hState =>
    hState.trans (lessened_rows List.filter_sublist (.refl _) (.refl _))

/-- The deletion of a node leaves the rows of devices alone. -/
theorem deleteNode_devices (state : State) (deviceId : Id) :
    (Management.deleteNode state deviceId).1.devices = state.devices := by
  unfold Management.deleteNode
  cases state.findNode deviceId <;> rfl

/-- The deletion of a LoRa node takes no group and no link. -/
theorem keeps_deleteNode (deviceId : Id) :
    Keeps (Lessened world) (LoRaNodeService.deleteNode deviceId) := by
  intro state hState
  have hDevices := deleteNode_devices state.lora deviceId
  have hLess : Lessened state (state.withLora (Management.deleteNode state.lora deviceId).1) :=
    ⟨.refl _, .refl _,
      fun row hRow => ⟨row, by rw [World.withLora, hDevices] at hRow; exact hRow, rfl⟩,
      dropped_refl state, le_refl _, le_refl _⟩
  unfold LoRaNodeService.deleteNode onLora
  cases (Management.deleteNode state.lora deviceId).2 with
  | error error => exact hState.trans hLess
  | ok _ => exact hState.trans hLess

/-- The deletion of a gateway takes no group and no link. -/
theorem keeps_deleteGateway (deviceId : Id) :
    Keeps (Lessened world) (LoRaGateService.deleteGateway deviceId) := by
  refine keeps_get fun state hState => ?_
  dsimp only
  cases state.rows.loraGates.find? fun row => row.deviceId = deviceId with
  | none => exact keeps_throw _
  | some gate =>
      refine keeps_bind (keeps_modify fun state hState => hState.trans ?_) fun _ => ?_
      · exact ⟨.refl _, .refl _, fun row hRow => ⟨row, hRow, rfl⟩, dropped_refl state, le_refl _,
          le_refl _⟩
      · refine keeps_bind (keeps_forEach fun token _ => ?_) fun _ => ?_
        · exact keeps_modifyRows fun _ => ⟨.refl _, .refl _, .refl _⟩
        · exact keeps_modifyRows fun _ => ⟨.refl _, .refl _, .refl _⟩

/-- The record of a device of the other protocol goes with no row. -/
theorem keeps_deleteSnapRecord (deviceId : Id) :
    Keeps (Lessened world) (SnapDeviceService.delete deviceId) := by
  refine keeps_get fun state hState => ?_
  cases state.rows.snaps.find? fun row => row.deviceId = deviceId with
  | none => exact keeps_throw _
  | some snap =>
      refine keeps_modify fun state hState => hState.trans ?_
      exact ⟨.refl _, .refl _, fun row hRow => ⟨row, hRow, rfl⟩, dropped_refl state, le_refl _,
        le_refl _⟩

/-- Whatever its type, the part of a device of that type takes only its own rows. -/
theorem keeps_deleteTyped (device : DevicesModel) :
    Keeps (Lessened world) (deleteTyped device) := by
  have hData : Keeps (Lessened world) (DataService.deleteByDeviceId device.id) :=
    keeps_modifyRows fun _ => ⟨.refl _, .refl _, .refl _⟩
  unfold deleteTyped
  cases device.deviceType with
  | Snap => exact keeps_bind (keeps_deleteSnapRecord device.id) fun _ => hData
  | MQTT => exact keeps_modifyRows fun _ => ⟨.refl _, .refl _, .refl _⟩
  | LoRaNode => exact keeps_bind (keeps_deleteNode device.id) fun _ => hData
  | LoRaGate => exact keeps_deleteGateway device.id

/-- The deletion of a device adds nothing, wherever it fails. -/
theorem keeps_delete (deviceId userId : Id) : Keeps (Lessened world) (delete deviceId userId) := by
  refine keeps_get fun state hState => ?_
  cases queryOneWithAuth state userId deviceId with
  | error error => exact keeps_throw _
  | ok found =>
      dsimp only
      split_ifs with hOwner
      · refine keeps_bind (keeps_filterLinks _) fun _ => ?_
        refine keeps_bind (keeps_deleteTyped found.device) fun _ => ?_
        refine keeps_bind ?_ fun _ => ?_
        · exact keeps_modifyRows fun _ => ⟨.refl _, .refl _, List.filter_sublist⟩
        · exact keeps_modifyRows fun _ => ⟨.refl _, .refl _, .refl _⟩
      · exact keeps_throw _

/-- Tokens are kept apart from groups, links and devices. -/
theorem keeps_deleteUserToken (userId : Id) :
    Keeps (Lessened world) (TokenService.deleteUserToken userId) := by
  refine keeps_get fun state hState => ?_
  refine keeps_bind (keeps_modify fun state hState => hState.trans ?_) fun _ => ?_
  · exact ⟨.refl _, .refl _, fun row hRow => ⟨row, hRow, rfl⟩, dropped_refl state, le_refl _,
      le_refl _⟩
  · exact keeps_modify fun _ hState => hState.trans (lessened_rows (.refl _) (.refl _) (.refl _))

/-- The deletion of an account adds nothing, wherever it fails. -/
theorem keeps_deleteLocalUser (userId : Id) :
    Keeps (Lessened world) (UserService.deleteLocalUser userId) := by
  refine keeps_lessened_transaction (keeps_bind ?_ fun _ => keeps_bind ?_ fun _ =>
    keeps_bind (keeps_deleteUserToken userId) fun _ => keeps_bind ?_ fun _ => ?_)
  · exact keeps_modifyRows fun _ => ⟨.refl _, .refl _, .refl _⟩
  · refine keeps_get fun state hState => ?_
    refine keeps_bind (keeps_modifyRows fun _ => ⟨.refl _, .refl _, .refl _⟩) fun _ => ?_
    refine keeps_bind (keeps_modifyRows fun _ => ⟨.refl _, .refl _, .refl _⟩) fun _ => ?_
    refine keeps_bind (keeps_modifyRows fun _ => ⟨.refl _, .refl _, .refl _⟩) fun _ => ?_
    refine keeps_bind (keeps_modifyRows fun _ => ⟨.refl _, .refl _, .refl _⟩) fun _ => ?_
    refine keeps_bind (keeps_modifyRows fun _ => ⟨.refl _, .refl _, List.filter_sublist⟩)
      fun _ => ?_
    exact keeps_modifyRows fun _ => ⟨.refl _, .refl _, .refl _⟩
  · refine keeps_bind (keeps_filterGroups _) fun _ => ?_
    exact keeps_bind (keeps_filterLinks _) fun _ => keeps_deleteByUserId userId
  · exact keeps_modifyRows fun _ => ⟨.refl _, .refl _, .refl _⟩

/-- The deletion of a group adds nothing. -/
theorem keeps_deleteOne (userId groupId : Id) :
    Keeps (Lessened world) (deleteOne userId groupId) := by
  refine keeps_get fun state hState => ?_
  exact keeps_bind (keeps_ofExcept _) fun group => keeps_filterGroups _

theorem keeps_unlink (device userId group : Id) :
    Keeps (Lessened world) (unlink device userId group) :=
  keeps_bind (keeps_deleteByUserId userId) fun _ => keeps_filterLinks _

/-- Numbers are given, and entries dropped, also by a request that fails. -/
structure Advanced (world after : World) : Prop where
  dropped : Dropped world after
  group : world.sequences.group ≤ after.sequences.group
  device : world.sequences.device ≤ after.sequences.device

theorem advanced_refl (world : World) : Advanced world world :=
  ⟨dropped_refl world, le_refl _, le_refl _⟩

theorem Advanced.trans (h : Advanced world middle) (hNext : Advanced middle after) :
    Advanced world after :=
  ⟨h.dropped.trans hNext.dropped, h.group.trans hNext.group, h.device.trans hNext.device⟩

/-- What failed in a transaction has taken nothing but entries. -/
theorem lessened_of_failed {α : Type} {action : Service α}
    (h : Triple (fun state => state = world) action (fun _ => Advanced world)
      fun _ => Advanced world) {error : ApiError}
    (hRun : transaction rollback action world = some (after, .error error)) :
    Lessened world after := by
  obtain ⟨reached, hReached, rfl⟩ := transaction_error.mp hRun
  have hAdvanced := h.of_error rfl hReached
  exact ⟨.refl _, .refl _, fun row hRow => ⟨row, hRow, rfl⟩, hAdvanced.dropped, hAdvanced.group,
    hAdvanced.device⟩

/-- A step that advances from every state keeps what has advanced. -/
theorem keeps_advanced {action : Service Unit} {change : World → World}
    (hAction : action = Action.modify change) (h : ∀ state, Advanced state (change state)) :
    Keeps (Advanced world) action := by
  subst hAction
  exact keeps_modify fun state hState => hState.trans (h state)

/-- A number that is drawn advances its sequence. -/
theorem keeps_advanced_draw {number : Sequences → Nat} {next : Sequences → Sequences}
    (h : ∀ sequences, sequences.group ≤ (next sequences).group ∧
      sequences.device ≤ (next sequences).device) : Keeps (Advanced world) (draw number next) :=
  keeps_draw fun state hState =>
    hState.trans ⟨dropped_refl state, (h state.sequences).1, (h state.sequences).2⟩

theorem keeps_advanced_insertRow {taken : World → Bool} {add : Rows → Rows} :
    Keeps (Advanced world) (insertRow taken add) :=
  keeps_insertRow fun state hState => hState.trans ⟨dropped_refl state, le_refl _, le_refl _⟩

theorem keeps_advanced_drop (userId : Id) :
    Keeps (Advanced world) (DeviceGroupCache.deleteByUserId userId) :=
  keeps_advanced rfl fun state => ⟨dropped_setGroupCache state userId, le_refl _, le_refl _⟩

/-- A new group advances the sequence of groups. -/
theorem keeps_insertGroup (name description : String) (default : Bool) (owner : Id)
    (now : Timestamp) :
    Keeps (Advanced world) (insertGroup name description default owner now) := by
  refine keeps_get fun state hState => ?_
  refine keeps_bind (keeps_ofExcept _) fun id => ?_
  refine keeps_bind (keeps_advanced rfl fun state => ?_) fun _ => keeps_pure _
  exact ⟨dropped_refl state, Nat.le_succ _, le_refl _⟩

/-- A new link leaves the sequences of groups and devices alone. -/
theorem keeps_insertLink (userId deviceId groupId : Id) (now : Timestamp) :
    Keeps (Advanced world) (insertLink userId deviceId groupId now) := by
  refine keeps_get fun state hState => ?_
  refine keeps_bind (keeps_ofExcept _) fun id => ?_
  refine keeps_bind (keeps_advanced rfl fun state => ?_) fun _ => keeps_pure _
  exact ⟨dropped_refl state, le_refl _, le_refl _⟩

/-- A link that is refused has at most dropped the entry of its user. -/
theorem keeps_link (group userId device : Id) (now : Timestamp) :
    Keeps (Advanced world) (link group userId device now) := by
  refine keeps_get fun state hState => ?_
  cases state.findGroup group with
  | none => exact keeps_throw _
  | some _ =>
      exact keeps_bind (keeps_advanced_drop userId)
        fun _ => keeps_insertLink userId device group now

/-- The query of the default group inserts at most that group. -/
theorem keeps_queryUserDefaultGroup (userId : Id) (now : Timestamp) :
    Keeps (Advanced world) (queryUserDefaultGroup userId now) := by
  refine keeps_get fun state hState => ?_
  cases DeviceGroupCache.loadDefaultByUserId state userId with
  | some item => exact keeps_pure _
  | none =>
      cases defaultRow state userId with
      | some group => exact keeps_pure _
      | none => exact keeps_insertGroup "All" "All" true userId now

/-- The link to the default group drops at most the entry of the user. -/
theorem keeps_linkDefaultAnswered (env : Environment) (userId deviceId : Id) :
    Keeps (Advanced world) (linkDefaultAnswered env userId deviceId) := by
  refine keeps_get fun state _ => keeps_bind (keeps_ofExcept _) fun _ => ?_
  refine keeps_bind (keeps_queryUserDefaultGroup userId env.now) fun group => ?_
  refine keeps_bind (keeps_ofExcept _) fun _ => keeps_bind (keeps_advanced_drop userId) fun _ => ?_
  refine keeps_bind (keeps_insertLink _ _ _ _) fun link => ?_
  exact keeps_bind (keeps_ofExcept _) fun _ => keeps_pure link

/-- The link to a listed group drops at most the entry of the user. -/
theorem keeps_linkAnswered (env : Environment) (userId deviceId : Id) (listed : Id × Nat) :
    Keeps (Advanced world) (linkAnswered env userId deviceId listed) := by
  refine keeps_bind (keeps_ofExcept _) fun _ => keeps_get fun state hState => ?_
  cases state.findGroup listed.1 with
  | none => exact keeps_throw _
  | some group =>
      refine keeps_bind (keeps_ofExcept _) fun _ => keeps_bind (keeps_advanced_drop userId)
        fun _ => ?_
      exact keeps_bind (keeps_insertLink _ _ _ _) fun _ => keeps_ofExcept _

/-- Links and authority of a device take back no number, wherever they fail. -/
theorem keeps_finishDevice (env : Environment) (userId deviceId : Id) (groups : List Id) :
    Keeps (Advanced world) (finishDevice env userId deviceId groups) := by
  refine keeps_bind (keeps_linkDefaultAnswered env userId deviceId) fun default =>
    keeps_bind ?_ fun _ => keeps_bind ?_ fun _ => keeps_ofExcept _
  · refine keeps_forEach fun listed _ => ?_
    split_ifs
    · exact keeps_pure _
    · exact keeps_linkAnswered env userId deviceId listed
  · refine keeps_bind (keeps_advanced_draw fun _ => ⟨le_refl _, le_refl _⟩) fun id => ?_
    exact keeps_advanced_insertRow

/-- The rows and the record of a device leave the entries of groups alone. -/
theorem Registered.advanced {userId id : Id} {req : DeviceCreate} {created : World}
    (h : Registered userId world req id created) :
    Advanced world created := by
  refine ⟨fun user => .inr (congrFun h.entries user), h.group.symm.le, ?_⟩
  have hDevice := h.device
  cases hRenews : renews req with
  | some deviceId =>
      rw [hRenews] at hDevice
      exact hDevice.2.1.symm.le
  | none =>
      rw [hRenews] at hDevice
      exact (Nat.le_succ _).trans hDevice.2.1.symm.le

/-- The creation of a device drops no entry and gives back no number, wherever it fails.
-/
theorem triple_createDevice (world : World) (env : Environment) (userId : Id)
    (req : DeviceCreate) :
    Triple (fun state => state = world) (DeviceService.createDevice env userId req)
      (fun _ => Advanced world) fun _ => Advanced world := by
  rintro state rfl
  rcases createDevice_cases env userId req state with ⟨hRun, -⟩ | ⟨error, after, hRun, h, -⟩ |
    ⟨record, after, h, -, ⟨-, hRun⟩ | ⟨-, error, hRun⟩⟩ <;> rw [hRun]
  · trivial
  · exact ⟨dropped_of_eq h.cache, h.group.symm.le, h.device⟩
  · exact (h.registered record.commands).advanced
  · exact (h.registered (sentCommands env record.commands)).advanced

/-- The same with the links and the authority of the device. -/
theorem triple_newDevice (world : World) (env : Environment) (userId : Id) (req : DeviceCreate) :
    Triple (fun state => state = world) (DeviceService.newDevice env userId req)
      (fun _ => Advanced world) fun _ => Advanced world := by
  refine triple_bind (triple_createDevice world env userId req) fun id => ?_
  exact keeps_bind (keeps_finishDevice env userId id req.group) fun _ => keeps_pure id

/-- A creation that fails takes nothing but entries. -/
theorem postDevice_failed {env : Environment} {userId : Id} {req : DeviceCreate} {error : ApiError}
    (hRun : postDevice env userId req world = some (after, .error error)) :
    Lessened world after := by
  unfold postDevice at hRun
  split_ifs at hRun with hEui
  · cases hRun
    exact lessened_refl _
  · exact lessened_of_failed
      (triple_bind (triple_newDevice world env userId req) fun _ =>
        keeps_bind (keeps_ofExcept _) fun _ => keeps_ofExcept _) hRun

/-- The members that a creation adds. -/
def linkedMembers (userId deviceId default : Id) (listed : List Id) : List (Id × Id × Id) :=
  (default :: listed).map fun group => (userId, deviceId, group)

/-- A creation that succeeds links the device to the default group, which may be
new, and to the groups that count as listed. -/
structure Created (world : World) (userId deviceId : Id) (groups : List Id) (default : Id)
    (fresh : Option (Id × Id)) (after : World) : Prop where
  found : defaultGroupId world userId = .ok default
  missing : fresh = none ∧ ¬DefaultMissing world userId ∨
    fresh = some (default, userId) ∧ DefaultMissing world userId
  owners : owners after = owners world ++ fresh.toList
  members : members after =
    members world ++ linkedMembers userId deviceId default (listedGroups world userId groups)
  change : Change world after fresh
    (linkedMembers userId deviceId default (listedGroups world userId groups))

/-- Each device is one from before or has a number that has been given. -/
theorem Registered.newDevices {userId id : Id} {req : DeviceCreate} {created : World}
    (h : Registered userId world req id created) :
    ∀ row ∈ created.rows.devices, (∃ before ∈ world.rows.devices, before.id = row.id) ∨
      row.id.value.toNat < created.sequences.device := by
  intro row hRow
  have hDevice := h.device
  cases hRenews : renews req with
  | some deviceId =>
      rw [hRenews] at hDevice
      rw [hDevice.2.2.1] at hRow
      exact .inl ⟨row, hRow, rfl⟩
  | none =>
      rw [hRenews] at hDevice
      obtain ⟨hNumber, hNext, added, rfl, hDevices⟩ := hDevice
      rw [hDevices] at hRow
      rcases List.mem_append.mp hRow with hOld | hNew
      · exact .inl ⟨row, hOld, rfl⟩
      · rw [List.mem_singleton.mp hNew, numbered_ok hNumber, hNext]
        exact .inr (Nat.lt_succ_self _)

/-- What is linked after a creation is what its members say. -/
theorem Registered.created {userId id : Id} {req : DeviceCreate} {created : World}
    (h : Registered userId world req id created)
    (hFinished : Finished created userId id req.group after) :
    ∃ default fresh, Created world userId id req.group default fresh after := by
  obtain ⟨group, hGroup, hDefault⟩ := hFinished.default
  obtain ⟨default, added, hNumber, hLinks, hMembers⟩ := hFinished.links
  obtain rfl : group.id = default := Except.ok.inj (hGroup.symm.trans hNumber)
  rw [h.sameDefault] at hNumber
  rw [h.sameListed] at hMembers
  rw [h.links] at hLinks
  rw [h.sameMissing, h.groups, h.group] at hDefault
  have hMembersAfter : members after = members world ++
      linkedMembers userId id group.id (listedGroups world userId req.group) := by
    rw [members, hLinks, List.map_append, hMembers]
    rfl
  have hEntries : ∀ user items, after.cache.groups user = some items →
      world.cache.groups user = some items ∨ items = readGroups after user := by
    intro user items hItems
    rw [hFinished.entries] at hItems
    rcases dropped_setGroupCache created userId user with hGone | hSame
    · rw [hGone] at hItems
      cases hItems
    · rw [hSame, h.entries] at hItems
      exact .inl hItems
  have hChange : ∀ fresh, owners after = owners world ++ fresh.toList →
      (∀ pair ∈ fresh, pair.1.value.toNat = world.sequences.group ∧
        world.sequences.group < after.sequences.group) →
      world.sequences.group ≤ after.sequences.group →
      Change world after fresh
        (linkedMembers userId id group.id (listedGroups world userId req.group)) := by
    intro fresh hOwners hFresh hGroupSequence
    refine ⟨hOwners ▸ .refl _, hFresh, hMembersAfter ▸ .refl _, ?_, hEntries, hGroupSequence, ?_⟩
    · rw [hFinished.devices, hFinished.device]
      exact h.newDevices
    · rw [hFinished.device]
      exact h.advanced.device
  rcases hDefault with ⟨hThere, hGroups, hSequence⟩ | ⟨hMissing, hOwner, hGroups, hSequence⟩
  · have hOwners : owners after = owners world ++ (none : Option (Id × Id)).toList := by
      rw [owners, hGroups, Option.toList_none, List.append_nil]
      rfl
    exact ⟨group.id, none, hNumber, .inl ⟨rfl, hThere⟩, hOwners, hMembersAfter,
      hChange none hOwners nofun hSequence.symm.le⟩
  · have hOwners : owners after = owners world ++ (some (group.id, userId)).toList := by
      rw [owners, hGroups, List.map_append, List.map_singleton, hOwner]
      rfl
    have hNext : defaultGroupId world userId = numbered world.sequences.group := by
      unfold defaultGroupId
      rw [hMissing.1, hMissing.2]
    have hFresh : ∀ pair ∈ some (group.id, userId), pair.1.value.toNat = world.sequences.group ∧
        world.sequences.group < after.sequences.group := by
      intro pair hPair
      cases hPair
      rw [hSequence]
      exact ⟨numbered_ok (hNext.symm.trans hNumber), Nat.lt_succ_self _⟩
    refine ⟨group.id, some (group.id, userId), hNumber, .inr ⟨rfl, hMissing⟩, hOwners,
      hMembersAfter, hChange _ hOwners hFresh ?_⟩
    rw [hSequence]
    exact Nat.le_succ _

/-! The change of the members of a group. -/

/-- Links and entries apart, the state is the same. -/
structure Relinked (world after : World) : Prop where
  groups : after.rows.groups = world.rows.groups
  devices : after.rows.devices = world.rows.devices
  authorities : after.rows.authorities = world.rows.authorities
  group : after.sequences.group = world.sequences.group
  device : after.sequences.device = world.sequences.device
  dropped : Dropped world after

theorem relinked_refl (world : World) : Relinked world world :=
  ⟨rfl, rfl, rfl, rfl, rfl, dropped_refl world⟩

/-- Links that change leave the rest alone over two steps. -/
theorem Relinked.trans (h : Relinked world middle) (hNext : Relinked middle after) :
    Relinked world after :=
  ⟨hNext.groups.trans h.groups, hNext.devices.trans h.devices,
    hNext.authorities.trans h.authorities, hNext.group.trans h.group, hNext.device.trans h.device,
    h.dropped.trans hNext.dropped⟩

theorem Relinked.findGroup (h : Relinked world after) (group : Id) :
    after.findGroup group = world.findGroup group := by
  rw [World.findGroup, World.findGroup, h.groups]

/-- The user has an authority for each of the devices. -/
def Authorized (world : World) (userId : Id) (devices : List Id) : Prop :=
  ∀ id ∈ devices, ∃ found ∈ queryAllWithAuth world userId, found.device.id = id

theorem Relinked.authorized_iff (h : Relinked world after) (userId : Id) (devices : List Id) :
    Authorized after userId devices ↔ Authorized world userId devices := by
  simp only [Authorized, queryAllWithAuth, World.findDevice, h.devices, h.authorities]

/-- A device is found with an authority that names it. -/
theorem mem_queryAllWithAuth {userId : Id} {found : DeviceWithAuth}
    (h : found ∈ queryAllWithAuth world userId) :
    found.device ∈ world.rows.devices ∧ found.device.id = found.auth.deviceId := by
  obtain ⟨auth, _, hAuth⟩ := List.mem_filterMap.mp h
  obtain ⟨device, hDevice, rfl⟩ := Option.map_eq_some_iff.mp hAuth
  exact ⟨List.mem_of_find?_eq_some hDevice, by simpa using List.find?_some hDevice⟩

/-- The devices that are found are among those asked for, so that the check is
one of authority. -/
theorem checkDevices_cases (world : World) (userId : Id) (devices : List Id) :
    (∃ error, checkDevices userId devices world = some (world, .error error) ∧
      ¬Authorized world userId devices) ∨
      checkDevices userId devices world = some (world, .ok ()) ∧
        Authorized world userId devices := by
  have hFound : ∀ id, id ∈ (queryAllWithIds world userId devices).map (fun device => device.id) ↔
      id ∈ devices ∧ ∃ found ∈ queryAllWithAuth world userId, found.device.id = id := by
    intro id
    simp only [queryAllWithIds, List.mem_map, List.mem_filter, decide_eq_true_eq]
    constructor
    · rintro ⟨device, ⟨found, ⟨hFound, hListed⟩, rfl⟩, rfl⟩
      exact ⟨(mem_queryAllWithAuth hFound).2 ▸ hListed, found, hFound, rfl⟩
    · rintro ⟨hListed, found, hFound, rfl⟩
      exact ⟨found.device, ⟨found, ⟨hFound, (mem_queryAllWithAuth hFound).2 ▸ hListed⟩, rfl⟩, rfl⟩
  unfold checkDevices
  rw [get_bind]
  split_ifs with hSame
  · refine .inr ⟨rfl, fun id hId => ?_⟩
    exact ((hFound id).mp (of_decide_eq_true (List.all_eq_true.mp hSame.1 id hId))).2
  · refine .inl ⟨_, rfl, fun hAuthorized => hSame ⟨?_, ?_⟩⟩
    · exact List.all_eq_true.mpr fun id hId =>
        decide_eq_true ((hFound id).mpr ⟨hId, hAuthorized id hId⟩)
    · exact List.all_eq_true.mpr fun id hId => decide_eq_true ((hFound id).mp hId).1

/-- A link to a group that exists succeeds as long as there are numbers. -/
theorem link_existing {group : Id} (hGroup : (world.findGroup group).isSome) (userId device : Id)
    (now : Timestamp) :
    (∃ error after, link group userId device now world = some (after, .error error) ∧
        ¬world.sequences.link < 2 ^ 63) ∨
      ∃ after row, link group userId device now world = some (after, .ok row) ∧
        Relinked world after ∧ members after = members world ++ [(userId, device, group)] ∧
          after.sequences.link = world.sequences.link + 1 ∧ world.sequences.link < 2 ^ 63 := by
  obtain ⟨found, hFound⟩ := Option.isSome_iff_exists.mp hGroup
  have hLink : link group userId device now world =
      insertLink userId device group now (world.setGroupCache userId none) := by
    unfold link
    rw [get_bind, hFound]
    rfl
  by_cases hLeft : world.sequences.link < 2 ^ 63
  · have hInsert := @insertLink_ok (world.setGroupCache userId none) userId device group now _
      (numbered_of_lt hLeft)
    refine .inr ⟨_, _, hLink.trans hInsert, ?_, List.map_append, rfl, hLeft⟩
    exact ⟨rfl, rfl, rfl, rfl, rfl, dropped_setGroupCache world userId⟩
  · have hInsert := @insertLink_error (world.setGroupCache userId none) userId device group now _
      (numbered_of_not_lt hLeft)
    exact .inl ⟨_, _, hLink.trans hInsert, hLeft⟩

/-- Links of devices to a group that exists succeed as long as there are numbers. -/
theorem linkEach_devices (group userId : Id) (now : Timestamp) (devices : List Id) (world : World)
    (hGroup : (world.findGroup group).isSome) :
    (∃ error after, forEach (fun id => do let _ ← link group userId id now) devices world =
        some (after, .error error) ∧ ¬devices.length ≤ 2 ^ 63 - world.sequences.link) ∨
      ∃ after, forEach (fun id => do let _ ← link group userId id now) devices world =
          some (after, .ok ()) ∧
        Relinked world after ∧
          members after = members world ++ devices.map (fun id => (userId, id, group)) ∧
            devices.length ≤ 2 ^ 63 - world.sequences.link := by
  induction devices generalizing world with
  | nil => exact .inr ⟨world, rfl, relinked_refl world, by simp, Nat.zero_le _⟩
  | cons id devices ih =>
      rw [forEach, List.length_cons]
      rcases link_existing hGroup userId id now with
        ⟨error, after, hLink, hEnd⟩ | ⟨middle, row, hLink, hRelinked, hMembers, hNext, hLeft⟩
      · exact .inl ⟨error, after, bind_error (bind_error hLink), by omega⟩
      · rw [bind_ok (bind_ok hLink)]
        rcases ih middle (by rw [hRelinked.findGroup]; exact hGroup) with
          ⟨error, after, hRest, hEnd⟩ | ⟨after, hRest, hRelinkedRest, hMembersRest, hRoom⟩
        · exact .inl ⟨error, after, hRest, by omega⟩
        · refine .inr ⟨after, hRest, hRelinked.trans hRelinkedRest, ?_, by omega⟩
          rw [hMembersRest, hMembers, List.append_assoc]
          rfl

/-- The members that stay when devices leave a group. -/
def remaining (userId group : Id) (removed : List Id) (member : Id × Id × Id) : Bool :=
  ¬(member.1 = userId ∧ member.2.2 = group ∧ member.2.1 ∈ removed)

/-- An unlink removes the member it names. -/
theorem unlink_members (device userId group : Id) (world : World) :
    ∃ after, unlink device userId group world = some (after, .ok ()) ∧ Relinked world after ∧
      members after = (members world).filter (remaining userId group [device]) := by
  refine ⟨_, rfl, ⟨rfl, rfl, rfl, rfl, rfl, dropped_setGroupCache world userId⟩, ?_⟩
  rw [members, members, List.filter_map]
  refine congrArg (List.map _) (List.filter_congr fun link _ => ?_)
  simp only [remaining, Function.comp_apply, DeviceMapGroupModel.member, List.mem_singleton]
  exact decide_eq_decide.mpr (not_congr (by tauto))

/-- Unlinks one after another remove the members of all devices. -/
theorem unlinkEach_devices (group userId : Id) (devices : List Id) (world : World) :
    ∃ after, forEach (fun id => unlink id userId group) devices world = some (after, .ok ()) ∧
      Relinked world after ∧
        members after = (members world).filter (remaining userId group devices) := by
  induction devices generalizing world with
  | nil =>
      refine ⟨world, rfl, relinked_refl world, (List.filter_eq_self.mpr fun member _ => ?_).symm⟩
      simp [remaining]
  | cons id devices ih =>
      obtain ⟨middle, hUnlink, hRelinked, hMembers⟩ := unlink_members id userId group world
      obtain ⟨after, hRest, hRelinkedRest, hMembersRest⟩ := ih middle
      refine ⟨after, (bind_ok hUnlink).trans hRest, hRelinked.trans hRelinkedRest, ?_⟩
      rw [hMembersRest, hMembers, List.filter_filter]
      refine List.filter_congr fun member _ => ?_
      simp only [remaining, List.mem_cons, List.not_mem_nil, or_false]
      rw [← Bool.decide_and]
      exact decide_eq_decide.mpr (by tauto)

/-- What a change of a group asks for: the group is one that the user may edit, all
devices are authorized, and there are numbers for the links. -/
structure Edits (world : World) (userId groupId : Id) (info : ReqPutDeviceGroup)
    (group : DeviceGroupModel) : Prop where
  found : editable world groupId userId = .ok group
  devices : Authorized world userId (info.devices.getD [])
  room : (info.devices.getD []).length ≤ 2 ^ 63 - world.sequences.link
  remove : Authorized world userId (info.remove.getD [])

/-- The links of a request are refused, or all devices become members. -/
theorem linkDevices_cases {group userId : Id} (hGroup : (world.findGroup group).isSome)
    (devices : Option (List Id)) (now : Timestamp) :
    (∃ error after, linkDevices group userId devices now world = some (after, .error error) ∧
      ¬(Authorized world userId (devices.getD []) ∧
        (devices.getD []).length ≤ 2 ^ 63 - world.sequences.link)) ∨
      ∃ after, linkDevices group userId devices now world = some (after, .ok ()) ∧
        Relinked world after ∧
          members after =
            members world ++ (devices.getD []).map (fun id => (userId, id, group)) ∧
            Authorized world userId (devices.getD []) ∧
              (devices.getD []).length ≤ 2 ^ 63 - world.sequences.link := by
  cases devices with
  | none =>
      refine .inr ⟨world, rfl, relinked_refl world, by simp, ?_, Nat.zero_le _⟩
      exact fun id hId => absurd hId List.not_mem_nil
  | some devices =>
      rcases checkDevices_cases world userId devices with
        ⟨error, hCheck, hNot⟩ | ⟨hCheck, hAuthorized⟩
      · exact .inl ⟨error, world, bind_error hCheck, fun h => hNot h.1⟩
      · rcases linkEach_devices group userId now devices world hGroup with
          ⟨error, after, hLinks, hEnd⟩ | ⟨after, hLinks, hRelinked, hMembers, hRoom⟩
        · exact .inl ⟨error, after, (bind_ok hCheck).trans hLinks, fun h => hEnd h.2⟩
        · exact .inr ⟨after, (bind_ok hCheck).trans hLinks, hRelinked, hMembers, hAuthorized, hRoom⟩

/-- The unlinks of a request are refused, or all devices cease to be members. -/
theorem unlinkDevices_cases (world : World) (group userId : Id) (devices : Option (List Id)) :
    (∃ error, unlinkDevices group userId devices world = some (world, .error error) ∧
      ¬Authorized world userId (devices.getD [])) ∨
      ∃ after, unlinkDevices group userId devices world = some (after, .ok ()) ∧
        Relinked world after ∧
          members after = (members world).filter (remaining userId group (devices.getD [])) ∧
            Authorized world userId (devices.getD []) := by
  cases devices with
  | none =>
      obtain ⟨after, hRun, hRelinked, hMembers⟩ := unlinkEach_devices group userId [] world
      cases hRun
      exact .inr ⟨world, rfl, hRelinked, hMembers, fun id hId => absurd hId List.not_mem_nil⟩
  | some devices =>
      rcases checkDevices_cases world userId devices with
        ⟨error, hCheck, hNot⟩ | ⟨hCheck, hAuthorized⟩
      · exact .inl ⟨error, bind_error hCheck, hNot⟩
      · obtain ⟨after, hRun, hRelinked, hMembers⟩ := unlinkEach_devices group userId devices world
        exact .inr ⟨after, (bind_ok hCheck).trans hRun, hRelinked, hMembers, hAuthorized⟩

/-- A change of a group that succeeds links devices and then removes some. -/
structure Edited (world : World) (userId groupId : Id) (info : ReqPutDeviceGroup)
    (after : World) : Prop where
  owners : owners after = owners world
  members : members after =
    (members world ++ (info.devices.getD []).map fun id => (userId, id, groupId)).filter
      (remaining userId groupId (info.remove.getD []))
  devices : after.rows.devices = world.rows.devices
  group : after.sequences.group = world.sequences.group
  device : after.sequences.device = world.sequences.device
  dropped : Dropped world after

/-- A group that may be edited is the one that the request names. -/
theorem editable_found {groupId userId : Id} {group : DeviceGroupModel}
    (h : editable world groupId userId = .ok group) :
    world.findGroup groupId = some group ∧ group.id = groupId := by
  unfold editable at h
  cases hGroup : world.findGroup groupId with
  | none =>
      rw [hGroup] at h
      cases h
  | some found =>
      simp only [hGroup] at h
      split_ifs at h
      cases h
      exact ⟨rfl, by simpa using List.find?_some hGroup⟩

/-- A group that keeps its owner leaves the owners as they were. -/
theorem owners_mapGroups {reached : World} {group next : DeviceGroupModel}
    (hDistinct : ((owners reached).map Prod.fst).Nodup) (hGroup : group ∈ reached.rows.groups)
    (hId : next.id = group.id) (hOwner : next.owner = group.owner) :
    owners (reached.mapGroups fun row => if row.id = next.id then next else row) =
      owners reached := by
  rw [owners, List.map_map] at hDistinct
  have hRows : owners (reached.mapGroups fun row => if row.id = next.id then next else row) =
      (reached.rows.groups.map fun row => if row.id = next.id then next else row).map
        fun row => (row.id, row.owner) := rfl
  rw [hRows, List.map_map]
  refine List.map_congr_left fun row hRow => ?_
  by_cases hSame : row.id = next.id
  · have hRowGroup := List.inj_on_of_nodup_map hDistinct hRow hGroup (hSame.trans hId)
    simp [hRowGroup, hId, hOwner]
  · simp [hSame]

/-- An edit of a group is refused, or edits its members as it says. -/
theorem updateGroup_cases (hDistinct : ((owners world).map Prod.fst).Nodup) (groupId userId : Id)
    (info : ReqPutDeviceGroup) (now : Timestamp) :
    (∃ error after, updateGroup groupId userId info now world = some (after, .error error) ∧
      ¬∃ group, Edits world userId groupId info group) ∨
      ∃ group after, updateGroup groupId userId info now world = some (after, .ok ()) ∧
        Edits world userId groupId info group ∧ Edited world userId groupId info after := by
  cases hGroup : editable world groupId userId with
  | error error =>
      refine .inl ⟨error, world, ?_, ?_⟩
      · unfold updateGroup
        rw [get_bind, hGroup]
        rfl
      · rintro ⟨group, hEdits⟩
        cases hGroup.symm.trans hEdits.found
  | ok group =>
      obtain ⟨hMem, hOwner⟩ := editable_ok hGroup
      obtain ⟨hFound, hId⟩ := editable_found hGroup
      have hThere : (world.findGroup group.id).isSome := by rw [hId, hFound]; rfl
      rw [updateGroup_eq hGroup, hOwner]
      rcases linkDevices_cases hThere info.devices now with
        ⟨error, after, hLink, hNot⟩ | ⟨middle, hLink, hRelinked, hMembers, hDevices, hRoom⟩
      · exact .inl ⟨error, after, bind_error hLink, fun ⟨_, hEdits⟩ =>
          hNot ⟨hEdits.devices, hEdits.room⟩⟩
      · rw [bind_ok hLink]
        rcases unlinkDevices_cases middle group.id userId info.remove with
          ⟨error, hUnlink, hNot⟩ | ⟨reached, hUnlink, hUnlinked, hMembersReached, hRemove⟩
        · refine .inl ⟨error, middle, bind_error hUnlink, fun ⟨_, hEdits⟩ => hNot ?_⟩
          exact (hRelinked.authorized_iff userId _).mpr hEdits.remove
        · rw [bind_ok hUnlink]
          have hBoth := hRelinked.trans hUnlinked
          refine .inr ⟨group, _, rfl, ?_, ?_⟩
          · exact ⟨hGroup, hDevices, hRoom, (hRelinked.authorized_iff userId _).mp hRemove⟩
          · have hOwners : owners reached = owners world := by rw [owners, owners, hBoth.groups]
            have hReachedMem : group ∈ reached.rows.groups := by rw [hBoth.groups]; exact hMem
            refine ⟨?_, ?_, hBoth.devices, hBoth.group, hBoth.device, hBoth.dropped⟩
            · rw [← hOwners]
              exact owners_mapGroups (by rw [hOwners]; exact hDistinct) hReachedMem rfl rfl
            · rw [hMembers, hId] at hMembersReached
              exact hMembersReached

theorem keeps_checkDevices {inv : World → Prop} (userId : Id) (devices : List Id) :
    Keeps inv (checkDevices userId devices) := triple_checkDevices userId devices

/-- An edit gives back no number, wherever it fails. -/
theorem keeps_updateGroup (groupId userId : Id) (info : ReqPutDeviceGroup) (now : Timestamp) :
    Keeps (Advanced world) (updateGroup groupId userId info now) := by
  refine keeps_get fun state hState => keeps_bind (keeps_ofExcept _) fun group => ?_
  refine keeps_bind ?_ fun _ => keeps_bind ?_ fun _ => ?_
  · cases info.devices with
    | none => exact keeps_pure ()
    | some devices =>
        refine keeps_bind (keeps_checkDevices userId devices) fun _ => keeps_forEach fun id _ => ?_
        exact keeps_bind (keeps_link group.id userId id now) fun _ => keeps_pure ()
  · cases info.remove with
    | none => exact keeps_pure ()
    | some devices =>
        refine keeps_bind (keeps_checkDevices userId devices) fun _ => keeps_forEach fun id _ => ?_
        exact keeps_advanced rfl fun state =>
          ⟨dropped_setGroupCache state userId, le_refl _, le_refl _⟩
  · exact keeps_advanced rfl fun state => ⟨dropped_refl state, le_refl _, le_refl _⟩

/-- A group comes under the next number. -/
theorem change_addGroup {group : DeviceGroupModel}
    (hNumber : numbered world.sequences.group = .ok group.id) :
    Change world (world.addGroup group) (some (group.id, group.owner)) [] where
  owners := by
    have hOwners : owners (world.addGroup group) = owners world ++ [(group.id, group.owner)] :=
      List.map_append
    rw [hOwners]
    exact .refl _
  number := by
    intro pair hPair
    cases hPair
    exact ⟨numbered_ok hNumber, Nat.lt_succ_self _⟩
  members := by
    rw [List.append_nil]
    exact .refl _
  devices := fun row hRow => .inl ⟨row, hRow, rfl⟩
  entries := fun _ _ hItems => .inl hItems
  group := Nat.le_succ _
  device := le_refl _

/-- Something is taken away after a change that renewed no entry. -/
theorem Change.lessen {fresh : Option (Id × Id)} {added : List (Id × Id × Id)}
    (h : Change world middle fresh added) (hDropped : Dropped world middle)
    (hNext : Lessened middle after) : Change world after fresh added where
  owners := hNext.owners.trans h.owners
  number := fun pair hPair =>
    (h.number pair hPair).imp_right fun hLess => hLess.trans_le hNext.group
  members := hNext.members.trans h.members
  devices := by
    intro row hRow
    obtain ⟨between, hBetween, hId⟩ := hNext.devices row hRow
    rw [← hId]
    exact (h.devices between hBetween).imp_right fun hLess => hLess.trans_le hNext.device
  entries := by
    intro userId items hItems
    rcases (hDropped.trans hNext.dropped) userId with hGone | hSame
    · rw [hGone] at hItems
      cases hItems
    · exact .inl (hSame.symm.trans hItems)
  group := h.group.trans hNext.group
  device := h.device.trans hNext.device

/-- The entry of a user is read from the tables. -/
theorem Change.renew {fresh : Option (Id × Id)} {added : List (Id × Id × Id)}
    (h : Change world middle fresh added) (hDropped : Dropped world middle) (userId : Id) :
    Change world (middle.setGroupCache userId (some (readGroups middle userId))) fresh added where
  owners := h.owners
  number := h.number
  members := h.members
  devices := h.devices
  entries := by
    intro user items hItems
    by_cases hUser : user = userId
    · rw [hUser, setGroupCache_self, Option.some.injEq] at hItems
      rw [hUser]
      exact .inr hItems.symm
    · rw [setGroupCache_of_ne _ _ hUser] at hItems
      rcases hDropped user with hGone | hSame
      · rw [hGone] at hItems
        cases hItems
      · exact .inl (hSame.symm.trans hItems)
  group := h.group
  device := h.device

theorem change_refl (world : World) : Change world world none [] := (lessened_refl world).change

/-- A new group is refused, or it is there and the entry of the user dropped. -/
theorem create_cases (group : ReqDeviceGroup) (userId : Id) (default : Bool) (now : Timestamp)
    (world : World) :
    (∃ error, create group userId default now world = some (world, .error error)) ∨
      ∃ row : DeviceGroupModel, numbered world.sequences.group = .ok row.id ∧
        create group userId default now world =
          some ((world.addGroup row).setGroupCache userId none, .ok row) := by
  unfold create
  cases hNumber : numbered world.sequences.group with
  | error error => exact .inl ⟨error, bind_error (insertGroup_error hNumber)⟩
  | ok id => exact .inr ⟨_, rfl, (bind_ok (insertGroup_ok hNumber)).trans rfl⟩

/-- A group that is created changes the owners by itself alone. -/
theorem change_create {row : DeviceGroupModel}
    (hNumber : numbered world.sequences.group = .ok row.id) (userId : Id) :
    Change world ((world.addGroup row).setGroupCache userId none) (some (row.id, row.owner)) [] :=
  (change_addGroup hNumber).lessen (dropped_refl world) (lessened_setGroupCache _ userId)

/-- A default group that is found is new at most. -/
theorem FoundDefault.change {userId : Id} {default : DeviceGroupModel} {found : World}
    (h : FoundDefault world userId default found)
    (hDefault : defaultGroupId world userId = .ok default.id) :
    ∃ fresh, Change world found fresh [] := by
  rcases h with ⟨_, rfl⟩ | ⟨hMissing, _, rfl⟩
  · exact ⟨none, change_refl found⟩
  · refine ⟨_, change_addGroup ?_⟩
    rw [← hDefault, defaultGroupId, hMissing.1, hMissing.2]

/-- A link that is raised is one of the same device and group. -/
theorem raiseLink_member (order : DeviceMapGroupModel) (devOrder : Int32)
    (link : DeviceMapGroupModel) :
    (DeviceOrderService.raiseLink order devOrder link).member = link.member := by
  unfold DeviceOrderService.raiseLink
  split_ifs <;> rfl

/-- A device that is raised stays a member. -/
theorem keeps_raise (order : DeviceMapGroupModel) (devOrder : Int32) :
    Keeps (Lessened world) (DeviceOrderService.raise order devOrder) := by
  have hMembers : ∀ state : World, members { state with rows := { state.rows with
      links := state.rows.links.map (DeviceOrderService.raiseLink order devOrder) } } =
        members state := by
    intro state
    rw [members, List.map_map]
    exact List.map_congr_left fun link _ => raiseLink_member order devOrder link
  unfold DeviceOrderService.raise
  split_ifs
  · refine keeps_modify fun state hState => hState.trans ?_
    exact ⟨.refl _, hMembers state ▸ .refl _, fun row hRow => ⟨row, hRow, rfl⟩,
      dropped_refl state, le_refl _, le_refl _⟩
  · exact keeps_pure ()

/-! What each request does. -/

/-- The list of devices inserts at most the default group. -/
theorem getAllDevice_change (userId : Id) (now : Timestamp) (world : World) :
    ∃ fresh, Change world (requestStep world (.getAllDevice userId now)) fresh [] := by
  rw [requestStep]
  unfold selectDefaultGroup createGroupDefault
  cases hCached : DeviceGroupCache.loadDefaultByUserId world userId with
  | some item =>
      rw [after, get_bind, hCached]
      exact ⟨none, change_refl world⟩
  | none =>
      cases hRow : defaultRow world userId with
      | some group =>
          rw [after, get_bind, hCached, hRow]
          exact ⟨none, change_refl world⟩
      | none =>
          rw [after, get_bind, hCached, hRow]
          dsimp only
          rcases create_cases ⟨"All", "All"⟩ userId true now world with
            ⟨error, hCreate⟩ | ⟨row, hNumber, hCreate⟩
          · rw [bind_error hCreate]
            exact ⟨none, change_refl world⟩
          · rw [bind_ok hCreate]
            exact ⟨_,
              (change_create hNumber userId).renew (dropped_setGroupCache world userId) userId⟩

/-- A group that is read changes nothing but the entry of its user. -/
theorem getGroup_change (userId groupId : Id) (world : World) :
    Change world (requestStep world (.getGroup userId groupId)) none [] := by
  rw [requestStep]
  unfold selectByGroupId
  cases hItem : (DeviceGroupCache.loadByUserId world userId).bind fun items =>
      items.find? fun item => item.group.id = groupId with
  | some item =>
      rw [after, get_bind, hItem]
      exact change_refl world
  | none =>
      have hRenewed := (change_refl world).renew (dropped_refl world) userId
      rw [after, get_bind, hItem]
      dsimp only
      cases hFind : findItem (readGroups world userId) groupId with
      | error error => exact hRenewed
      | ok item => exact hRenewed

/-- Pinning a device in the default group inserts at most that group. -/
theorem deviceDefaultGroup_change (userId deviceId : Id) (now : Timestamp) {world after : World}
    {result : Except ApiError Unit}
    (hRun : DeviceOrderService.deviceDefaultGroup userId deviceId now world =
      some (after, result)) :
    ∃ fresh, Change world after fresh [] := by
  unfold DeviceOrderService.deviceDefaultGroup at hRun
  rcases queryUserDefaultGroup_cases world userId now with
    ⟨error, _, hQuery⟩ | ⟨group, found, hDefault, hQuery, hFound⟩
  · cases (bind_error hQuery).symm.trans hRun
    exact ⟨none, change_refl world⟩
  · obtain ⟨fresh, hChange⟩ := hFound.change hDefault
    have hRest : Keeps (Lessened found) (forEach (fun order => DeviceOrderService.raise order
        (DeviceOrderService.deviceGroupMaxOrder found userId group.id))
          (DeviceOrderService.findOrder found userId deviceId group.id).toList) :=
      keeps_forEach fun order _ => keeps_raise order _
    refine ⟨fresh, hChange.lessen (dropped_of_eq hFound.cache) ?_⟩
    exact hRest.of_run (lessened_refl found) ((bind_ok hQuery).symm.trans hRun)

/-- Pinning a device adds no member. -/
theorem putTop_change (userId deviceId : Id) (groupId : Option Id) (now : Timestamp)
    (world : World) :
    ∃ fresh, Change world (requestStep world (.putTop userId deviceId groupId now)) fresh [] := by
  cases groupId with
  | none =>
      change ∃ fresh, Change world
        ((DeviceOrderService.deviceDefaultGroup userId deviceId now).after world) fresh []
      rcases hRun : DeviceOrderService.deviceDefaultGroup userId deviceId now world with
        _ | ⟨final, result⟩
      · rw [after_none hRun]
        exact ⟨none, change_refl world⟩
      · rw [after_eq hRun]
        exact deviceDefaultGroup_change userId deviceId now hRun
  | some groupId =>
      have hKeeps : Keeps (Lessened world)
          (DeviceOrderService.deviceGroup userId deviceId groupId) := by
        refine keeps_get fun state hState => ?_
        cases DeviceOrderService.findOrder state userId deviceId groupId with
        | none => exact keeps_throw _
        | some order => exact keeps_raise order _
      exact ⟨none, (hKeeps.after (lessened_refl world)).change⟩

/-- A new user brings his default group. -/
theorem signup_change (userLogin : String) (now : Timestamp) (world : World) :
    ∃ fresh, Change world (requestStep world (.signup userLogin now)) fresh [] := by
  have hLess : ∀ state : World, state.cache = world.cache →
      state.sequences.group = world.sequences.group →
      state.sequences.device = world.sequences.device →
      ∃ fresh, Change world (rollback world state) fresh [] := by
    intro state hCache hGroup hDevice
    refine ⟨none, Lessened.change ⟨.refl _, .refl _, fun row hRow => ⟨row, hRow, rfl⟩, ?_,
      hGroup.ge, hDevice.ge⟩⟩
    exact dropped_of_eq hCache
  rw [requestStep]
  unfold UserService.insertUser createGroupDefault
  cases hNumber : numbered world.sequences.user with
  | error error =>
      rw [after_transaction_error (bind_error (draw_error hNumber))]
      exact hLess world rfl rfl rfl
  | ok id =>
      cases hTaken : world.rows.users.any fun row => row.id = id || row.userLogin = userLogin with
      | true =>
          rw [after_transaction_error ((bind_ok (draw_ok hNumber)).trans
            (bind_error (insertRow_error hTaken)))]
          exact hLess _ rfl rfl rfl
      | false =>
          let start : World :=
            { world with
              rows := { world.rows with users := world.rows.users ++ [⟨id, userLogin⟩] }
              sequences := { world.sequences with user := world.sequences.user + 1 } }
          have hInsert : insertRow
              (fun world =>
                world.rows.users.any fun row => row.id = id || row.userLogin = userLogin)
              (fun rows => { rows with users := rows.users ++ [⟨id, userLogin⟩] })
              { world with
                sequences := { world.sequences with user := world.sequences.user + 1 } } =
                some (start, .ok ()) := insertRow_ok hTaken
          rcases create_cases ⟨"All", "All"⟩ id true now start with
            ⟨error, hCreate⟩ | ⟨row, hRow, hCreate⟩
          · rw [after_transaction_error ((bind_ok (draw_ok hNumber)).trans
              ((bind_ok hInsert).trans (bind_error hCreate)))]
            exact hLess start rfl rfl rfl
          · rw [after_transaction_ok ((bind_ok (draw_ok hNumber)).trans
              ((bind_ok hInsert).trans (bind_ok hCreate)))]
            have hChange := change_create hRow id
            exact ⟨_, hChange.owners, hChange.number, hChange.members, hChange.devices,
              hChange.entries, hChange.group, hChange.device⟩

/-- The requests that may add members to a group. -/
def Request.adds : Request → Bool
  | .postDevice .. | .putGroup .. => true
  | _ => false

/-- A request that adds no member only takes members. -/
theorem quiet_change (world : World) {request : Request} (hQuiet : request.adds = false) :
    ∃ fresh, Change world (requestStep world request) fresh [] := by
  have hRefl := lessened_refl world
  cases request with
  | postDevice env userId req => cases hQuiet
  | putGroup userId groupId req now => cases hQuiet
  | deleteDevice userId deviceId =>
      exact ⟨none, ((keeps_lessened_transaction (keeps_delete deviceId userId)).after hRefl).change⟩
  | getAllDevice userId now => exact getAllDevice_change userId now world
  | putTop userId deviceId groupId now => exact putTop_change userId deviceId groupId now world
  | postGroup userId group now =>
      rcases create_cases group userId false now world with
        ⟨error, hCreate⟩ | ⟨row, hNumber, hCreate⟩
      · exact ⟨none, by rw [requestStep, createGroup, after_eq hCreate]; exact hRefl.change⟩
      · rw [requestStep, createGroup, after_eq hCreate]
        exact ⟨_, change_create hNumber userId⟩
  | getGroup userId groupId => exact ⟨none, getGroup_change userId groupId world⟩
  | deleteGroup userId groupId =>
      exact ⟨none,
        ((keeps_lessened_transaction (keeps_deleteOne userId groupId)).after hRefl).change⟩
  | deleteGroupDevice userId groupId deviceId =>
      exact ⟨none, ((keeps_unlink deviceId userId groupId).after hRefl).change⟩
  | signup userLogin now => exact signup_change userLogin now world
  | deleteUser userId => exact ⟨none, ((keeps_deleteLocalUser userId).after hRefl).change⟩

/-- An edit is taken back as a whole, or its members are those of the request. -/
theorem putGroup_step (hDistinct : ((owners world).map Prod.fst).Nodup) (userId groupId : Id)
    (info : ReqPutDeviceGroup) (now : Timestamp) :
    (Lessened world (requestStep world (.putGroup userId groupId info now)) ∧
        (requestStep world (.putGroup userId groupId info now)).rows = world.rows ∧
          ¬∃ group, Edits world userId groupId info group) ∨
      ∃ group, Edits world userId groupId info group ∧
        Edited world userId groupId info
          (requestStep world (.putGroup userId groupId info now)) := by
  rw [requestStep]
  rcases updateGroup_cases hDistinct groupId userId info now with
    ⟨error, reached, hRun, hNot⟩ | ⟨group, after, hRun, hEdits, hEdited⟩
  · have hTriple : Triple (fun state => state = world) (updateGroup groupId userId info now)
        (fun _ => Advanced world) (fun _ => Advanced world) :=
      triple_weaken (keeps_updateGroup groupId userId info now)
        (fun state hState => hState ▸ advanced_refl state) (fun _ _ h => h) fun _ _ h => h
    have hFailed : transaction rollback (updateGroup groupId userId info now) world =
        some (rollback world reached, .error error) := transaction_error.mpr ⟨reached, hRun, rfl⟩
    rw [after_eq hFailed]
    exact .inl ⟨lessened_of_failed hTriple hFailed, rfl, hNot⟩
  · rw [after_transaction_ok hRun]
    exact .inr ⟨group, hEdits, hEdited⟩

/-- The members that a change of a group adds. -/
def newMembers (userId groupId : Id) (info : ReqPutDeviceGroup) : List (Id × Id × Id) :=
  (info.devices.getD []).map fun id => (userId, id, groupId)

/-- The members that an edit adds are those of the request. -/
theorem Edited.change {userId groupId : Id} {info : ReqPutDeviceGroup}
    (h : Edited world userId groupId info after) :
    Change world after none (newMembers userId groupId info) := by
  refine ⟨?_, nofun, h.members ▸ List.filter_sublist, ?_, ?_, h.group.ge, h.device.ge⟩
  · rw [h.owners, Option.toList_none, List.append_nil]
  · rw [h.devices]
    exact fun row hRow => .inl ⟨row, hRow, rfl⟩
  · intro user items hItems
    rcases h.dropped user with hGone | hSame
    · rw [hGone] at hItems
      cases hItems
    · exact .inl (hSame.symm.trans hItems)

end
end SnapEmu.Server
