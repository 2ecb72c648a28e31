import SnapEmu.Server.AccountDeletion
import SnapEmu.Server.Ownership

/-! Links whose group or device is gone: which deletions leave them, over all
runs of requests. -/
namespace SnapEmu.Server

open Device Management Semantics User Action DeviceService DeviceGroupService

def HasGroup (world : World) (id : Id) : Prop := ∃ group ∈ world.rows.groups, group.id = id

def HasDevice (world : World) (id : Id) : Prop := ∃ device ∈ world.rows.devices, device.id = id

/-- Each link is one of a device to a group, and both are in the tables. -/
def Attached (world : World) : Prop :=
  ∀ link ∈ world.rows.links, HasGroup world link.groupId ∧ HasDevice world link.deviceId

/-- A deletion takes no group and no device that a link which stays refers to. -/
def SparesLinked (world : World) : Request → Prop
  | .deleteGroup userId groupId => (∃ group, deletable world groupId userId = .ok group) →
      ∀ link ∈ world.rows.links, link.groupId ≠ groupId
  | .deleteUser userId => ∀ link ∈ world.rows.links, link.userId ≠ userId →
      (∀ group ∈ world.rows.groups, group.id = link.groupId → group.owner ≠ userId) ∧
        link.deviceId ∉ ids (owned world userId)
  | _ => True

/-- The default group of an entry is in the table. -/
def DefaultsStored (world : World) : Prop :=
  ∀ userId items, world.cache.groups userId = some items → ∀ item ∈ items,
    item.group.defaultGroup = true →
      ∃ group ∈ world.rows.groups, group.id = item.group.id ∧ group.defaultGroup = true

/-- No group and no device goes, and none becomes or ceases to be a default group. -/
structure Retained (world after : World) : Prop where
  groups : ∀ group ∈ world.rows.groups, ∃ next ∈ after.rows.groups,
    next.id = group.id ∧ next.defaultGroup = group.defaultGroup
  devices : ∀ device ∈ world.rows.devices, HasDevice after device.id

section

variable {world middle after : World}

theorem retained_refl (world : World) : Retained world world :=
  ⟨fun group hGroup => ⟨group, hGroup, rfl, rfl⟩, fun device hDevice => ⟨device, hDevice, rfl⟩⟩

/-- What two steps leave, they leave together. -/
theorem Retained.trans (h : Retained world middle) (hNext : Retained middle after) :
    Retained world after where
  groups := by
    intro group hGroup
    obtain ⟨between, hBetween, hId, hDefault⟩ := h.groups group hGroup
    obtain ⟨next, hNextMem, hNextId, hNextDefault⟩ := hNext.groups between hBetween
    exact ⟨next, hNextMem, hNextId.trans hId, hNextDefault.trans hDefault⟩
  devices := by
    intro device hDevice
    obtain ⟨between, hBetween, hId⟩ := h.devices device hDevice
    rw [← hId]
    exact hNext.devices between hBetween

/-- Rows that are still there keep groups and devices. -/
theorem retained_of_subset (hGroups : world.rows.groups ⊆ after.rows.groups)
    (hDevices : world.rows.devices ⊆ after.rows.devices) : Retained world after :=
  ⟨fun group hGroup => ⟨group, hGroups hGroup, rfl, rfl⟩,
    fun device hDevice => ⟨device, hDevices hDevice, rfl⟩⟩

theorem retained_of_rows (hRows : after.rows = world.rows) : Retained world after :=
  retained_of_subset (by rw [hRows]; exact List.Subset.refl _)
    (by rw [hRows]; exact List.Subset.refl _)

/-- A group that is retained is there under its number. -/
theorem Retained.hasGroup (h : Retained world after) {id : Id} (hGroup : HasGroup world id) :
    HasGroup after id := by
  obtain ⟨group, hMem, rfl⟩ := hGroup
  obtain ⟨next, hNext, hId, -⟩ := h.groups group hMem
  exact ⟨next, hNext, hId⟩

/-- A device that is retained is there under its number. -/
theorem Retained.hasDevice (h : Retained world after) {id : Id} (hDevice : HasDevice world id) :
    HasDevice after id := by
  obtain ⟨device, hMem, rfl⟩ := hDevice
  exact h.devices device hMem

/-- Links are attached by their members alone. -/
theorem attached_iff :
    Attached world ↔ ∀ member ∈ members world, HasGroup world member.2.2 ∧
      HasDevice world member.2.1 := by
  constructor
  · intro h member hMember
    obtain ⟨link, hLink, rfl⟩ := List.mem_map.mp hMember
    exact h link hLink
  · exact fun h link hLink => h link.member (List.mem_map_of_mem hLink)

/-- Only the rows decide whether links are attached. -/
theorem Attached.of_rows (h : Attached world) (hRows : after.rows = world.rows) :
    Attached after := by
  unfold Attached HasGroup HasDevice
  rw [hRows]
  exact h

/-- Links stay attached if those that are added are. -/
theorem Attached.retain {added : List (Id × Id × Id)} (h : Attached world)
    (hRetained : Retained world after) (hMembers : members after ⊆ members world ++ added)
    (hAdded : ∀ member ∈ added, HasGroup after member.2.2 ∧ HasDevice after member.2.1) :
    Attached after := by
  rw [attached_iff] at h ⊢
  intro member hMember
  rcases List.mem_append.mp (hMembers hMember) with hOld | hNew
  · exact ⟨hRetained.hasGroup (h member hOld).1, hRetained.hasDevice (h member hOld).2⟩
  · exact hAdded member hNew

/-- An entry is the old one, or it has been read from the table. -/
theorem DefaultsStored.retain (h : DefaultsStored world) (hRetained : Retained world after)
    (hEntries : ∀ userId items, after.cache.groups userId = some items →
      world.cache.groups userId = some items ∨ items = readGroups after userId) :
    DefaultsStored after := by
  intro userId items hItems item hItem hDefault
  rcases hEntries userId items hItems with hOld | rfl
  · obtain ⟨group, hGroup, hId, hKind⟩ := h userId items hOld item hItem hDefault
    obtain ⟨next, hNext, hNextId, hNextKind⟩ := hRetained.groups group hGroup
    exact ⟨next, hNext, hNextId.trans hId, hNextKind.trans hKind⟩
  · obtain ⟨group, hGroup, rfl⟩ := List.mem_map.mp hItem
    exact ⟨group, (List.mem_filter.mp hGroup).1, rfl, hDefault⟩

/-! The requests that take no group and no device. -/

/-- A step that retains from every state keeps what is retained. -/
theorem keeps_retained {action : Service Unit} {change : World → World}
    (hAction : action = Action.modify change) (h : ∀ state, Retained state (change state)) :
    Keeps (Retained world) action := by
  subst hAction
  exact keeps_modify fun state hState => hState.trans (h state)

theorem keeps_retained_drop (userId : Id) :
    Keeps (Retained world) (DeviceGroupCache.deleteByUserId userId) :=
  keeps_retained rfl fun _ => retained_of_rows rfl

/-- A new group takes none. -/
theorem keeps_retained_insertGroup (name description : String) (default : Bool) (owner : Id)
    (now : Timestamp) :
    Keeps (Retained world) (insertGroup name description default owner now) := by
  refine keeps_get fun state hState => keeps_bind (keeps_ofExcept _) fun id => ?_
  refine keeps_bind (keeps_retained rfl fun state => ?_) fun _ => keeps_pure _
  exact retained_of_subset (List.subset_append_left _ _) (List.Subset.refl _)

/-- A group is created beside the others. -/
theorem keeps_retained_create (group : ReqDeviceGroup) (userId : Id) (default : Bool)
    (now : Timestamp) : Keeps (Retained world) (create group userId default now) :=
  keeps_bind (keeps_retained_insertGroup _ _ _ _ _) fun _ =>
    keeps_bind (keeps_retained_drop userId) fun _ => keeps_pure _

/-- The query of the default group takes no row. -/
theorem keeps_retained_queryUserDefaultGroup (userId : Id) (now : Timestamp) :
    Keeps (Retained world) (queryUserDefaultGroup userId now) := by
  refine keeps_get fun state hState => ?_
  cases DeviceGroupCache.loadDefaultByUserId state userId with
  | some item => exact keeps_pure _
  | none =>
      cases defaultRow state userId with
      | some group => exact keeps_pure _
      | none => exact keeps_retained_insertGroup _ _ _ _ _

/-- The default group is selected without taking a row. -/
theorem keeps_retained_selectDefaultGroup (userId : Id) (now : Timestamp) :
    Keeps (Retained world) (selectDefaultGroup userId now) := by
  refine keeps_get fun state hState => ?_
  cases DeviceGroupCache.loadDefaultByUserId state userId with
  | some item => exact keeps_pure _
  | none =>
      cases defaultRow state userId with
      | some group => exact keeps_pure _
      | none =>
          refine keeps_bind (keeps_retained_create _ _ _ _) fun group => ?_
          refine keeps_get fun state hState => keeps_bind ?_ fun _ => keeps_pure _
          exact keeps_retained rfl fun _ => retained_of_rows rfl

/-- A group is selected without taking a row. -/
theorem keeps_retained_selectByGroupId (userId groupId : Id) :
    Keeps (Retained world) (selectByGroupId userId groupId) := by
  refine keeps_get fun state hState => ?_
  cases (DeviceGroupCache.loadByUserId state userId).bind fun items =>
      items.find? fun item => item.group.id = groupId with
  | some item => exact keeps_pure _
  | none =>
      refine keeps_bind ?_ fun _ => keeps_ofExcept _
      exact keeps_retained rfl fun _ => retained_of_rows rfl

/-- The order of the devices of a group takes no group and no device. -/
theorem keeps_retained_raise (order : DeviceMapGroupModel) (devOrder : Int32) :
    Keeps (Retained world) (DeviceOrderService.raise order devOrder) := by
  unfold DeviceOrderService.raise
  split_ifs
  · exact keeps_retained rfl fun _ =>
      retained_of_subset (List.Subset.refl _) (List.Subset.refl _)
  · exact keeps_pure ()

/-- Pinning takes no group and no device. -/
theorem keeps_retained_deviceTop (userId deviceId : Id) (groupId : Option Id) (now : Timestamp) :
    Keeps (Retained world) (DeviceOrderService.deviceTop userId deviceId groupId now) := by
  cases groupId with
  | none =>
      refine keeps_bind (keeps_retained_queryUserDefaultGroup userId now) fun group => ?_
      refine keeps_get fun state hState => keeps_forEach fun order _ => ?_
      exact keeps_retained_raise order _
  | some groupId =>
      refine keeps_get fun state hState => ?_
      dsimp only
      cases DeviceOrderService.findOrder state userId deviceId groupId with
      | none => exact keeps_throw _
      | some order => exact keeps_retained_raise order _

/-- A transaction that fails gives back the rows. -/
theorem keeps_retained_transaction {α : Type} {action : Service α}
    (h : Keeps (Retained world) action) : Keeps (Retained world) (transaction rollback action) :=
  keeps_transaction h fun _ _ hState _ => ⟨hState.groups, hState.devices⟩

/-- A new user takes no row of others. -/
theorem keeps_retained_insertUser (userLogin : String) (now : Timestamp) :
    Keeps (Retained world) (UserService.insertUser userLogin now) := by
  refine keeps_retained_transaction (keeps_bind ?_ fun id => keeps_bind ?_ fun _ => ?_)
  · exact keeps_draw fun state hState => hState.trans (retained_of_rows rfl)
  · exact keeps_insertRow fun state hState =>
      hState.trans (retained_of_subset (List.Subset.refl _) (List.Subset.refl _))
  · exact keeps_bind (keeps_retained_create _ _ _ _) fun _ => keeps_pure _

/-- An edit of a group takes no group and no device. -/
theorem updateGroup_retained (hDistinct : ((owners world).map Prod.fst).Nodup)
    {groupId userId : Id} {info : ReqPutDeviceGroup} {now : Timestamp}
    (h : updateGroup groupId userId info now world = some (after, .ok ())) :
    Retained world after := by
  cases hGroup : editable world groupId userId with
  | error error =>
      unfold updateGroup at h
      rw [get_bind, hGroup] at h
      cases h
  | ok group =>
      obtain ⟨hMem, hOwner⟩ := editable_ok hGroup
      obtain ⟨hFound, hId⟩ := editable_found hGroup
      rw [updateGroup_eq hGroup] at h
      obtain ⟨linked, _, hLink, hRest⟩ := bind_eq_ok.mp h
      obtain ⟨reached, _, hUnlink, hRow⟩ := bind_eq_ok.mp hRest
      have hThere : (world.findGroup group.id).isSome := by rw [hId, hFound]; rfl
      have hLinked : Relinked world linked := by
        rw [hOwner] at hLink
        rcases linkDevices_cases hThere info.devices now with
          ⟨error, _, hRun, -⟩ | ⟨_, hRun, hRelinked, -⟩
        · cases hRun.symm.trans hLink
        · cases hRun.symm.trans hLink
          exact hRelinked
      have hReached : Relinked world reached := by
        rcases unlinkDevices_cases linked group.id group.owner info.remove with
          ⟨error, hRun, -⟩ | ⟨_, hRun, hRelinked, -⟩
        · cases hRun.symm.trans hUnlink
        · cases hRun.symm.trans hUnlink
          exact hLinked.trans hRelinked
      cases hRow
      have hGroups : (reached.mapGroups fun row =>
          if row.id = (edited group info).id then edited group info else row).rows.groups =
            world.rows.groups.map fun row =>
              if row.id = (edited group info).id then edited group info else row := by
        rw [World.mapGroups, hReached.groups]
      refine ⟨fun row hRow => ?_, fun device hDevice => ⟨device, ?_, rfl⟩⟩
      · rw [hGroups]
        refine ⟨_, List.mem_map_of_mem hRow, ?_⟩
        rw [owners, List.map_map] at hDistinct
        by_cases hSame : row.id = (edited group info).id
        · obtain rfl := List.inj_on_of_nodup_map hDistinct hRow hMem hSame
          rw [if_pos hSame]
          exact ⟨rfl, rfl⟩
        · rw [if_neg hSame]
          exact ⟨rfl, rfl⟩
      · exact hReached.devices ▸ hDevice

/-- A creation takes no row, and its device is there afterwards. -/
theorem Registered.retained {userId id : Id} {req : DeviceCreate} {created : World}
    (h : Registered userId world req id created)
    (hFinished : Finished created userId id req.group after) :
    Retained world after ∧ HasDevice after id := by
  obtain ⟨default, -, hDefault⟩ := hFinished.default
  have hGroups : world.rows.groups ⊆ after.rows.groups := by
    rw [← h.groups]
    rcases hDefault with ⟨-, hSame, -⟩ | ⟨-, -, hAdded, -⟩
    · rw [hSame]
      exact List.Subset.refl _
    · rw [hAdded]
      exact List.subset_append_left _ _
  have hDevice := h.device
  cases hRenews : renews req with
  | some deviceId =>
      rw [hRenews] at hDevice
      obtain ⟨-, -, hDevices, hFound⟩ := hDevice
      have hAfter : after.rows.devices = world.rows.devices := hFinished.devices.trans hDevices
      obtain ⟨row, hRow⟩ := Option.isSome_iff_exists.mp hFound
      refine ⟨retained_of_subset hGroups ?_, row, ?_, by simpa using List.find?_some hRow⟩
      · rw [hAfter]
        exact List.Subset.refl _
      · rw [hAfter]
        exact List.mem_of_find?_eq_some hRow
  | none =>
      rw [hRenews] at hDevice
      obtain ⟨-, -, row, rfl, hDevices⟩ := hDevice
      refine ⟨retained_of_subset hGroups ?_, row, ?_, rfl⟩
      · rw [hFinished.devices, hDevices]
        exact List.subset_append_left _ _
      · rw [hFinished.devices, hDevices]
        exact List.mem_append_right _ (List.mem_singleton_self row)

/-- The default group of a creation is in the table afterwards. -/
theorem default_stored (hStored : DefaultsStored world) {userId id : Id} {req : DeviceCreate}
    {created : World} (h : Registered userId world req id created)
    (hFinished : Finished created userId id req.group after) {default : Id}
    (hDefault : defaultGroupId world userId = .ok default) : HasGroup after default := by
  have hRetained := (h.retained hFinished).1
  unfold defaultGroupId at hDefault
  cases hCached : DeviceGroupCache.loadDefaultByUserId world userId with
  | some item =>
      rw [hCached] at hDefault
      cases hDefault
      obtain ⟨items, hItems, hItem⟩ := Option.bind_eq_some_iff.mp hCached
      have hKind : item.group.defaultGroup = true := by simpa using List.find?_some hItem
      obtain ⟨group, hGroup, hId, -⟩ := hStored userId items hItems item
        (List.mem_of_find?_eq_some hItem) hKind
      exact hRetained.hasGroup ⟨group, hGroup, hId⟩
  | none =>
      cases hRow : defaultRow world userId with
      | some group =>
          rw [hCached, hRow] at hDefault
          cases hDefault
          exact hRetained.hasGroup ⟨group, List.mem_of_find?_eq_some hRow, rfl⟩
      | none =>
          obtain ⟨group, hGroup, hAdded⟩ := hFinished.default
          rw [h.sameDefault, defaultGroupId, hCached, hRow] at hGroup
          rw [hCached, hRow] at hDefault
          obtain rfl : group.id = default := Except.ok.inj (hGroup.symm.trans hDefault)
          rcases hAdded with ⟨hThere, -⟩ | ⟨-, -, hGroups, -⟩
          · exact absurd ((h.sameMissing userId).mpr ⟨hCached, hRow⟩) hThere
          · refine ⟨group, ?_, rfl⟩
            rw [hGroups]
            exact List.mem_append_right _ (List.mem_singleton_self group)

/-- A creation that succeeds attaches its links to groups and a device that are there.
-/
theorem created_attached (hAttached : Attached world) (hStored : DefaultsStored world)
    {env : Environment} {userId id : Id} {req : DeviceCreate} {created : World}
    (h : Registered userId world req id created)
    (hFinished : Finished created userId id req.group after)
    (hFinishes : Finishes env userId world req.group) : Attached after := by
  obtain ⟨hRetained, hDevice⟩ := h.retained hFinished
  obtain ⟨default, fresh, hCreated⟩ := h.created hFinished
  refine hAttached.retain hRetained hCreated.change.members.subset fun member hMember => ?_
  obtain ⟨group, hGroup, rfl⟩ := List.mem_map.mp hMember
  refine ⟨?_, hDevice⟩
  rcases List.mem_cons.mp hGroup with rfl | hListed
  · exact default_stored hStored h hFinished hCreated.found
  · rcases hFinishes.known hListed with hThere | ⟨-, hSame⟩
    · obtain ⟨row, hRow⟩ := Option.isSome_iff_exists.mp hThere
      exact hRetained.hasGroup
        ⟨row, List.mem_of_find?_eq_some hRow, by simpa using List.find?_some hRow⟩
    · exact default_stored hStored h hFinished hSame

/-- The requests that take groups or devices. -/
def Request.takes : Request → Bool
  | .deleteDevice .. | .deleteGroup .. | .deleteUser .. => true
  | _ => false

/-- A creation takes no row, whether it fails or not. -/
theorem postDevice_retained (env : Environment) (userId : Id) (req : DeviceCreate)
    (world : World) : Retained world (requestStep world (.postDevice env userId req)) := by
  rw [requestStep]
  rcases postDevice_cases env userId req world with ⟨hNone, -⟩ | ⟨error, after, hRun, hRows, -⟩ |
    ⟨error, after, commands, hRun, hRows, -⟩ |
      ⟨id, created, after, hRun, hRegistered, hFinished, -⟩
  · rw [after_none hNone]
    exact retained_refl world
  · rw [after_eq hRun]
    exact retained_of_rows hRows
  · rw [after_eq hRun]
    exact retained_of_rows hRows
  · rw [after_eq hRun]
    exact (hRegistered.retained hFinished).1

/-- An edit takes no row, whether it fails or not. -/
theorem putGroup_retained (hDistinct : ((owners world).map Prod.fst).Nodup) (userId groupId : Id)
    (info : ReqPutDeviceGroup) (now : Timestamp) :
    Retained world (requestStep world (.putGroup userId groupId info now)) := by
  rw [requestStep]
  rcases hRun : updateGroup groupId userId info now world with _ | ⟨reached, error | _⟩
  · rw [after, transaction, hRun]
    exact retained_refl world
  · rw [after_transaction_error hRun]
    exact retained_of_rows rfl
  · rw [after_transaction_ok hRun]
    exact updateGroup_retained hDistinct hRun

/-- Only deletions take groups and devices. -/
theorem retained_step (h : Sound world) {request : Request} (hTakes : request.takes = false) :
    Retained world (requestStep world request) := by
  have hRefl := retained_refl world
  cases request with
  | postDevice env userId req => exact postDevice_retained env userId req world
  | getAllDevice userId now =>
      exact (keeps_retained_selectDefaultGroup userId now).after hRefl
  | putTop userId deviceId groupId now =>
      exact (keeps_retained_deviceTop userId deviceId groupId now).after hRefl
  | postGroup userId group now => exact (keeps_retained_create group userId false now).after hRefl
  | getGroup userId groupId => exact (keeps_retained_selectByGroupId userId groupId).after hRefl
  | putGroup userId groupId info now => exact putGroup_retained h.distinct userId groupId info now
  | deleteGroupDevice userId groupId deviceId =>
      exact retained_of_subset (List.Subset.refl _) (List.Subset.refl _)
  | signup userLogin now => exact (keeps_retained_insertUser userLogin now).after hRefl
  | deleteDevice => cases hTakes
  | deleteGroup => cases hTakes
  | deleteUser => cases hTakes

/-- A request that takes no group and no device leaves links attached. -/
theorem attached_retained_step (h : Sound world) (hAttached : Attached world)
    (hStored : DefaultsStored world) {request : Request} (hTakes : request.takes = false) :
    Attached (requestStep world request) := by
  have hRetained := retained_step h hTakes
  cases hAdds : request.adds with
  | false =>
      obtain ⟨fresh, hChange⟩ := quiet_change world hAdds
      exact hAttached.retain hRetained hChange.members.subset fun _ hMember =>
        absurd hMember List.not_mem_nil
  | true =>
      cases request with
      | postDevice env userId req =>
          rw [requestStep]
          rcases postDevice_cases env userId req world with ⟨hNone, -⟩ |
            ⟨error, after, hRun, hRows, -⟩ | ⟨error, after, commands, hRun, hRows, -⟩ |
              ⟨id, created, after, hRun, hRegistered, hFinished, hSucceeds⟩
          · rw [after_none hNone]
            exact hAttached
          · rw [after_eq hRun]
            exact hAttached.of_rows hRows
          · rw [after_eq hRun]
            exact hAttached.of_rows hRows
          · rw [after_eq hRun]
            exact created_attached hAttached hStored hRegistered hFinished hSucceeds.finishes
      | putGroup userId groupId info now =>
          rcases putGroup_step h.distinct userId groupId info now with
            ⟨hLess, -, -⟩ | ⟨group, hEdits, hEdited⟩
          · exact hAttached.retain hRetained hLess.change.members.subset fun _ hMember =>
              absurd hMember List.not_mem_nil
          · refine hAttached.retain hRetained hEdited.change.members.subset fun member hMember => ?_
            obtain ⟨id, hId, rfl⟩ := List.mem_map.mp hMember
            obtain ⟨found, hFound, hSame⟩ := hEdits.devices id hId
            obtain ⟨hMem, -⟩ := editable_ok hEdits.found
            obtain ⟨-, hGroup⟩ := editable_found hEdits.found
            exact ⟨hRetained.hasGroup ⟨group, hMem, hGroup⟩,
              hRetained.hasDevice ⟨found.device, (mem_queryAllWithAuth hFound).1, hSame⟩⟩
      | _ => cases hAdds

/-! The deletions. -/

/-- The state a deletion of a group leaves. -/
theorem deleteGroup_cases (userId groupId : Id) (world : World) :
    requestStep world (.deleteGroup userId groupId) = world ∧
        (¬∃ group, deletable world groupId userId = .ok group) ∨
      ∃ group ∈ world.rows.groups, group.id = groupId ∧ group.defaultGroup = false ∧
        deletable world groupId userId = .ok group ∧
          requestStep world (.deleteGroup userId groupId) =
            world.filterGroups fun row => row.id ≠ groupId := by
  rw [requestStep]
  unfold deleteOne
  cases hGroup : deletable world groupId userId with
  | error error =>
      refine .inl ⟨?_, by simp⟩
      rw [after, transaction, get_bind, hGroup]
      rfl
  | ok group =>
      obtain ⟨hMem, -⟩ := deletable_ok hGroup
      have hFacts : group.id = groupId ∧ group.defaultGroup = false := by
        unfold deletable at hGroup
        cases hFound : world.findGroup groupId with
        | none =>
            rw [hFound] at hGroup
            cases hGroup
        | some found =>
            simp only [hFound] at hGroup
            split_ifs at hGroup with hOwner hDefault
            cases hGroup
            exact ⟨by simpa using List.find?_some hFound, Bool.not_eq_true _ ▸ hDefault⟩
      refine .inr ⟨group, hMem, hFacts.1, hFacts.2, rfl, ?_⟩
      rw [after, transaction, get_bind, hGroup, ← hFacts.1]
      rfl

/-- After a group is deleted links are attached exactly if it had none. -/
theorem deleteGroup_attached_iff (hAttached : Attached world) (userId groupId : Id) :
    Attached (requestStep world (.deleteGroup userId groupId)) ↔
      SparesLinked world (.deleteGroup userId groupId) := by
  rcases deleteGroup_cases userId groupId world with
    ⟨hSame, hNone⟩ | ⟨group, hMem, hId, -, hGroup, hStep⟩
  · rw [hSame]
    exact iff_of_true hAttached fun h => absurd h hNone
  · rw [hStep]
    constructor
    · intro hAfter _ link hLink hSame
      obtain ⟨other, hOther, hOtherId⟩ := (hAfter link hLink).1
      exact of_decide_eq_true (List.mem_filter.mp hOther).2 (hOtherId.trans hSame)
    · intro hSpares link hLink
      obtain ⟨⟨other, hOther, hOtherId⟩, hDevice⟩ := hAttached link hLink
      refine ⟨⟨other, List.mem_filter.mpr ⟨hOther, decide_eq_true ?_⟩, hOtherId⟩, hDevice⟩
      exact hOtherId ▸ hSpares ⟨group, hGroup⟩ link hLink

/-- The part of a device that depends on its type is no group, link or device. -/
theorem deleteTyped_rows {device : DevicesModel}
    (h : deleteTyped device world = some (after, .ok ())) :
    after.rows.groups = world.rows.groups ∧ after.rows.links = world.rows.links ∧
      after.rows.devices = world.rows.devices := by
  have hTyped := deleteTyped_ok h
  cases hType : device.deviceType with
  | Snap =>
      rw [hType] at hTyped
      obtain ⟨snap, -, rfl⟩ := hTyped
      exact ⟨rfl, rfl, rfl⟩
  | MQTT =>
      rw [hType] at hTyped
      rw [hTyped]
      exact ⟨rfl, rfl, rfl⟩
  | LoRaNode =>
      rw [hType] at hTyped
      obtain ⟨node, -, rfl⟩ := hTyped
      exact ⟨rfl, rfl, rfl⟩
  | LoRaGate =>
      rw [hType] at hTyped
      obtain ⟨gate, integrations, -, rfl⟩ := hTyped
      exact ⟨rfl, rfl, rfl⟩

/-- A device that is deleted takes all its links with it. -/
theorem deleteDevice_cases (userId deviceId : Id) (world : World) :
    (requestStep world (.deleteDevice userId deviceId)).rows = world.rows ∨
      (requestStep world (.deleteDevice userId deviceId)).rows.groups = world.rows.groups ∧
      (requestStep world (.deleteDevice userId deviceId)).rows.links =
          world.rows.links.filter (fun link => link.deviceId ≠ deviceId) ∧
        (requestStep world (.deleteDevice userId deviceId)).rows.devices =
          world.rows.devices.filter fun row => row.id ≠ deviceId := by
  rw [requestStep]
  unfold deleteDevice
  rcases hRun : delete deviceId userId world with _ | ⟨reached, error | _⟩
  · rw [after, transaction, hRun]
    exact .inl rfl
  · rw [after_transaction_error hRun]
    exact .inl rfl
  · rw [after_transaction_ok hRun]
    obtain ⟨device, -, -, middle, hTyped, rfl⟩ := delete_ok hRun
    obtain ⟨hGroups, hLinks, hDevices⟩ := deleteTyped_rows hTyped
    refine .inr ⟨hGroups, hLinks, ?_⟩
    dsimp only
    rw [hDevices]
    rfl

/-- A device that is deleted takes its links along. -/
theorem deleteDevice_attached (hAttached : Attached world) (userId deviceId : Id) :
    Attached (requestStep world (.deleteDevice userId deviceId)) := by
  rcases deleteDevice_cases userId deviceId world with hRows | ⟨hGroups, hLinks, hDevices⟩
  · exact hAttached.of_rows hRows
  · intro link hLink
    rw [hLinks] at hLink
    obtain ⟨hOld, hOther⟩ := List.mem_filter.mp hLink
    obtain ⟨hGroup, device, hDevice, hId⟩ := hAttached link hOld
    unfold HasGroup HasDevice
    rw [hGroups, hDevices]
    refine ⟨hGroup, device, List.mem_filter.mpr ⟨hDevice, decide_eq_true ?_⟩, hId⟩
    rw [hId]
    exact of_decide_eq_true hOther

theorem deleteUser_step (userId : Id) (world : World) :
    requestStep world (.deleteUser userId) = withoutAccount world userId := by
  rw [requestStep, after_eq (deleteLocalUser_eq world userId)]

/-- After an account is deleted links are attached exactly if no other user has one to a
group or a device of it. -/
theorem deleteUser_attached_iff (h : Sound world) (hAttached : Attached world) (userId : Id) :
    Attached (requestStep world (.deleteUser userId)) ↔
      SparesLinked world (.deleteUser userId) := by
  rw [deleteUser_step]
  have hDistinct := h.distinct
  rw [owners, List.map_map] at hDistinct
  constructor
  · intro hAfter link hLink hOther
    obtain ⟨⟨kept, hKept, hKeptId⟩, device, hDevice, hDeviceId⟩ :=
      hAfter link (List.mem_filter.mpr ⟨hLink, decide_eq_true hOther⟩)
    obtain ⟨hIn, hOwner⟩ := List.mem_filter.mp hKept
    refine ⟨fun group hGroup hId => ?_, ?_⟩
    · rw [List.inj_on_of_nodup_map hDistinct hGroup hIn (hId.trans hKeptId.symm)]
      exact of_decide_eq_true hOwner
    · rw [← hDeviceId]
      exact of_decide_eq_true (List.mem_filter.mp hDevice).2
  · intro hSpares link hLink
    obtain ⟨hIn, hOther⟩ := List.mem_filter.mp hLink
    obtain ⟨hGroups, hDevices⟩ := hSpares link hIn (of_decide_eq_true hOther)
    obtain ⟨⟨group, hGroup, hId⟩, device, hDevice, hDeviceId⟩ := hAttached link hIn
    refine ⟨⟨group, List.mem_filter.mpr ⟨hGroup, decide_eq_true (hGroups group hGroup hId)⟩, hId⟩,
      device, List.mem_filter.mpr ⟨hDevice, decide_eq_true ?_⟩, hDeviceId⟩
    rw [hDeviceId]
    exact hDevices

/-- One request keeps links attached exactly if it spares what is linked. -/
theorem attached_step_iff (h : Sound world) (hAttached : Attached world)
    (hStored : DefaultsStored world) (request : Request) :
    Attached (requestStep world request) ↔ SparesLinked world request := by
  cases hTakes : request.takes with
  | false =>
      refine iff_of_true (attached_retained_step h hAttached hStored hTakes) ?_
      cases request with
      | deleteGroup => cases hTakes
      | deleteUser => cases hTakes
      | _ => trivial
  | true =>
      cases request with
      | deleteGroup userId groupId => exact deleteGroup_attached_iff hAttached userId groupId
      | deleteDevice userId deviceId =>
          exact iff_of_true (deleteDevice_attached hAttached userId deviceId) trivial
      | deleteUser userId => exact deleteUser_attached_iff h hAttached userId
      | _ => cases hTakes

/-- An entry after a request is the old one, or it has been read from the table. -/
theorem entries_step (h : Sound world) (request : Request) :
    ∀ userId items, (requestStep world request).cache.groups userId = some items →
      world.cache.groups userId = some items ∨
        items = readGroups (requestStep world request) userId := by
  cases hAdds : request.adds with
  | false =>
      obtain ⟨fresh, hChange⟩ := quiet_change world hAdds
      exact hChange.entries
  | true =>
      cases request with
      | postDevice env userId req =>
          rcases postDevice_step world env userId req with
            ⟨hLess, -, -⟩ | ⟨-, id, default, fresh, -, hCreated⟩
          · exact hLess.change.entries
          · exact hCreated.change.entries
      | putGroup userId groupId info now =>
          rcases putGroup_step h.distinct userId groupId info now with
            ⟨hLess, -, -⟩ | ⟨group, -, hEdited⟩
          · exact hLess.change.entries
          · exact hEdited.change.entries
      | _ => cases hAdds

/-- The default groups of the cache stay in the table: a default group goes only with
its user, whose entry goes too. -/
theorem defaultsStored_step (h : Sound world) (hStored : DefaultsStored world)
    (request : Request) : DefaultsStored (requestStep world request) := by
  have hDistinct := h.distinct
  rw [owners, List.map_map] at hDistinct
  cases hTakes : request.takes with
  | false => exact hStored.retain (retained_step h hTakes) (entries_step h request)
  | true =>
      intro user items hItems item hItem hDefault
      rcases entries_step h request user items hItems with hOld | rfl
      · obtain ⟨group, hGroup, hId, hKind⟩ := hStored user items hOld item hItem hDefault
        refine ⟨group, ?_, hId, hKind⟩
        cases request with
        | deleteDevice userId deviceId =>
            rcases deleteDevice_cases userId deviceId world with hRows | ⟨hGroups, -, -⟩
            · rw [hRows]
              exact hGroup
            · rw [hGroups]
              exact hGroup
        | deleteGroup userId groupId =>
            rcases deleteGroup_cases userId groupId world with
              ⟨hSame, -⟩ | ⟨gone, hGone, hGoneId, hGoneKind, -, hStep⟩
            · rw [hSame]
              exact hGroup
            · rw [hStep]
              refine List.mem_filter.mpr ⟨hGroup, decide_eq_true fun hSame => ?_⟩
              rw [List.inj_on_of_nodup_map hDistinct hGroup hGone (hSame.trans hGoneId.symm),
                hGoneKind] at hKind
              cases hKind
        | deleteUser userId =>
            rw [deleteUser_step] at hItems ⊢
            refine List.mem_filter.mpr ⟨hGroup, decide_eq_true fun hOwner => ?_⟩
            have hUser := (h.cached user items hOld item hItem).2 (group.id, group.owner)
              (List.mem_map_of_mem hGroup) hId
            have hNone : (withoutAccount world userId).cache.groups userId = none :=
              Function.update_self ..
            rw [← hUser, hOwner, hNone] at hItems
            cases hItems
        | _ => cases hTakes
      · obtain ⟨group, hGroup, rfl⟩ := List.mem_map.mp hItem
        exact ⟨group, (List.mem_filter.mp hGroup).1, rfl, hDefault⟩

end

theorem attached_empty : Attached World.empty := fun _ hLink => absurd hLink List.not_mem_nil

/-- From an empty server on, no link is left behind exactly if no deletion takes
a group or a device that links refer to. -/
theorem attached_links_iff (requests : List Request) :
    Along requestStep Attached World.empty requests ↔
      Meets requestStep SparesLinked World.empty requests :=
  @along_iff_meets _ _ requestStep SparesLinked (fun world => Sound world ∧ DefaultsStored world)
    Attached
    (fun _ request h _ _ => ⟨sound_step h.1 request, defaultsStored_step h.1 h.2 request⟩)
    (fun _ request h hAttached => attached_step_iff h.1 hAttached h.2 request)
    World.empty requests ⟨sound_empty, nofun⟩ attached_empty

/-- User 5 puts device 1 into group 2, and deletes the group. -/
def lonelyLink : List Request :=
  [.postDevice quietEnvironment ⟨5⟩ (smallRequest .MQTT), .postGroup ⟨5⟩ ⟨"field", ""⟩ ⟨0⟩,
    .putGroup ⟨5⟩ ⟨2⟩ ⟨some [⟨1⟩], none, none, none⟩ ⟨0⟩, .deleteGroup ⟨5⟩ ⟨2⟩]

/-- The link to a group that is deleted stays. -/
theorem deleted_group_linked : ¬Along requestStep Attached World.empty lonelyLink := by
  intro hAttached
  have hLink : (run requestStep World.empty lonelyLink).rows.links.any (fun link =>
      link.groupId = ⟨2⟩) = true := by decide +kernel
  have hGroups : (run requestStep World.empty lonelyLink).rows.groups.all (fun group =>
      group.id ≠ ⟨2⟩) = true := by decide +kernel
  obtain ⟨link, hMem, hSame⟩ := List.any_eq_true.mp hLink
  obtain ⟨group, hGroup, hId⟩ := (hAttached 4 link hMem).1
  exact of_decide_eq_true (List.all_eq_true.mp hGroups group hGroup)
    (hId.trans (of_decide_eq_true hSame))

end SnapEmu.Server
