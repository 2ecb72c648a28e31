import SnapEmu.Semantics.Run
import SnapEmu.Server.Coherence

/-! The operations on groups, run one after another, and which of them leave an
entry in the cache that the tables no longer bear out. -/
namespace SnapEmu.Server

open Device Management Semantics User Action DeviceGroupService

section

variable {world : World} {userId : Id}

/-- Without a number left no group is inserted. -/
theorem insertGroup_error {name description : String} {default : Bool} {now : Timestamp}
    {error : ApiError} (h : numbered world.sequences.group = .error error) :
    insertGroup name description default userId now world = some (world, .error error) := by
  unfold insertGroup
  rw [get_bind, h]
  rfl

/-- A group is inserted under the next number. -/
theorem insertGroup_ok {name description : String} {default : Bool} {now : Timestamp} {id : Id}
    (h : numbered world.sequences.group = .ok id) :
    insertGroup name description default userId now world =
      some (world.addGroup ⟨id, name, description, default, userId, now⟩,
        .ok ⟨id, name, description, default, userId, now⟩) := by
  unfold insertGroup
  rw [get_bind, h]
  rfl

/-- Without a number left no link is inserted. -/
theorem insertLink_error {device group : Id} {now : Timestamp} {error : ApiError}
    (h : numbered world.sequences.link = .error error) :
    insertLink userId device group now world = some (world, .error error) := by
  unfold insertLink
  rw [get_bind, h]
  rfl

/-- A link is inserted under the next number. -/
theorem insertLink_ok {device group : Id} {now : Timestamp} {id : Id}
    (h : numbered world.sequences.link = .ok id) :
    insertLink userId device group now world =
      some (world.addLink ⟨id, userId, device, group, 0, now⟩,
        .ok ⟨id, userId, device, group, 0, now⟩) := by
  unfold insertLink
  rw [get_bind, h]
  rfl

end

inductive GroupOperation where
  | createGroup (userId : Id) (group : ReqDeviceGroup) (now : Timestamp)
  | updateGroup (groupId userId : Id) (info : ReqPutDeviceGroup) (now : Timestamp)
  | deleteOne (userId groupId : Id)
  | link (group user device : Id) (now : Timestamp)
  | linkToDefaultGroup (user device : Id) (now : Timestamp)
  | unlink (device user group : Id)
  | unlinkDeviceAll (device : Id)
  | queryUserDefaultGroup (userId : Id) (now : Timestamp)
  | selectByGroupId (userId groupId : Id)
  | selectDefaultGroup (userId : Id) (now : Timestamp)

/-- Updates and deletions of a group run in a transaction. -/
def groupStep (world : World) : GroupOperation → World
  | .createGroup userId group now => (createGroup group userId now).after world
  | .updateGroup groupId userId info now =>
      (transaction rollback (updateGroup groupId userId info now)).after world
  | .deleteOne userId groupId => (transaction rollback (deleteOne userId groupId)).after world
  | .link group user device now => (link group user device now).after world
  | .linkToDefaultGroup user device now => (linkToDefaultGroup user device now).after world
  | .unlink device user group => (unlink device user group).after world
  | .unlinkDeviceAll device => (unlinkDeviceAll device).after world
  | .queryUserDefaultGroup userId now => (queryUserDefaultGroup userId now).after world
  | .selectByGroupId userId groupId => (selectByGroupId userId groupId).after world
  | .selectDefaultGroup userId now => (selectDefaultGroup userId now).after world

/-- Where an operation changes what is read of a user without dropping the
entry of that user, there is no entry. -/
def NothingStale (world : World) : GroupOperation → Prop
  | .updateGroup groupId userId info _ =>
      ∀ group, editable world groupId userId = .ok group →
        info.devices.getD [] = [] → info.remove.getD [] = [] →
          info.name.getD group.name ≠ group.name ∨
              info.description.getD group.description ≠ group.description →
            world.cache.groups userId = none
  | .deleteOne userId groupId =>
      ∀ group, deletable world groupId userId = .ok group → world.cache.groups userId = none
  | .link group user device _ =>
      world.sequences.link < 2 ^ 63 → (world.findDevice device).isSome →
        ∀ row ∈ world.rows.groups, row.id = group → row.owner ≠ user →
          world.cache.groups row.owner = none
  | .unlink device user group =>
      (world.findDevice device).isSome →
        (∃ link ∈ world.rows.links,
          link.deviceId = device ∧ link.userId = user ∧ link.groupId = group) →
          ∀ row ∈ world.rows.groups, row.id = group → row.owner ≠ user →
            world.cache.groups row.owner = none
  | .unlinkDeviceAll device =>
      (world.findDevice device).isSome →
        ∀ link ∈ world.rows.links, link.deviceId = device →
          ∀ row ∈ world.rows.groups, row.id = link.groupId → world.cache.groups row.owner = none
  | .queryUserDefaultGroup userId _ =>
      DeviceGroupCache.loadDefaultByUserId world userId = none → defaultRow world userId = none →
        world.sequences.group < 2 ^ 63 → world.cache.groups userId = none
  | .createGroup .. | .linkToDefaultGroup .. | .selectByGroupId .. | .selectDefaultGroup .. => True

section

variable {world : World}

/-- The next number is not the number of a group yet. -/
theorem Numbered.addGroup (hNumbered : Numbered world) {group : DeviceGroupModel}
    (hId : numbered world.sequences.group = .ok group.id) : Numbered (world.addGroup group) := by
  have hNew := numbered_ok hId
  constructor
  · have hRows : (world.addGroup group).rows.groups = world.rows.groups ++ [group] := rfl
    rw [hRows, List.map_append, List.map_singleton, List.nodup_append]
    refine ⟨hNumbered.distinct, List.nodup_singleton _, ?_⟩
    intro id hMem other hOther
    obtain ⟨row, hRow, rfl⟩ := List.mem_map.mp hMem
    rw [List.mem_singleton.mp hOther]
    intro hSame
    have hGiven := hNumbered.given row hRow
    rw [hSame, hNew] at hGiven
    exact lt_irrefl _ hGiven
  · intro row hRow
    have hNext : (world.addGroup group).sequences.group = world.sequences.group + 1 := rfl
    rw [hNext]
    rcases List.mem_append.mp hRow with hOld | hAdded
    · exact Nat.lt_succ_of_lt (hNumbered.given row hOld)
    · rw [List.mem_singleton.mp hAdded, hNew]
      exact Nat.lt_succ_self _

/-- Only the group rows and their sequence matter. -/
theorem Numbered.of_groups (hNumbered : Numbered world) {after : World}
    (hGroups : after.rows.groups = world.rows.groups)
    (hSequence : after.sequences.group = world.sequences.group) : Numbered after := by
  constructor
  · rw [hGroups]
    exact hNumbered.distinct
  · rw [hGroups, hSequence]
    exact hNumbered.given

/-- One entry is dropped and the others stay. -/
theorem dropped_setGroupCache (world : World) (userId : Id) :
    Dropped world (world.setGroupCache userId none) := by
  intro other
  by_cases hUser : other = userId
  · exact .inl (by rw [hUser]; exact Function.update_self ..)
  · exact .inr (Function.update_of_ne hUser ..)

theorem setGroupCache_self (world : World) (userId : Id)
    (groups : Option (List DeviceGroupCacheItem)) :
    (world.setGroupCache userId groups).cache.groups userId = groups := Function.update_self ..

/-- The entries of other users stay. -/
theorem setGroupCache_of_ne (world : World) {userId other : Id}
    (groups : Option (List DeviceGroupCacheItem)) (hUser : other ≠ userId) :
    (world.setGroupCache userId groups).cache.groups other = world.cache.groups other :=
  Function.update_of_ne hUser ..

/-- A new group shows to its owner only. -/
theorem coherent_addGroup_iff (hCoherent : Coherent world) (group : DeviceGroupModel) :
    Coherent (world.addGroup group) ↔ world.cache.groups group.owner = none := by
  have hDropped : Dropped world (world.addGroup group) := dropped_of_eq rfl
  rw [coherent_iff hCoherent hDropped]
  constructor
  · intro hRead
    by_contra hEntry
    exact readGroups_addGroup_ne world rfl (hRead group.owner hEntry)
  · intro hNone userId hEntry
    refine readGroups_addGroup world fun hOwner => hEntry ?_
    rw [← hOwner]
    exact hNone

theorem coherent_setGroupCache (hCoherent : Coherent world) (userId : Id) :
    Coherent (world.setGroupCache userId none) :=
  coherent_of_rows hCoherent (dropped_setGroupCache world userId) rfl

/-- The entry of a user may be renewed from the tables. -/
theorem coherent_renew (hCoherent : Coherent world) (userId : Id) :
    Coherent (world.setGroupCache userId (some (readGroups world userId))) := by
  intro other items hItems
  rw [readGroups_setGroupCache]
  by_cases hUser : other = userId
  · subst hUser
    rw [setGroupCache_self, Option.some.injEq] at hItems
    exact hItems.symm
  · rw [setGroupCache_of_ne world _ hUser] at hItems
    exact hCoherent other items hItems

/-- After the entry of the owner is dropped, a new group shows to nobody. -/
theorem coherent_addGroup_drop (hCoherent : Coherent world) (group : DeviceGroupModel) :
    Coherent ((world.addGroup group).setGroupCache group.owner none) := by
  have hDrop := coherent_setGroupCache hCoherent group.owner
  have hAdded := (coherent_addGroup_iff hDrop group).mpr (setGroupCache_self world group.owner none)
  exact hAdded

/-- A new link that joins shows to the owners of its group. -/
theorem coherent_addLink_iff (hCoherent : Coherent world) (link : DeviceMapGroupModel) :
    Coherent (world.addLink link) ↔
      ((world.findDevice link.deviceId).isSome →
        ∀ row ∈ world.rows.groups, row.id = link.groupId →
          world.cache.groups row.owner = none) := by
  have hDropped : Dropped world (world.addLink link) := dropped_of_eq rfl
  have hGroups : (world.addLink link).rows.groups = world.rows.groups := rfl
  rw [coherent_iff hCoherent hDropped]
  constructor
  · intro hRead hDevice row hRow hId
    by_contra hEntry
    have hCount := (readGroups_eq_iff hGroups).mp (hRead row.owner hEntry) row hRow rfl
    rw [deviceCount_addLink, if_pos (by simp [joins, hId, hDevice])] at hCount
    omega
  · intro hNone userId hEntry
    refine (readGroups_eq_iff hGroups).mpr fun row hRow hOwner => ?_
    rw [deviceCount_addLink, if_neg, Nat.add_zero]
    simp only [joins, Bool.and_eq_true, decide_eq_true_eq, not_and]
    intro hId hDevice
    apply hEntry
    rw [← hOwner]
    exact hNone hDevice row hRow hId.symm

/-- Links that are removed show to the owners of their groups, if they join. -/
theorem coherent_filterLinks_iff (hCoherent : Coherent world) (kept : DeviceMapGroupModel → Bool) :
    Coherent (world.filterLinks kept) ↔
      ∀ link ∈ world.rows.links, (world.findDevice link.deviceId).isSome → ¬kept link →
        ∀ row ∈ world.rows.groups, row.id = link.groupId → world.cache.groups row.owner = none := by
  have hDropped : Dropped world (world.filterLinks kept) := dropped_of_eq rfl
  have hGroups : (world.filterLinks kept).rows.groups = world.rows.groups := rfl
  rw [coherent_iff hCoherent hDropped]
  constructor
  · intro hRead link hLink hDevice hKept row hRow hId
    by_contra hEntry
    have hCount := (readGroups_eq_iff hGroups).mp (hRead row.owner hEntry) row hRow rfl
    rw [deviceCount_filterLinks_iff] at hCount
    exact hKept (hCount link hLink (by simp [joins, hId, hDevice]))
  · intro hNone userId hEntry
    refine (readGroups_eq_iff hGroups).mpr fun row hRow hOwner => ?_
    rw [deviceCount_filterLinks_iff]
    intro link hLink hJoins
    simp only [joins, Bool.and_eq_true, decide_eq_true_eq] at hJoins
    by_contra hKept
    apply hEntry
    rw [← hOwner]
    exact hNone link hLink hJoins.2 hKept row hRow hJoins.1.symm

/-- The removal of a group shows to its owner. -/
theorem coherent_filterGroups_iff (hNumbered : Numbered world) (hCoherent : Coherent world)
    {group : DeviceGroupModel} (hGroup : group ∈ world.rows.groups) :
    Coherent (world.filterGroups fun row => row.id ≠ group.id) ↔
      world.cache.groups group.owner = none := by
  have hDropped : Dropped world (world.filterGroups fun row => row.id ≠ group.id) :=
    dropped_of_eq rfl
  rw [coherent_iff hCoherent hDropped]
  constructor
  · intro hRead
    by_contra hEntry
    exact (readGroups_filterGroups_iff hNumbered hGroup).mp (hRead group.owner hEntry) rfl
  · intro hNone userId hEntry
    refine (readGroups_filterGroups_iff hNumbered hGroup).mpr fun hOwner => hEntry ?_
    rw [← hOwner]
    exact hNone

/-- A change of a group shows to its owner. -/
theorem coherent_updateRow_iff (hNumbered : Numbered world) (hCoherent : Coherent world)
    {group next : DeviceGroupModel} (hGroup : group ∈ world.rows.groups)
    (hId : next.id = group.id) (hOwner : next.owner = group.owner) :
    Coherent (world.mapGroups fun row => if row.id = next.id then next else row) ↔
      (next ≠ group → world.cache.groups group.owner = none) := by
  have hDropped : Dropped world
      (world.mapGroups fun row => if row.id = next.id then next else row) := dropped_of_eq rfl
  rw [coherent_iff hCoherent hDropped]
  constructor
  · intro hRead hChanged
    by_contra hEntry
    exact hChanged
      ((readGroups_updateRow_iff hNumbered hGroup hId hOwner).mp (hRead group.owner hEntry) rfl)
  · intro hNone userId hEntry
    refine (readGroups_updateRow_iff hNumbered hGroup hId hOwner).mpr fun hUser => ?_
    by_contra hChanged
    apply hEntry
    rw [← hUser]
    exact hNone hChanged

end

/-! One operation. -/

section

variable {world : World}

/-- A creation drops the entry of its user, the only one that could become stale. -/
theorem groupStep_createGroup (hNumbered : Numbered world) (hCoherent : Coherent world)
    (userId : Id) (group : ReqDeviceGroup) (now : Timestamp) :
    Numbered (groupStep world (.createGroup userId group now)) ∧
      Coherent (groupStep world (.createGroup userId group now)) := by
  by_cases hLeft : world.sequences.group < 2 ^ 63
  · have hRun : createGroup group userId now world =
        some ((world.addGroup _).setGroupCache userId none, .ok _) :=
      bind_ok (insertGroup_ok (numbered_of_lt hLeft))
    rw [groupStep, after_eq hRun]
    exact ⟨(hNumbered.addGroup (numbered_of_lt hLeft)).of_groups rfl rfl,
      coherent_addGroup_drop hCoherent _⟩
  · have hRun : createGroup group userId now world = some (world, .error sequenceEnds) :=
      bind_error (insertGroup_error (numbered_of_not_lt hLeft))
    rw [groupStep, after_eq hRun]
    exact ⟨hNumbered, hCoherent⟩

/-- A group that may be deleted belongs to the user. -/
theorem deletable_ok {groupId userId : Id} {group : DeviceGroupModel}
    (h : deletable world groupId userId = .ok group) :
    group ∈ world.rows.groups ∧ group.owner = userId := by
  unfold deletable at h
  cases hGroup : world.findGroup groupId with
  | none =>
      rw [hGroup] at h
      cases h
  | some found =>
      simp only [hGroup] at h
      split_ifs at h with hOwner hDefault
      cases h
      exact ⟨List.mem_of_find?_eq_some hGroup, not_not.mp hOwner⟩

/-- A deletion keeps the entry of the owner, which must not be there. -/
theorem groupStep_deleteOne (hNumbered : Numbered world) (hCoherent : Coherent world)
    (userId groupId : Id) :
    Numbered (groupStep world (.deleteOne userId groupId)) ∧
      (Coherent (groupStep world (.deleteOne userId groupId)) ↔
        NothingStale world (.deleteOne userId groupId)) := by
  simp only [NothingStale]
  cases hGroup : deletable world groupId userId with
  | error error =>
      have hRun : deleteOne userId groupId world = some (world, .error error) := by
        unfold deleteOne
        rw [get_bind, hGroup]
        rfl
      rw [groupStep, after_transaction_error hRun]
      exact ⟨hNumbered, iff_of_true hCoherent nofun⟩
  | ok group =>
      have hRun : deleteOne userId groupId world =
          some (world.filterGroups fun row => row.id ≠ group.id, .ok ()) := by
        unfold deleteOne
        rw [get_bind, hGroup]
        rfl
      obtain ⟨hMem, hOwner⟩ := deletable_ok hGroup
      rw [groupStep, after_transaction_ok hRun]
      simp only [Except.ok.injEq, forall_eq', ← hOwner]
      constructor
      · exact
          { distinct := hNumbered.distinct.sublist (List.filter_sublist.map _)
            given := fun row hRow => hNumbered.given row (List.mem_of_mem_filter hRow) }
      · exact coherent_filterGroups_iff hNumbered hCoherent hMem

/-- A link drops the entry of the user it is made for, not that of the owner of the
group. -/
theorem groupStep_link (hNumbered : Numbered world) (hCoherent : Coherent world)
    (group user device : Id) (now : Timestamp) :
    Numbered (groupStep world (.link group user device now)) ∧
      (Coherent (groupStep world (.link group user device now)) ↔
        NothingStale world (.link group user device now)) := by
  have hDrop := coherent_setGroupCache hCoherent user
  simp only [NothingStale]
  cases hGroup : world.findGroup group with
  | none =>
      have hRun : link group user device now world =
          some (world, .error (.user (.plain "group invalid"))) := by
        unfold link
        rw [get_bind, hGroup]
        rfl
      rw [groupStep, after_eq hRun]
      refine ⟨hNumbered, iff_of_true hCoherent fun _ _ row hRow hId => ?_⟩
      have hNone := List.find?_eq_none.mp hGroup row hRow
      exact absurd (decide_eq_true hId) hNone
  | some found =>
      by_cases hLeft : world.sequences.link < 2 ^ 63
      · have hRun : link group user device now world = some
            ((world.setGroupCache user none).addLink
              ⟨⟨UInt64.ofNat world.sequences.link⟩, user, device, group, 0, now⟩,
              .ok ⟨⟨UInt64.ofNat world.sequences.link⟩, user, device, group, 0, now⟩) := by
          unfold link
          rw [get_bind, hGroup]
          exact insertLink_ok (numbered_of_lt hLeft)
        rw [groupStep, after_eq hRun]
        refine ⟨hNumbered.of_groups rfl rfl, ?_⟩
        rw [coherent_addLink_iff hDrop]
        refine ⟨fun h _ hDevice row hRow hId hOwner => ?_, fun h hDevice row hRow hId => ?_⟩
        · have hNone := h hDevice row hRow hId
          rwa [setGroupCache_of_ne world none hOwner] at hNone
        · by_cases hOwner : row.owner = user
          · rw [hOwner]
            exact setGroupCache_self world user none
          · rw [setGroupCache_of_ne world none hOwner]
            exact h hLeft hDevice row hRow hId hOwner
      · have hRun : link group user device now world =
            some (world.setGroupCache user none, .error sequenceEnds) := by
          unfold link
          rw [get_bind, hGroup]
          exact insertLink_error (numbered_of_not_lt hLeft)
        rw [groupStep, after_eq hRun]
        exact ⟨hNumbered.of_groups rfl rfl, iff_of_true hDrop fun hLt => absurd hLt hLeft⟩

/-- An unlink drops the entry of the user it is made for, not that of the owner of the
group. -/
theorem groupStep_unlink (hNumbered : Numbered world) (hCoherent : Coherent world)
    (device user group : Id) :
    Numbered (groupStep world (.unlink device user group)) ∧
      (Coherent (groupStep world (.unlink device user group)) ↔
        NothingStale world (.unlink device user group)) := by
  have hDrop := coherent_setGroupCache hCoherent user
  have hRun : unlink device user group world = some
      ((world.setGroupCache user none).filterLinks fun link =>
        ¬(link.deviceId = device ∧ link.userId = user ∧ link.groupId = group), .ok ()) := rfl
  simp only [NothingStale]
  rw [groupStep, after_eq hRun]
  refine ⟨hNumbered.of_groups rfl rfl, ?_⟩
  rw [coherent_filterLinks_iff hDrop]
  constructor
  · intro h hDevice hLink row hRow hId hOwner
    obtain ⟨link, hMem, rfl, hUser, rfl⟩ := hLink
    have hNone := h link hMem hDevice (by simp [hUser]) row hRow hId
    rwa [setGroupCache_of_ne world none hOwner] at hNone
  · intro h link hMem hDevice hKept row hRow hId
    simp only [decide_eq_true_eq, not_not] at hKept
    obtain ⟨rfl, hUser, rfl⟩ := hKept
    by_cases hOwner : row.owner = user
    · rw [hOwner]
      exact setGroupCache_self world user none
    · rw [setGroupCache_of_ne world none hOwner]
      exact h hDevice ⟨link, hMem, rfl, hUser, rfl⟩ row hRow hId hOwner

/-- The removal of all links of a device drops no entry. -/
theorem groupStep_unlinkDeviceAll (hNumbered : Numbered world) (hCoherent : Coherent world)
    (device : Id) :
    Numbered (groupStep world (.unlinkDeviceAll device)) ∧
      (Coherent (groupStep world (.unlinkDeviceAll device)) ↔
        NothingStale world (.unlinkDeviceAll device)) := by
  have hRun : unlinkDeviceAll device world =
      some (world.filterLinks fun link => link.deviceId ≠ device, .ok ()) := rfl
  simp only [NothingStale]
  rw [groupStep, after_eq hRun]
  refine ⟨hNumbered.of_groups rfl rfl, ?_⟩
  rw [coherent_filterLinks_iff hCoherent]
  constructor
  · intro h hDevice link hMem hLink
    subst hLink
    exact h link hMem hDevice (by simp)
  · intro h link hMem hDevice hKept
    simp only [decide_eq_true_eq, ne_eq, not_not] at hKept
    subst hKept
    exact h hDevice link hMem rfl

/-- A default group is inserted without dropping the entry of its user. -/
theorem groupStep_queryUserDefaultGroup (hNumbered : Numbered world) (hCoherent : Coherent world)
    (userId : Id) (now : Timestamp) :
    Numbered (groupStep world (.queryUserDefaultGroup userId now)) ∧
      (Coherent (groupStep world (.queryUserDefaultGroup userId now)) ↔
        NothingStale world (.queryUserDefaultGroup userId now)) := by
  simp only [NothingStale]
  cases hCached : DeviceGroupCache.loadDefaultByUserId world userId with
  | some item =>
      have hRun : queryUserDefaultGroup userId now world = some (world, .ok item.group) := by
        unfold queryUserDefaultGroup
        rw [get_bind, hCached]
        rfl
      rw [groupStep, after_eq hRun]
      exact ⟨hNumbered, iff_of_true hCoherent nofun⟩
  | none =>
      cases hRow : defaultRow world userId with
      | some group =>
          have hRun : queryUserDefaultGroup userId now world = some (world, .ok group) := by
            unfold queryUserDefaultGroup
            rw [get_bind, hCached, hRow]
            rfl
          rw [groupStep, after_eq hRun]
          exact ⟨hNumbered, iff_of_true hCoherent nofun⟩
      | none =>
          by_cases hLeft : world.sequences.group < 2 ^ 63
          · have hRun : queryUserDefaultGroup userId now world =
                some (world.addGroup ⟨⟨UInt64.ofNat world.sequences.group⟩, "All", "All", true,
                  userId, now⟩, .ok ⟨⟨UInt64.ofNat world.sequences.group⟩, "All", "All", true,
                  userId, now⟩) := by
              unfold queryUserDefaultGroup
              rw [get_bind, hCached, hRow]
              exact insertGroup_ok (numbered_of_lt hLeft)
            rw [groupStep, after_eq hRun]
            refine ⟨hNumbered.addGroup (numbered_of_lt hLeft), ?_⟩
            rw [coherent_addGroup_iff hCoherent]
            exact ⟨fun hNone _ _ _ => hNone, fun h => h rfl rfl hLeft⟩
          · have hRun : queryUserDefaultGroup userId now world =
                some (world, .error sequenceEnds) := by
              unfold queryUserDefaultGroup
              rw [get_bind, hCached, hRow]
              exact insertGroup_error (numbered_of_not_lt hLeft)
            rw [groupStep, after_eq hRun]
            exact ⟨hNumbered, iff_of_true hCoherent fun _ _ hLt => absurd hLt hLeft⟩

/-- A user has a default group afterwards, and its number is that of no group
of another user. -/
theorem queryUserDefaultGroup_ok (hNumbered : Numbered world) (hCoherent : Coherent world)
    {userId : Id} {now : Timestamp} {after : World} {group : DeviceGroupModel}
    (hRun : queryUserDefaultGroup userId now world = some (after, .ok group)) :
    (after = world ∨ ∃ added : DeviceGroupModel, added.owner = userId ∧
        numbered world.sequences.group = .ok added.id ∧ after = world.addGroup added) ∧
      ∀ row ∈ after.rows.groups, row.id = group.id → row.owner = userId := by
  unfold queryUserDefaultGroup at hRun
  rw [get_bind] at hRun
  cases hCached : DeviceGroupCache.loadDefaultByUserId world userId with
  | some item =>
      simp only [hCached] at hRun
      cases hRun
      refine ⟨.inl rfl, fun row hRow hId => ?_⟩
      obtain ⟨items, hItems, hItem⟩ := Option.bind_eq_some_iff.mp hCached
      have hMem := List.mem_of_find?_eq_some hItem
      rw [hCoherent userId items hItems, readGroups, List.mem_map] at hMem
      obtain ⟨found, hFound, rfl⟩ := hMem
      obtain ⟨hFound, hOwner⟩ := List.mem_filter.mp hFound
      rw [List.inj_on_of_nodup_map hNumbered.distinct hRow hFound hId]
      exact of_decide_eq_true hOwner
  | none =>
      cases hDefault : defaultRow world userId with
      | some found =>
          simp only [hCached, hDefault] at hRun
          cases hRun
          refine ⟨.inl rfl, fun row hRow hId => ?_⟩
          have hOwner := List.find?_some hDefault
          rw [List.inj_on_of_nodup_map hNumbered.distinct hRow
            (List.mem_of_find?_eq_some hDefault) hId]
          exact (of_decide_eq_true hOwner).1
      | none =>
          simp only [hCached, hDefault] at hRun
          by_cases hLeft : world.sequences.group < 2 ^ 63
          · rw [insertGroup_ok (numbered_of_lt hLeft)] at hRun
            cases hRun
            refine ⟨.inr ⟨_, rfl, numbered_of_lt hLeft, rfl⟩, fun row hRow hId => ?_⟩
            rw [List.inj_on_of_nodup_map (hNumbered.addGroup (numbered_of_lt hLeft)).distinct hRow
              (List.mem_append_right _ List.mem_cons_self) hId]
          · rw [insertGroup_error (numbered_of_not_lt hLeft)] at hRun
            cases hRun

/-- A query that fails has changed nothing. -/
theorem queryUserDefaultGroup_error {userId : Id} {now : Timestamp} {after : World}
    {error : ApiError} (hRun : queryUserDefaultGroup userId now world =
      some (after, .error error)) : after = world := by
  unfold queryUserDefaultGroup at hRun
  rw [get_bind] at hRun
  cases hCached : DeviceGroupCache.loadDefaultByUserId world userId with
  | some item =>
      simp only [hCached] at hRun
      cases hRun
  | none =>
      cases hDefault : defaultRow world userId with
      | some found =>
          simp only [hCached, hDefault] at hRun
          cases hRun
      | none =>
          simp only [hCached, hDefault] at hRun
          by_cases hLeft : world.sequences.group < 2 ^ 63
          · rw [insertGroup_ok (numbered_of_lt hLeft)] at hRun
            cases hRun
          · rw [insertGroup_error (numbered_of_not_lt hLeft)] at hRun
            cases hRun
            rfl

/-- The default group belongs to the user whose entry is dropped. -/
theorem groupStep_linkToDefaultGroup (hNumbered : Numbered world) (hCoherent : Coherent world)
    (user device : Id) (now : Timestamp) :
    Numbered (groupStep world (.linkToDefaultGroup user device now)) ∧
      Coherent (groupStep world (.linkToDefaultGroup user device now)) := by
  rw [groupStep]
  unfold linkToDefaultGroup
  rcases hRun : queryUserDefaultGroup user now world with _ | ⟨found, error | group⟩
  · rw [after, bind_apply, hRun]
    exact ⟨hNumbered, hCoherent⟩
  · rw [after_eq (bind_error hRun), queryUserDefaultGroup_error hRun]
    exact ⟨hNumbered, hCoherent⟩
  · obtain ⟨hFound, hOwner⟩ := queryUserDefaultGroup_ok hNumbered hCoherent hRun
    -- the new group shows to nobody once the entry is dropped
    have hReady : Numbered found ∧ Coherent (found.setGroupCache user none) := by
      rcases hFound with rfl | ⟨added, rfl, hId, rfl⟩
      · exact ⟨hNumbered, coherent_setGroupCache hCoherent user⟩
      · exact ⟨hNumbered.addGroup hId, coherent_addGroup_drop hCoherent added⟩
    by_cases hLeft : found.sequences.link < 2 ^ 63
    · have hLink := @insertLink_ok (found.setGroupCache user none) user device group.id now _
        (numbered_of_lt hLeft)
      rw [after_eq ((bind_ok hRun).trans hLink)]
      refine ⟨hReady.1.of_groups rfl rfl, ?_⟩
      rw [coherent_addLink_iff hReady.2]
      intro _ row hRow hId
      rw [hOwner row hRow hId]
      exact setGroupCache_self found user none
    · have hLink := @insertLink_error (found.setGroupCache user none) user device group.id now _
        (numbered_of_not_lt hLeft)
      rw [after_eq ((bind_ok hRun).trans hLink)]
      exact ⟨hReady.1.of_groups rfl rfl, hReady.2⟩

/-- A group that is missing in the entry renews it from the tables. -/
theorem groupStep_selectByGroupId (hNumbered : Numbered world) (hCoherent : Coherent world)
    (userId groupId : Id) :
    Numbered (groupStep world (.selectByGroupId userId groupId)) ∧
      Coherent (groupStep world (.selectByGroupId userId groupId)) := by
  rw [groupStep]
  cases hItem : (DeviceGroupCache.loadByUserId world userId).bind fun items =>
      items.find? fun item => item.group.id = groupId with
  | some item =>
      have hRun : selectByGroupId userId groupId world = some (world, .ok item) := by
        unfold selectByGroupId
        rw [get_bind, hItem]
        rfl
      rw [after_eq hRun]
      exact ⟨hNumbered, hCoherent⟩
  | none =>
      have hRun : selectByGroupId userId groupId world =
          some (world.setGroupCache userId (some (readGroups world userId)),
            findItem (readGroups world userId) groupId) := by
        unfold selectByGroupId
        rw [get_bind, hItem]
        dsimp only
        cases findItem (readGroups world userId) groupId with
        | error error => rfl
        | ok item => rfl
      rw [after_eq hRun]
      exact ⟨hNumbered.of_groups rfl rfl, coherent_renew hCoherent userId⟩

/-- A default group that is created renews the entry from the tables. -/
theorem groupStep_selectDefaultGroup (hNumbered : Numbered world) (hCoherent : Coherent world)
    (userId : Id) (now : Timestamp) :
    Numbered (groupStep world (.selectDefaultGroup userId now)) ∧
      Coherent (groupStep world (.selectDefaultGroup userId now)) := by
  rw [groupStep]
  unfold selectDefaultGroup
  cases hCached : DeviceGroupCache.loadDefaultByUserId world userId with
  | some item =>
      rw [after, get_bind, hCached]
      exact ⟨hNumbered, hCoherent⟩
  | none =>
      cases hRow : defaultRow world userId with
      | some group =>
          rw [after, get_bind, hCached, hRow]
          exact ⟨hNumbered, hCoherent⟩
      | none =>
          rw [after, get_bind, hCached, hRow]
          dsimp only
          by_cases hLeft : world.sequences.group < 2 ^ 63
          · have hRun : createGroupDefault ⟨"All", "All"⟩ userId now world = some _ :=
              bind_ok (insertGroup_ok (numbered_of_lt hLeft))
            rw [bind_ok hRun]
            exact ⟨(hNumbered.addGroup (numbered_of_lt hLeft)).of_groups rfl rfl,
              coherent_renew (coherent_addGroup_drop hCoherent _) userId⟩
          · have hRun : createGroupDefault ⟨"All", "All"⟩ userId now world = some _ :=
              bind_error (insertGroup_error (numbered_of_not_lt hLeft))
            rw [bind_error hRun]
            exact ⟨hNumbered, hCoherent⟩

end

/-! The update of a group. -/

/-- While links of a group come and go, only the count of this group and the
entry of its owner change, and the entry can only be dropped. -/
structure Editing (world : World) (group : DeviceGroupModel) (reached : World) : Prop where
  groups : reached.rows.groups = world.rows.groups
  sequence : reached.sequences.group = world.sequences.group
  counts : ∀ id, id ≠ group.id → deviceCount reached id = deviceCount world id
  dropped : Dropped world reached
  others : ∀ user, user ≠ group.owner → reached.cache.groups user = world.cache.groups user

section

variable {world reached : World} {group : DeviceGroupModel}

theorem editing_refl (world : World) (group : DeviceGroupModel) : Editing world group world :=
  ⟨rfl, rfl, fun _ _ => rfl, dropped_refl world, fun _ _ => rfl⟩

/-- The entry of the owner may go during an edit. -/
theorem Editing.drop (h : Editing world group reached) :
    Editing world group (reached.setGroupCache group.owner none) where
  groups := h.groups
  sequence := h.sequence
  counts := h.counts
  dropped := by
    intro user
    by_cases hUser : user = group.owner
    · exact .inl (by rw [hUser]; exact setGroupCache_self reached group.owner none)
    · rw [setGroupCache_of_ne reached none hUser]
      exact h.dropped user
  others := by
    intro user hUser
    rw [setGroupCache_of_ne reached none hUser]
    exact h.others user hUser

/-- What is read of others does not change. -/
theorem Editing.coherent (h : Editing world group reached) (hNumbered : Numbered world)
    (hCoherent : Coherent world) (hGroup : group ∈ world.rows.groups)
    (hEntry : reached.cache.groups group.owner = none) : Coherent reached := by
  refine (coherent_iff hCoherent h.dropped).mpr fun user hUser => ?_
  refine (readGroups_eq_iff h.groups).mpr fun row hRow hOwner => h.counts row.id fun hId => ?_
  rw [List.inj_on_of_nodup_map hNumbered.distinct hRow hGroup hId] at hOwner
  rw [← hOwner] at hUser
  exact hUser hEntry

/-- A link of an edit drops the entry of the owner. -/
theorem triple_link (world : World) (group : DeviceGroupModel) (device : Id) (now : Timestamp) :
    Triple (Editing world group) (link group.id group.owner device now)
      (fun _ reached => Editing world group reached ∧ reached.cache.groups group.owner = none)
      (fun _ => Editing world group) := by
  intro reached hReached
  unfold link
  rw [get_bind]
  cases reached.findGroup group.id with
  | none => exact hReached
  | some _ =>
      have hDrop := hReached.drop
      dsimp only
      by_cases hLeft : reached.sequences.link < 2 ^ 63
      · have hLink := @insertLink_ok (reached.setGroupCache group.owner none) group.owner device
          group.id now _ (numbered_of_lt hLeft)
        rw [DeviceGroupCache.deleteByUserId, modify_bind, hLink]
        refine ⟨⟨hDrop.groups, hDrop.sequence, fun id hId => ?_, hDrop.dropped, hDrop.others⟩,
          setGroupCache_self reached group.owner none⟩
        rw [deviceCount_addLink, if_neg (by simp [joins, hId.symm]), Nat.add_zero,
          hDrop.counts id hId]
      · have hLink := @insertLink_error (reached.setGroupCache group.owner none) group.owner device
          group.id now _ (numbered_of_not_lt hLeft)
        rw [DeviceGroupCache.deleteByUserId, modify_bind, hLink]
        exact hDrop

/-- An unlink of an edit drops the entry of the owner. -/
theorem triple_unlink (world : World) (group : DeviceGroupModel) (device : Id) :
    Triple (Editing world group) (unlink device group.owner group.id)
      (fun _ reached => Editing world group reached ∧ reached.cache.groups group.owner = none)
      (fun _ => Editing world group) := by
  intro reached hReached
  have hDrop := hReached.drop
  refine ⟨⟨hDrop.groups, hDrop.sequence, fun id hId => ?_, hDrop.dropped, hDrop.others⟩,
    setGroupCache_self reached group.owner none⟩
  rw [← hDrop.counts id hId, deviceCount_filterLinks_iff]
  intro link _ hJoins
  simp only [joins, Bool.and_eq_true, decide_eq_true_eq] at hJoins
  simp only [decide_eq_true_eq, not_and]
  exact fun _ _ hGroup => hId (hJoins.1.symm.trans hGroup)

theorem triple_checkDevices {pre : World → Prop} (userId : Id) (devices : List Id) :
    Triple pre (checkDevices userId devices) (fun _ => pre) (fun _ => pre) := by
  refine triple_get fun state => ?_
  dsimp only
  split_ifs with h
  · exact triple_pure fun _ hState => hState.2
  · exact triple_throw fun _ hState => hState.2

/-- The links of an edit drop the entry if there are any. -/
theorem triple_linkDevices (world : World) (group : DeviceGroupModel) (devices : Option (List Id))
    (now : Timestamp) :
    Triple (Editing world group) (linkDevices group.id group.owner devices now)
      (fun _ reached => Editing world group reached ∧
        (devices.getD [] ≠ [] → reached.cache.groups group.owner = none))
      (fun _ => Editing world group) := by
  cases devices with
  | none => exact triple_pure fun _ h => ⟨h, fun hNe => absurd rfl hNe⟩
  | some devices =>
      refine triple_bind (triple_checkDevices group.owner devices) fun _ => ?_
      refine triple_forEach (fun device => ?_) devices
      exact triple_bind (triple_link world group device now) fun _ => triple_pure fun _ h => h

/-- The unlinks of an edit drop the entry if there are any. -/
theorem triple_unlinkDevices (world : World) (group : DeviceGroupModel)
    (devices : Option (List Id)) :
    Triple (Editing world group) (unlinkDevices group.id group.owner devices)
      (fun _ reached => Editing world group reached ∧
        (devices.getD [] ≠ [] → reached.cache.groups group.owner = none))
      (fun _ => Editing world group) := by
  cases devices with
  | none => exact triple_pure fun _ h => ⟨h, fun hNe => absurd rfl hNe⟩
  | some devices =>
      refine triple_bind (triple_checkDevices group.owner devices) fun _ => ?_
      exact triple_forEach (triple_unlink world group) devices

/-- An entry that is gone is still gone after further unlinking. -/
theorem triple_unlinkDevices_gone (world : World) (group : DeviceGroupModel)
    (devices : Option (List Id)) :
    Triple (fun reached => Editing world group reached ∧ reached.cache.groups group.owner = none)
      (unlinkDevices group.id group.owner devices)
      (fun _ reached => Editing world group reached ∧ reached.cache.groups group.owner = none)
      (fun _ => Editing world group) := by
  cases devices with
  | none => exact triple_pure fun _ h => h
  | some devices =>
      have hCheck := @triple_checkDevices (fun reached => Editing world group reached ∧
        reached.cache.groups group.owner = none) group.owner devices
      refine triple_bind (triple_weaken hCheck (fun _ h => h) (fun _ _ h => h) fun _ _ h => h.1)
        fun _ => ?_
      have hLoop := triple_forEach (fun device => triple_weaken (triple_unlink world group device)
        (fun _ h => h.1) (fun _ _ h => ⟨h, h.2⟩) fun _ _ h => h) devices
      exact triple_weaken hLoop (fun _ h => h) (fun _ _ h => h.1) fun _ _ h => h

/-- A group that may be edited belongs to the user. -/
theorem editable_ok {groupId userId : Id} (h : editable world groupId userId = .ok group) :
    group ∈ world.rows.groups ∧ group.owner = userId := by
  unfold editable at h
  cases hGroup : world.findGroup groupId with
  | none =>
      rw [hGroup] at h
      cases h
  | some found =>
      simp only [hGroup] at h
      split_ifs at h with hOwner hDefault
      cases h
      exact ⟨List.mem_of_find?_eq_some hGroup, not_not.mp hOwner⟩

/-- The row of a group after a request. -/
def edited (group : DeviceGroupModel) (info : ReqPutDeviceGroup) : DeviceGroupModel :=
  { group with
    name := info.name.getD group.name
    description := info.description.getD group.description }

/-- An edit changes the row by a new name or a new description. -/
theorem edited_ne_iff (group : DeviceGroupModel) (info : ReqPutDeviceGroup) :
    edited group info ≠ group ↔ info.name.getD group.name ≠ group.name ∨
      info.description.getD group.description ≠ group.description := by
  rw [← not_and_or, not_iff_not]
  constructor
  · intro h
    rw [edited, DeviceGroupModel.mk.injEq] at h
    exact ⟨h.2.1, h.2.2.1⟩
  · intro h
    rw [edited, h.1, h.2]

/-- An edit of a group that may be edited, without its check. -/
theorem updateGroup_eq {groupId userId : Id} (hGroup : editable world groupId userId = .ok group)
    (info : ReqPutDeviceGroup) (now : Timestamp) :
    updateGroup groupId userId info now world =
      (do
        linkDevices group.id group.owner info.devices now
        unlinkDevices group.id group.owner info.remove
        updateRow (edited group info) : Service Unit) world := by
  obtain ⟨_, rfl⟩ := editable_ok hGroup
  unfold updateGroup
  rw [get_bind, hGroup]
  rfl

/-- Lists without devices are checked, and that is all. -/
theorem checkDevices_nil (userId : Id) (world : World) :
    checkDevices userId [] world = some (world, .ok ()) := by
  unfold checkDevices
  rw [get_bind]
  simp [DeviceService.queryAllWithIds, pure_apply]

/-- Without devices nothing is linked. -/
theorem linkDevices_nil {devices : Option (List Id)} (hDevices : devices.getD [] = [])
    (groupId userId : Id) (now : Timestamp) (world : World) :
    linkDevices groupId userId devices now world = some (world, .ok ()) := by
  cases devices with
  | none => rfl
  | some devices =>
      rw [Option.getD_some] at hDevices
      subst hDevices
      exact bind_ok (checkDevices_nil userId world)

/-- Without devices nothing is unlinked. -/
theorem unlinkDevices_nil {devices : Option (List Id)} (hDevices : devices.getD [] = [])
    (groupId userId : Id) (world : World) :
    unlinkDevices groupId userId devices world = some (world, .ok ()) := by
  cases devices with
  | none => rfl
  | some devices =>
      rw [Option.getD_some] at hDevices
      subst hDevices
      exact bind_ok (checkDevices_nil userId world)

/-- A row that is updated keeps its number. -/
theorem Numbered.updateRow (hNumbered : Numbered world) {next : DeviceGroupModel} :
    Numbered (world.mapGroups fun row => if row.id = next.id then next else row) := by
  have hIds : ∀ row : DeviceGroupModel, (if row.id = next.id then next else row).id = row.id := by
    intro row
    split_ifs with hId
    · exact hId.symm
    · rfl
  constructor
  · have hRows : (world.mapGroups fun row => if row.id = next.id then next else row).rows.groups =
        world.rows.groups.map fun row => if row.id = next.id then next else row := rfl
    have hMap : world.rows.groups.map ((fun group => group.id) ∘
        fun row => if row.id = next.id then next else row) =
          world.rows.groups.map fun group => group.id := List.map_congr_left fun row _ => hIds row
    rw [hRows, List.map_map, hMap]
    exact hNumbered.distinct
  · intro row hRow
    obtain ⟨before, hBefore, rfl⟩ := List.mem_map.mp hRow
    rw [hIds before]
    exact hNumbered.given before hBefore

/-- The row of a group changes behind an entry exactly if the entry is there. -/
theorem coherent_edited_iff (hNumbered : Numbered world) (hCoherent : Coherent world)
    (hGroup : group ∈ world.rows.groups) (info : ReqPutDeviceGroup) :
    Coherent (world.mapGroups fun row =>
        if row.id = (edited group info).id then edited group info else row) ↔
      (edited group info ≠ group → world.cache.groups group.owner = none) :=
  coherent_updateRow_iff hNumbered hCoherent hGroup rfl rfl

/-- A request that names devices drops the entry of the owner on its way. -/
theorem triple_updateGroup_gone {info : ReqPutDeviceGroup} {now : Timestamp}
    (hTouches : info.devices.getD [] ≠ [] ∨ info.remove.getD [] ≠ []) :
    Triple (Editing world group)
      (do
        linkDevices group.id group.owner info.devices now
        unlinkDevices group.id group.owner info.remove
        updateRow (edited group info) : Service Unit)
      (fun _ final => ∃ reached, Editing world group reached ∧
        reached.cache.groups group.owner = none ∧
          final = reached.mapGroups fun row =>
            if row.id = (edited group info).id then edited group info else row)
      (fun _ => Editing world group) := by
  refine triple_bind (triple_linkDevices world group info.devices now) fun _ => ?_
  have hUnlink : Triple (fun reached => Editing world group reached ∧
        (info.devices.getD [] ≠ [] → reached.cache.groups group.owner = none))
      (unlinkDevices group.id group.owner info.remove)
      (fun _ reached => Editing world group reached ∧ reached.cache.groups group.owner = none)
      (fun _ => Editing world group) := by
    by_cases hLinked : info.devices.getD [] = []
    · exact triple_weaken (triple_unlinkDevices world group info.remove) (fun _ h => h.1)
        (fun _ _ h => ⟨h.1, h.2 (hTouches.resolve_left (not_not_intro hLinked))⟩) fun _ _ h => h
    · exact triple_weaken (triple_unlinkDevices_gone world group info.remove)
        (fun _ h => ⟨h.1, h.2 hLinked⟩) (fun _ _ h => h) fun _ _ h => h
  refine triple_bind hUnlink fun _ => triple_modify fun reached hReached => ?_
  exact ⟨reached, hReached.1, hReached.2, rfl⟩

/-- An edit drops the entry with its links and unlinks only, not with a new name or
description. -/
theorem groupStep_updateGroup (hNumbered : Numbered world) (hCoherent : Coherent world)
    (groupId userId : Id) (info : ReqPutDeviceGroup) (now : Timestamp) :
    Numbered (groupStep world (.updateGroup groupId userId info now)) ∧
      (Coherent (groupStep world (.updateGroup groupId userId info now)) ↔
        NothingStale world (.updateGroup groupId userId info now)) := by
  simp only [NothingStale]
  cases hGroup : editable world groupId userId with
  | error error =>
      have hRun : updateGroup groupId userId info now world = some (world, .error error) := by
        unfold updateGroup
        rw [get_bind, hGroup]
        rfl
      rw [groupStep, after_transaction_error hRun]
      exact ⟨hNumbered, iff_of_true hCoherent nofun⟩
  | ok group =>
      obtain ⟨hMem, rfl⟩ := editable_ok hGroup
      have hEq := updateGroup_eq hGroup info now
      simp only [Except.ok.injEq, forall_eq', ← edited_ne_iff]
      by_cases hTouches : info.devices.getD [] ≠ [] ∨ info.remove.getD [] ≠ []
      · have hVacuous : info.devices.getD [] = [] → info.remove.getD [] = [] →
            edited group info ≠ group → world.cache.groups group.owner = none :=
          fun hLinks hUnlinks => absurd hTouches (by simp [hLinks, hUnlinks])
        have hTriple := @triple_updateGroup_gone world group info now hTouches
        rw [groupStep]
        rcases hRun : updateGroup groupId group.owner info now world with _ | ⟨final, error | _⟩
        · rw [after, transaction, hRun]
          exact ⟨hNumbered, iff_of_true hCoherent hVacuous⟩
        · have hEditing := hTriple.of_error (editing_refl world group) (hEq.symm.trans hRun)
          rw [after_transaction_error hRun]
          exact ⟨hNumbered.of_groups rfl hEditing.sequence,
            iff_of_true (coherent_of_rows hCoherent hEditing.dropped rfl) hVacuous⟩
        · obtain ⟨reached, hEditing, hEntry, rfl⟩ :=
            hTriple.of_ok (editing_refl world group) (hEq.symm.trans hRun)
          have hReached := hNumbered.of_groups hEditing.groups hEditing.sequence
          have hReachedCoherent := hEditing.coherent hNumbered hCoherent hMem hEntry
          have hReachedMem : group ∈ reached.rows.groups := by
            rw [hEditing.groups]
            exact hMem
          rw [after_transaction_ok hRun]
          refine ⟨hReached.updateRow, iff_of_true ?_ hVacuous⟩
          exact (coherent_edited_iff hReached hReachedCoherent hReachedMem info).mpr fun _ => hEntry
      · rw [not_or, not_not, not_not] at hTouches
        have hRun : updateGroup groupId group.owner info now world =
            some (world.mapGroups fun row =>
              if row.id = (edited group info).id then edited group info else row, .ok ()) := by
          rw [hEq, bind_ok (linkDevices_nil hTouches.1 ..),
            bind_ok (unlinkDevices_nil hTouches.2 ..)]
          rfl
        rw [groupStep, after_transaction_ok hRun]
        refine ⟨hNumbered.updateRow, ?_⟩
        rw [coherent_edited_iff hNumbered hCoherent hMem info]
        exact ⟨fun h _ _ => h, fun h => h hTouches.1 hTouches.2⟩

end

/-- One operation keeps the cache coherent exactly if it leaves nothing stale. -/
theorem groupStep_coherent_iff (world : World) (operation : GroupOperation)
    (hNumbered : Numbered world) (hCoherent : Coherent world) :
    Numbered (groupStep world operation) ∧
      (Coherent (groupStep world operation) ↔ NothingStale world operation) := by
  cases operation with
  | createGroup userId group now =>
      obtain ⟨hNext, hStays⟩ := groupStep_createGroup hNumbered hCoherent userId group now
      exact ⟨hNext, iff_of_true hStays trivial⟩
  | updateGroup groupId userId info now =>
      exact groupStep_updateGroup hNumbered hCoherent groupId userId info now
  | deleteOne userId groupId => exact groupStep_deleteOne hNumbered hCoherent userId groupId
  | link group user device now => exact groupStep_link hNumbered hCoherent group user device now
  | linkToDefaultGroup user device now =>
      obtain ⟨hNext, hStays⟩ := groupStep_linkToDefaultGroup hNumbered hCoherent user device now
      exact ⟨hNext, iff_of_true hStays trivial⟩
  | unlink device user group => exact groupStep_unlink hNumbered hCoherent device user group
  | unlinkDeviceAll device => exact groupStep_unlinkDeviceAll hNumbered hCoherent device
  | queryUserDefaultGroup userId now =>
      exact groupStep_queryUserDefaultGroup hNumbered hCoherent userId now
  | selectByGroupId userId groupId =>
      obtain ⟨hNext, hStays⟩ := groupStep_selectByGroupId hNumbered hCoherent userId groupId
      exact ⟨hNext, iff_of_true hStays trivial⟩
  | selectDefaultGroup userId now =>
      obtain ⟨hNext, hStays⟩ := groupStep_selectDefaultGroup hNumbered hCoherent userId now
      exact ⟨hNext, iff_of_true hStays trivial⟩

/-- A request for a group is answered as the tables answer it. -/
def AnswersFromTables (world : World) : Prop :=
  ∀ userId groupId, ∃ after, selectByGroupId userId groupId world =
    some (after, findItem (readGroups world userId) groupId)

/-- From a coherent cache groups are answered as from the tables. -/
theorem Coherent.answers {world : World} (hCoherent : Coherent world) :
    AnswersFromTables world := by
  intro userId groupId
  unfold selectByGroupId
  rw [get_bind]
  cases hItem : (DeviceGroupCache.loadByUserId world userId).bind fun items =>
      items.find? fun item => item.group.id = groupId with
  | some item =>
      obtain ⟨items, hItems, hFound⟩ := Option.bind_eq_some_iff.mp hItem
      have hRead : findItem (readGroups world userId) groupId = .ok item := by
        rw [← hCoherent userId items hItems, findItem, hFound]
      exact ⟨world, by rw [hRead]; rfl⟩
  | none =>
      refine ⟨world.setGroupCache userId (some (readGroups world userId)), ?_⟩
      dsimp only
      cases findItem (readGroups world userId) groupId with
      | error error => rfl
      | ok item => rfl

/-- A server with devices and authorities, and no groups yet. -/
def World.withoutGroups (world : World) : World :=
  { world with
    rows := { world.rows with groups := [], links := [] }
    cache := { world.cache with groups := fun _ => none } }

theorem numbered_withoutGroups (world : World) : Numbered world.withoutGroups where
  distinct := List.nodup_nil
  given := nofun

theorem coherent_withoutGroups (world : World) : Coherent world.withoutGroups := nofun

/-- The cache is coherent throughout a run, and requests are answered as from
the tables, exactly if no operation leaves a stale entry. -/
theorem group_cache_coherent_iff (world : World) (operations : List GroupOperation) :
    Along groupStep (fun world => Coherent world ∧ AnswersFromTables world) world.withoutGroups
        operations ↔
      Meets groupStep NothingStale world.withoutGroups operations := by
  refine along_iff_meets ?_ ?_ _ operations (numbered_withoutGroups world)
    ⟨coherent_withoutGroups world, (coherent_withoutGroups world).answers⟩
  · intro world operation hNumbered hGood _
    exact (groupStep_coherent_iff world operation hNumbered hGood.1).1
  · intro world operation hNumbered hGood
    rw [← (groupStep_coherent_iff world operation hNumbered hGood.1).2]
    exact ⟨fun h => h.1, fun h => ⟨h, h.answers⟩⟩

/-- A group is created, selected and deleted; it is still served. -/
def deletedGroup : List GroupOperation :=
  [.createGroup ⟨5⟩ ⟨"field", ""⟩ ⟨0⟩, .selectByGroupId ⟨5⟩ ⟨1⟩, .deleteOne ⟨5⟩ ⟨1⟩]

theorem group_cache_stale :
    ¬Along groupStep (fun world => Coherent world ∧ AnswersFromTables world)
      World.empty.withoutGroups deletedGroup := by
  intro hAlong
  have hEntry : ((run groupStep World.empty.withoutGroups deletedGroup).cache.groups ⟨5⟩) =
      some [⟨⟨⟨1⟩, "field", "", false, ⟨5⟩, ⟨0⟩⟩, 0⟩] := by decide
  have hRead : readGroups (run groupStep World.empty.withoutGroups deletedGroup) ⟨5⟩ = [] := by
    decide
  have hItems := (hAlong 3).1 ⟨5⟩ _ hEntry
  exact List.cons_ne_nil _ _ (hItems.trans hRead)

end SnapEmu.Server
