import SnapEmu.Server.Effects

/-! Groups belong to their owners: when every member of a group is a member of
its owner, over all runs of requests. -/
namespace SnapEmu.Server

open Device Management Semantics User Action DeviceService DeviceGroupService

/-- What holds of groups, members, devices and entries in every state that
requests reach: the sequences have given all numbers, and an entry names no
group of another user. -/
structure Sound (world : World) : Prop where
  distinct : ((owners world).map Prod.fst).Nodup
  given : ∀ pair ∈ owners world, pair.1.value.toNat < world.sequences.group
  linked : ∀ member ∈ members world, member.2.2.value.toNat < world.sequences.group ∧
    member.2.1.value.toNat < world.sequences.device
  devices : ∀ row ∈ world.rows.devices, row.id.value.toNat < world.sequences.device
  cached : ∀ userId items, world.cache.groups userId = some items → ∀ item ∈ items,
    item.group.id.value.toNat < world.sequences.group ∧
      ∀ pair ∈ owners world, pair.1 = item.group.id → pair.2 = userId

/-- Each link to a group is one of the owner of the group. -/
def Owned (world : World) : Prop :=
  ∀ link ∈ world.rows.links, ∀ group ∈ world.rows.groups, group.id = link.groupId →
    link.userId = group.owner

/-- A creation that goes through lists groups of the user only. -/
def ListsOwn (world : World) : Request → Prop
  | .postDevice env userId req => Succeeds env userId world req →
      ∀ group ∈ listedGroups world userId req.group, ∀ row ∈ world.rows.groups,
        row.id = group → row.owner = userId
  | _ => True

/-- The user of a request that adds or removes members. -/
def Request.editor : Request → Option Id
  | .postDevice _ userId _ | .putGroup userId _ _ _ | .deleteGroupDevice userId _ _ => some userId
  | _ => none

def membersOf (world : World) (groupId : Id) : List (Id × Id × Id) :=
  (members world).filter fun member => member.2.2 = groupId

/-- The request changes no group of another user. -/
def Isolated (world : World) (request : Request) : Prop :=
  ∀ userId ∈ request.editor, ∀ group ∈ world.rows.groups, group.owner ≠ userId →
    membersOf (requestStep world request) group.id = membersOf world group.id

section

variable {world after : World} {fresh : Option (Id × Id)} {added : List (Id × Id × Id)}

/-- Whether links belong to owners is a matter of members and owners. -/
theorem owned_iff : Owned world ↔ ∀ member ∈ members world, ∀ pair ∈ owners world,
    pair.1 = member.2.2 → member.1 = pair.2 := by
  constructor
  · intro h member hMember pair hPair hId
    obtain ⟨link, hLink, rfl⟩ := List.mem_map.mp hMember
    obtain ⟨group, hGroup, rfl⟩ := List.mem_map.mp hPair
    exact h link hLink group hGroup hId
  · intro h link hLink group hGroup hId
    exact h link.member (List.mem_map_of_mem hLink) (group.id, group.owner)
      (List.mem_map_of_mem hGroup) hId

/-- A fresh group has a number that no other group has had. -/
theorem Sound.fresh_ne (h : Sound world) (hChange : Change world after fresh added)
    {pair other : Id × Id} (hPair : pair ∈ fresh) (hOther : other ∈ owners world) :
    other.1 ≠ pair.1 := by
  intro hSame
  have hLess := h.given other hOther
  rw [hSame, (hChange.number pair hPair).1] at hLess
  exact lt_irrefl _ hLess

/-- A change whose members have given numbers keeps the state sound. -/
theorem Sound.change (h : Sound world) (hChange : Change world after fresh added)
    (hAdded : ∀ member ∈ added, member.2.2.value.toNat < after.sequences.group ∧
      member.2.1.value.toNat < after.sequences.device) : Sound after := by
  have hOwners : ∀ pair ∈ owners after, pair ∈ owners world ∨ pair ∈ fresh := by
    intro pair hPair
    exact (List.mem_append.mp (hChange.owners.subset hPair)).imp_right Option.mem_toList.mp
  have hDistinct : ((owners world ++ fresh.toList).map Prod.fst).Nodup := by
    rw [List.map_append, List.nodup_append]
    refine ⟨h.distinct, ?_, ?_⟩
    · cases fresh <;> simp
    · intro id hId other hOther
      obtain ⟨old, hOld, rfl⟩ := List.mem_map.mp hId
      obtain ⟨new, hNew, rfl⟩ := List.mem_map.mp hOther
      exact h.fresh_ne hChange (Option.mem_toList.mp hNew) hOld
  have hAfter := hDistinct.sublist (hChange.owners.map Prod.fst)
  refine ⟨hAfter, ?_, ?_, ?_, ?_⟩
  · intro pair hPair
    rcases hOwners pair hPair with hOld | hNew
    · exact (h.given pair hOld).trans_le hChange.group
    · rw [(hChange.number pair hNew).1]
      exact (hChange.number pair hNew).2
  · intro member hMember
    rcases List.mem_append.mp (hChange.members.subset hMember) with hOld | hNew
    · obtain ⟨hGroup, hDevice⟩ := h.linked member hOld
      exact ⟨hGroup.trans_le hChange.group, hDevice.trans_le hChange.device⟩
    · exact hAdded member hNew
  · intro row hRow
    rcases hChange.devices row hRow with ⟨before, hBefore, hId⟩ | hNew
    · rw [← hId]
      exact (h.devices before hBefore).trans_le hChange.device
    · exact hNew
  · intro userId items hItems item hItem
    rcases hChange.entries userId items hItems with hOld | rfl
    · obtain ⟨hNumber, hOwner⟩ := h.cached userId items hOld item hItem
      refine ⟨hNumber.trans_le hChange.group, fun pair hPair hId => ?_⟩
      rcases hOwners pair hPair with hOld | hNew
      · exact hOwner pair hOld hId
      · rw [← hId, (hChange.number pair hNew).1] at hNumber
        exact absurd hNumber (lt_irrefl _)
    · obtain ⟨group, hGroup, rfl⟩ := List.mem_map.mp hItem
      obtain ⟨hMem, hOwner⟩ := List.mem_filter.mp hGroup
      have hPair : (group.id, group.owner) ∈ owners after := List.mem_map_of_mem hMem
      refine ⟨?_, fun pair hOther hId => ?_⟩
      · rcases hOwners _ hPair with hOld | hNew
        · exact (h.given _ hOld).trans_le hChange.group
        · exact (hChange.number _ hNew).1.trans_lt (hChange.number _ hNew).2
      · rw [List.inj_on_of_nodup_map hAfter hOther hPair hId]
        exact of_decide_eq_true hOwner

theorem Sound.quiet (h : Sound world) (hChange : Change world after fresh []) : Sound after :=
  h.change hChange fun _ hMember => absurd hMember List.not_mem_nil

/-- Owners stay the owners of their members' groups if added members are so. -/
theorem Owned.change (h : Sound world) (hOwned : Owned world)
    (hChange : Change world after fresh added)
    (hAdded : ∀ member ∈ added, ∀ pair ∈ owners world ++ fresh.toList, pair.1 = member.2.2 →
      member.1 = pair.2) : Owned after := by
  rw [owned_iff] at hOwned ⊢
  intro member hMember pair hPair hId
  have hOwner := hChange.owners.subset hPair
  rcases List.mem_append.mp (hChange.members.subset hMember) with hOld | hNew
  · rcases List.mem_append.mp hOwner with hOldPair | hFresh
    · exact hOwned member hOld pair hOldPair hId
    · have hLess := (h.linked member hOld).1
      rw [← hId, (hChange.number pair (Option.mem_toList.mp hFresh)).1] at hLess
      exact absurd hLess (lt_irrefl _)
  · exact hAdded member hNew pair hOwner hId

theorem Owned.quiet (h : Sound world) (hOwned : Owned world)
    (hChange : Change world after fresh []) : Owned after :=
  hOwned.change h hChange fun _ hMember => absurd hMember List.not_mem_nil

/-! The creation of a device. -/

/-- The default group of a user belongs to nobody else. -/
theorem Sound.default (h : Sound world) {userId default : Id}
    (hDefault : defaultGroupId world userId = .ok default) :
    ¬DefaultMissing world userId ∧ default.value.toNat < world.sequences.group ∧
        (∀ pair ∈ owners world, pair.1 = default → pair.2 = userId) ∨
      DefaultMissing world userId ∧ default.value.toNat = world.sequences.group := by
  unfold defaultGroupId at hDefault
  cases hCached : DeviceGroupCache.loadDefaultByUserId world userId with
  | some item =>
      rw [hCached] at hDefault
      cases hDefault
      obtain ⟨items, hItems, hItem⟩ := Option.bind_eq_some_iff.mp hCached
      obtain ⟨hNumber, hOwner⟩ :=
        h.cached userId items hItems item (List.mem_of_find?_eq_some hItem)
      exact .inl ⟨by simp [DefaultMissing, hCached], hNumber, hOwner⟩
  | none =>
      cases hRow : defaultRow world userId with
      | some group =>
          rw [hCached, hRow] at hDefault
          cases hDefault
          have hPair : (group.id, group.owner) ∈ owners world :=
            List.mem_map_of_mem (List.mem_of_find?_eq_some hRow)
          have hOwner := List.find?_some hRow
          refine .inl ⟨by simp [DefaultMissing, hRow], h.given _ hPair, fun pair hOther hId => ?_⟩
          rw [List.inj_on_of_nodup_map h.distinct hOther hPair hId]
          exact (of_decide_eq_true hOwner).1
      | none =>
          rw [hCached, hRow] at hDefault
          exact .inr ⟨⟨hCached, hRow⟩, numbered_ok hDefault⟩

/-- The default group of a creation is one of the user, also afterwards. -/
theorem created_default {userId deviceId default : Id} {groups : List Id}
    (hCreated : Created world userId deviceId groups default fresh after) (h : Sound world) :
    default.value.toNat < after.sequences.group ∧
      ∀ pair ∈ owners world ++ fresh.toList, pair.1 = default → pair.2 = userId := by
  have hChange := hCreated.change
  rcases h.default hCreated.found with ⟨hThere, hNumber, hOwner⟩ | ⟨hMissing, hNumber⟩
  · have hFresh : fresh = none :=
      (hCreated.missing.resolve_right fun hNew => hThere hNew.2).1
    refine ⟨hNumber.trans_le hChange.group, fun pair hPair => ?_⟩
    rw [hFresh, Option.toList_none, List.append_nil] at hPair
    exact hOwner pair hPair
  · have hFresh : fresh = some (default, userId) :=
      (hCreated.missing.resolve_left fun hOld => hOld.2 hMissing).1
    have hNext := hChange.number (default, userId) hFresh
    refine ⟨hNumber.trans_lt hNext.2, fun pair hPair hId => ?_⟩
    rcases List.mem_append.mp hPair with hOld | hNew
    · exact absurd hId (h.fresh_ne hChange hFresh hOld)
    · rw [hFresh, Option.toList_some, List.mem_singleton] at hNew
      rw [hNew]

/-- The groups that a creation links are there afterwards. -/
theorem created_listed {env : Environment} {userId deviceId default : Id} {groups : List Id}
    (hCreated : Created world userId deviceId groups default fresh after) (h : Sound world)
    (hFinishes : Finishes env userId world groups) :
    ∀ group ∈ default :: listedGroups world userId groups,
      group.value.toNat < after.sequences.group := by
  have hDefault := (created_default hCreated h).1
  intro group hGroup
  rcases List.mem_cons.mp hGroup with rfl | hListed
  · exact hDefault
  · rcases hFinishes.known hListed with hThere | ⟨_, hSame⟩
    · obtain ⟨row, hRow⟩ := Option.isSome_iff_exists.mp hThere
      have hId : row.id = group := by simpa using List.find?_some hRow
      have hPair : (row.id, row.owner) ∈ owners world :=
        List.mem_map_of_mem (List.mem_of_find?_eq_some hRow)
      rw [← hId]
      exact (h.given _ hPair).trans_le hCreated.change.group
    · rw [hCreated.found, Except.ok.injEq] at hSame
      rw [← hSame]
      exact hDefault

/-- The device of a creation: the one that is renewed, or the next. -/
def CreatedDevice (world : World) (req : DeviceCreate) (id : Id) (after : World) : Prop :=
  match renews req with
  | some deviceId => id = deviceId ∧ ∃ row ∈ world.rows.devices, row.id = id
  | none => id.value.toNat = world.sequences.device ∧
      world.sequences.device < after.sequences.device

/-- A creation changes no row, or links its device as it says. -/
theorem postDevice_step (world : World) (env : Environment) (userId : Id) (req : DeviceCreate) :
    (Lessened world (requestStep world (.postDevice env userId req)) ∧
        (requestStep world (.postDevice env userId req)).rows = world.rows ∧
          ¬Succeeds env userId world req) ∨
      Succeeds env userId world req ∧ ∃ id default fresh,
        CreatedDevice world req id (requestStep world (.postDevice env userId req)) ∧
          Created world userId id req.group default fresh
            (requestStep world (.postDevice env userId req)) := by
  rw [requestStep]
  rcases postDevice_cases env userId req world with ⟨hNone, hNot⟩ |
    ⟨error, after, hRun, hRows, -, hNot⟩ |
      ⟨error, after, commands, hRun, hRows, -, hCommands, -, hFails⟩ |
        ⟨id, created, after, hRun, hRegistered, hFinished, hSucceeds⟩
  · rw [after_none hNone]
    exact .inl ⟨lessened_refl world, rfl, fun h => hNot h.1⟩
  · rw [after_eq hRun]
    exact .inl ⟨postDevice_failed hRun, hRows, fun h => hNot h.1⟩
  · rw [after_eq hRun]
    refine .inl ⟨postDevice_failed hRun, hRows, fun hSucceeds => hFails ?_⟩
    obtain ⟨_, other, hOther, hCompletes⟩ := hSucceeds
    rwa [Option.mem_unique hCommands hOther]
  · rw [after_eq hRun]
    obtain ⟨default, fresh, hCreated⟩ := hRegistered.created hFinished
    refine .inr ⟨hSucceeds, id, default, fresh, ?_, hCreated⟩
    have hDevice := hRegistered.device
    unfold CreatedDevice
    cases hRenews : renews req with
    | some deviceId =>
        rw [hRenews] at hDevice
        obtain ⟨rfl, -, -, hFound⟩ := hDevice
        obtain ⟨row, hRow⟩ := Option.isSome_iff_exists.mp hFound
        exact ⟨rfl, row, List.mem_of_find?_eq_some hRow, by simpa using List.find?_some hRow⟩
    | none =>
        rw [hRenews] at hDevice
        refine ⟨numbered_ok hDevice.1, ?_⟩
        rw [hFinished.device, hDevice.2.1]
        exact Nat.lt_succ_self _

/-- The state after a creation is sound. -/
theorem created_sound {env : Environment} {userId id default : Id} {req : DeviceCreate}
    (hCreated : Created world userId id req.group default fresh after) (h : Sound world)
    (hDevice : CreatedDevice world req id after)
    (hFinishes : Finishes env userId world req.group) : Sound after := by
  refine h.change hCreated.change fun member hMember => ?_
  obtain ⟨group, hGroup, rfl⟩ := List.mem_map.mp hMember
  refine ⟨created_listed hCreated h hFinishes group hGroup, ?_⟩
  unfold CreatedDevice at hDevice
  cases hRenews : renews req with
  | some deviceId =>
      rw [hRenews] at hDevice
      obtain ⟨-, row, hRow, rfl⟩ := hDevice
      exact (h.devices row hRow).trans_le hCreated.change.device
  | none =>
      rw [hRenews] at hDevice
      exact hDevice.1.trans_lt hDevice.2

/-- After a creation links belong to owners exactly if all listed groups do. -/
theorem created_owned_iff {userId id default : Id} {groups : List Id}
    (hCreated : Created world userId id groups default fresh after) (h : Sound world)
    (hOwned : Owned world) :
    Owned after ↔ ∀ group ∈ listedGroups world userId groups, ∀ row ∈ world.rows.groups,
      row.id = group → row.owner = userId := by
  obtain ⟨-, hDefault⟩ := created_default hCreated h
  constructor
  · intro hAfter group hGroup row hRow hId
    rw [owned_iff] at hAfter
    have hMember : (userId, id, group) ∈ members after := by
      rw [hCreated.members]
      exact List.mem_append_right _ (List.mem_map_of_mem (List.mem_cons_of_mem default hGroup))
    have hPair : (row.id, row.owner) ∈ owners after := by
      rw [hCreated.owners]
      exact List.mem_append_left _ (List.mem_map_of_mem hRow)
    exact (hAfter _ hMember _ hPair hId).symm
  · intro hListed
    refine hOwned.change h hCreated.change fun member hMember pair hPair hId => ?_
    obtain ⟨group, hGroup, rfl⟩ := List.mem_map.mp hMember
    rcases List.mem_cons.mp hGroup with rfl | hGroup
    · exact (hDefault pair hPair hId).symm
    · rcases List.mem_append.mp hPair with hOld | hNew
      · obtain ⟨row, hRow, rfl⟩ := List.mem_map.mp hOld
        exact (hListed group hGroup row hRow hId).symm
      · rcases hCreated.missing with ⟨rfl, -⟩ | ⟨rfl, -⟩
        · exact absurd hNew List.not_mem_nil
        · rw [Option.toList_some, List.mem_singleton] at hNew
          rw [hNew]

/-! The change of a group, and all requests. -/

/-- The number of a group has been given. -/
theorem Sound.number_lt (h : Sound world) {row : DeviceGroupModel}
    (hRow : row ∈ world.rows.groups) :
    row.id.value.toNat < world.sequences.group :=
  h.given (row.id, row.owner) (List.mem_map_of_mem hRow)

/-- The members that are added belong to a group of the user. -/
theorem Sound.edited (h : Sound world) {userId groupId : Id} {info : ReqPutDeviceGroup}
    {group : DeviceGroupModel} (hEdits : Edits world userId groupId info group)
    (hEdited : Edited world userId groupId info after) : Sound after := by
  obtain ⟨hMem, -⟩ := editable_ok hEdits.found
  obtain ⟨-, rfl⟩ := editable_found hEdits.found
  refine h.change hEdited.change fun member hMember => ?_
  obtain ⟨id, hId, rfl⟩ := List.mem_map.mp hMember
  obtain ⟨found, hFound, rfl⟩ := hEdits.devices id hId
  rw [hEdited.group, hEdited.device]
  exact ⟨h.number_lt hMem, h.devices _ (mem_queryAllWithAuth hFound).1⟩

/-- The owner of a group that is edited is the user. -/
theorem Sound.edits_owner (h : Sound world) {userId groupId : Id} {info : ReqPutDeviceGroup}
    {group : DeviceGroupModel} (hEdits : Edits world userId groupId info group) :
    ∀ pair ∈ owners world, pair.1 = groupId → pair.2 = userId := by
  obtain ⟨hMem, hOwner⟩ := editable_ok hEdits.found
  obtain ⟨-, hId⟩ := editable_found hEdits.found
  intro pair hPair hSame
  rw [List.inj_on_of_nodup_map h.distinct hPair (List.mem_map_of_mem hMem) (hSame.trans hId.symm)]
  exact hOwner

/-- An edit of an owned group adds members of its owner. -/
theorem Owned.edited (hOwned : Owned world) (h : Sound world) {userId groupId : Id}
    {info : ReqPutDeviceGroup} {group : DeviceGroupModel}
    (hEdits : Edits world userId groupId info group)
    (hEdited : Edited world userId groupId info after) : Owned after := by
  refine hOwned.change h hEdited.change fun member hMember pair hPair hId => ?_
  obtain ⟨id, -, rfl⟩ := List.mem_map.mp hMember
  rw [Option.toList_none, List.append_nil] at hPair
  exact (h.edits_owner hEdits pair hPair hId).symm

/-- Each request keeps the state sound. -/
theorem sound_step (h : Sound world) (request : Request) : Sound (requestStep world request) := by
  cases hAdds : request.adds with
  | false =>
      obtain ⟨fresh, hChange⟩ := quiet_change world hAdds
      exact h.quiet hChange
  | true =>
      cases request with
      | postDevice env userId req =>
          rcases postDevice_step world env userId req with
            ⟨hLess, -, -⟩ | ⟨hSucceeds, id, default, fresh, hDevice, hCreated⟩
          · exact h.quiet hLess.change
          · exact created_sound hCreated h hDevice hSucceeds.finishes
      | putGroup userId groupId info now =>
          rcases putGroup_step h.distinct userId groupId info now with
            ⟨hLess, -, -⟩ | ⟨group, hEdits, hEdited⟩
          · exact h.quiet hLess.change
          · exact h.edited hEdits hEdited
      | _ => cases hAdds

/-- A request keeps links with owners exactly if what it lists belongs to its user. -/
theorem owned_step_iff (h : Sound world) (hOwned : Owned world) (request : Request) :
    Owned (requestStep world request) ↔ ListsOwn world request := by
  cases hAdds : request.adds with
  | false =>
      obtain ⟨fresh, hChange⟩ := quiet_change world hAdds
      refine iff_of_true (hOwned.quiet h hChange) ?_
      cases request with
      | postDevice env userId req => cases hAdds
      | _ => exact trivial
  | true =>
      cases request with
      | postDevice env userId req =>
          rcases postDevice_step world env userId req with
            ⟨hLess, -, hFails⟩ | ⟨hSucceeds, id, default, fresh, -, hCreated⟩
          · exact iff_of_true (hOwned.quiet h hLess.change) fun hNot => absurd hNot hFails
          · rw [created_owned_iff hCreated h hOwned]
            exact ⟨fun hListed _ => hListed, fun hListed => hListed hSucceeds⟩
      | putGroup userId groupId info now =>
          rcases putGroup_step h.distinct userId groupId info now with
            ⟨hLess, -, -⟩ | ⟨group, hEdits, hEdited⟩
          · exact iff_of_true (hOwned.quiet h hLess.change) trivial
          · exact iff_of_true (hOwned.edited h hEdits hEdited) trivial
      | _ => cases hAdds

theorem membersOf_of_rows (hRows : after.rows = world.rows) (groupId : Id) :
    membersOf after groupId = membersOf world groupId := by
  rw [membersOf, membersOf, members, members, hRows]

/-- Members of other groups do not count. -/
theorem filter_group_append (old added : List (Id × Id × Id)) {groupId : Id}
    (hAdded : ∀ member ∈ added, member.2.2 ≠ groupId) :
    (old ++ added).filter (fun member => member.2.2 = groupId) =
      old.filter fun member => member.2.2 = groupId := by
  have hNone : added.filter (fun member => member.2.2 = groupId) = [] :=
    List.filter_eq_nil_iff.mpr fun member hMember hGroup =>
      hAdded member hMember (of_decide_eq_true hGroup)
  rw [List.filter_append, hNone, List.append_nil]

/-- Removals in one group are not seen in another. -/
theorem filter_group_remaining (members : List (Id × Id × Id)) {userId groupId group : Id}
    (removed : List Id)
    (hKept : ∀ member ∈ members, member.2.2 = group → member.1 = userId → group ≠ groupId) :
    (members.filter (remaining userId groupId removed)).filter (fun member => member.2.2 = group) =
      members.filter fun member => member.2.2 = group := by
  rw [List.filter_filter]
  refine List.filter_congr fun member hMember => ?_
  by_cases hGroup : member.2.2 = group
  · have hRemains : remaining userId groupId removed member = true := by
      refine decide_eq_true fun hGone => ?_
      exact hKept member hMember hGroup hGone.1 (hGroup.symm.trans hGone.2.1)
    rw [hRemains, Bool.and_true]
  · simp [hGroup]

/-- A request touches the members of groups of its user only. -/
theorem isolated_step (h : Sound world) (hOwned : Owned world) {request : Request}
    (hLists : ListsOwn world request) : Isolated world request := by
  intro userId hEditor group hGroup hOther
  have hPair : (group.id, group.owner) ∈ owners world := List.mem_map_of_mem hGroup
  cases request with
  | postDevice env user req =>
      cases hEditor
      rcases postDevice_step world env userId req with
        ⟨-, hRows, -⟩ | ⟨hSucceeds, id, default, fresh, -, hCreated⟩
      · exact membersOf_of_rows hRows group.id
      · rw [membersOf, hCreated.members]
        refine filter_group_append _ _ fun member hMember hSame => ?_
        obtain ⟨listed, hListed, rfl⟩ := List.mem_map.mp hMember
        rcases List.mem_cons.mp hListed with rfl | hListed
        · have hOwner := (created_default hCreated h).2 _ (List.mem_append_left _ hPair)
          exact hOther (hOwner hSame.symm)
        · exact hOther (hLists hSucceeds listed hListed group hGroup hSame.symm)
  | putGroup user groupId info now =>
      cases hEditor
      rcases putGroup_step h.distinct userId groupId info now with
        ⟨-, hRows, -⟩ | ⟨edited, hEdits, hEdited⟩
      · exact membersOf_of_rows hRows group.id
      · have hNe : groupId ≠ group.id :=
          fun hSame => hOther (h.edits_owner hEdits _ hPair hSame.symm)
        rw [membersOf, hEdited.members, filter_group_remaining, filter_group_append]
        · rfl
        · intro member hMember
          obtain ⟨id, -, rfl⟩ := List.mem_map.mp hMember
          exact hNe
        · exact fun _ _ _ _ => hNe.symm
  | deleteGroupDevice user groupId deviceId =>
      cases hEditor
      obtain ⟨after, hRun, -, hMembers⟩ := unlink_members deviceId userId groupId world
      rw [requestStep, after_eq hRun, membersOf, hMembers, filter_group_remaining]
      · rfl
      · intro member hMember hSame hUser
        exact absurd ((owned_iff.mp hOwned member hMember _ hPair hSame.symm).symm.trans hUser)
          hOther
  | _ => cases hEditor

end

/-- The empty server has no rows, so that all numbers are free. -/
theorem sound_empty : Sound World.empty where
  distinct := List.nodup_nil
  given := fun _ hPair => absurd hPair List.not_mem_nil
  linked := fun _ hMember => absurd hMember List.not_mem_nil
  devices := fun _ hRow => absurd hRow List.not_mem_nil
  cached := nofun

theorem owned_empty : Owned World.empty := fun _ hLink => absurd hLink List.not_mem_nil

/-- From an empty server on, every link is one of the owner of its group and no
request changes a group of another user, exactly if no creation lists such a
group. -/
theorem group_ownership_iff (requests : List Request) :
    (Along requestStep Owned World.empty requests ∧
        Meets requestStep Isolated World.empty requests) ↔
      Meets requestStep ListsOwn World.empty requests := by
  have hAlong := @along_iff_meets _ _ requestStep ListsOwn Sound Owned
    (fun _ request h _ _ => sound_step h request)
    (fun _ request h hOwned => owned_step_iff h hOwned request)
    World.empty requests sound_empty owned_empty
  constructor
  · exact fun h => hAlong.mp h.1
  · intro h
    refine ⟨hAlong.mpr h, ?_⟩
    refine @meets_imp _ _ requestStep ListsOwn (fun world => Sound world ∧ Owned world) Isolated
      (fun world request hWorld hLists => ⟨sound_step hWorld.1 request,
        (owned_step_iff hWorld.1 hWorld.2 request).mpr hLists⟩)
      (fun world request hWorld hLists => isolated_step hWorld.1 hWorld.2 hLists)
      World.empty requests ⟨sound_empty, owned_empty⟩ h

/-- User 5 has a group, and user 6 lists it for a new device. -/
def foreignGroup : List Request :=
  [.postGroup ⟨5⟩ ⟨"field", ""⟩ ⟨0⟩, .postDevice quietEnvironment ⟨6⟩ (fieldRequest [⟨1⟩])]

/-- User 6 becomes a member of the group of user 5. -/
theorem foreign_group_linked :
    ¬(Along requestStep Owned World.empty foreignGroup ∧
      Meets requestStep Isolated World.empty foreignGroup) := by
  rintro ⟨hOwned, -⟩
  have hLink : (run requestStep World.empty foreignGroup).rows.links.any (fun link =>
      link.userId = ⟨6⟩ ∧ link.groupId = ⟨1⟩) = true := by decide +kernel
  have hGroup : (run requestStep World.empty foreignGroup).rows.groups.any (fun group =>
      group.owner = ⟨5⟩ ∧ group.id = ⟨1⟩) = true := by decide +kernel
  obtain ⟨link, hMem, hSame⟩ := List.any_eq_true.mp hLink
  obtain ⟨group, hGroupMem, hSameGroup⟩ := List.any_eq_true.mp hGroup
  obtain ⟨hUser, hId⟩ := of_decide_eq_true hSame
  obtain ⟨hOwner, hGroupId⟩ := of_decide_eq_true hSameGroup
  have hEqual := hOwned 2 link hMem group hGroupMem (hGroupId.trans hId.symm)
  rw [hUser, hOwner] at hEqual
  revert hEqual
  decide

end SnapEmu.Server
