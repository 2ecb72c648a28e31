import SnapEmu.Server.Ownership

/-! The members of a group as a set: when a device is in a group at most once,
over all runs of requests. -/
namespace SnapEmu.Server

open Device Management Semantics User Action DeviceService DeviceGroupService

/-- There is at most one link for a user, a device and a group. -/
def Single (world : World) : Prop := (members world).Nodup

/-- The groups that a creation links are different, and a device that is renewed
is in none of them. -/
def LinksOnce (world : World) (userId : Id) (req : DeviceCreate) (default : Id) : Prop :=
  (default :: listedGroups world userId req.group).Nodup ∧
    ∀ deviceId ∈ renews req, ∀ group ∈ default :: listedGroups world userId req.group,
      (userId, deviceId, group) ∉ members world

/-- The devices that a change of a group adds and does not remove again. -/
def keptDevices (info : ReqPutDeviceGroup) : List Id :=
  (info.devices.getD []).filter fun id => id ∉ info.remove.getD []

/-- The kept devices are different, and none is in the group. -/
def EditsOnce (world : World) (userId groupId : Id) (info : ReqPutDeviceGroup) : Prop :=
  (keptDevices info).Nodup ∧ ∀ id ∈ keptDevices info, (userId, id, groupId) ∉ members world

/-- A request that goes through adds no member twice and none that is there. -/
def AddsOnce (world : World) : Request → Prop
  | .postDevice env userId req => Succeeds env userId world req →
      ∀ default, defaultGroupId world userId = .ok default → LinksOnce world userId req default
  | .putGroup userId groupId info _ =>
      (∃ group, Edits world userId groupId info group) → EditsOnce world userId groupId info
  | _ => True

section

variable {world after : World} {fresh : Option (Id × Id)}

/-- A change without members leaves each member once. -/
theorem Single.quiet (h : Single world) (hChange : Change world after fresh []) :
    Single after := by
  have hMembers := hChange.members
  rw [List.append_nil] at hMembers
  exact h.sublist hMembers

/-- New members keep members single exactly if they are so and none is there. -/
theorem nodup_append_iff {old added : List (Id × Id × Id)} (hOld : old.Nodup) :
    (old ++ added).Nodup ↔ added.Nodup ∧ ∀ member ∈ added, member ∉ old := by
  rw [List.nodup_append]
  constructor
  · rintro ⟨-, hAdded, hDisjoint⟩
    exact ⟨hAdded, fun member hMember hMem => hDisjoint member hMem member hMember rfl⟩
  · rintro ⟨hAdded, hDisjoint⟩
    refine ⟨hOld, hAdded, fun member hMem other hOther hSame => ?_⟩
    exact hDisjoint other hOther (hSame ▸ hMem)

/-- A creation links pairwise different groups. -/
theorem linkedMembers_nodup_iff {userId deviceId default : Id} {listed : List Id} :
    (linkedMembers userId deviceId default listed).Nodup ↔ (default :: listed).Nodup := by
  refine List.nodup_map_iff fun group other hSame => ?_
  cases hSame
  rfl

/-- The next device is in no group yet. -/
theorem Sound.next_unlinked (h : Sound world) {userId deviceId group : Id}
    (hNext : deviceId.value.toNat = world.sequences.device) :
    (userId, deviceId, group) ∉ members world := by
  intro hMember
  have hLess := (h.linked _ hMember).2
  rw [← hNext] at hLess
  exact lt_irrefl _ hLess

/-- After a creation each member is there once exactly if it links none twice. -/
theorem created_single_iff {userId id default : Id} {req : DeviceCreate}
    (hCreated : Created world userId id req.group default fresh after) (h : Sound world)
    (hSingle : Single world) (hDevice : CreatedDevice world req id after) :
    Single after ↔ LinksOnce world userId req default := by
  have hMembers : ∀ deviceId,
      (∀ member ∈ linkedMembers userId deviceId default (listedGroups world userId req.group),
        member ∉ members world) ↔
      ∀ group ∈ default :: listedGroups world userId req.group,
        (userId, deviceId, group) ∉ members world := fun deviceId => List.forall_mem_map
  rw [Single, hCreated.members, nodup_append_iff hSingle, linkedMembers_nodup_iff, LinksOnce,
    hMembers]
  unfold CreatedDevice at hDevice
  cases hRenews : renews req with
  | some deviceId =>
      rw [hRenews] at hDevice
      obtain ⟨rfl, -⟩ := hDevice
      simp
  | none =>
      rw [hRenews] at hDevice
      refine and_congr_right fun _ => iff_of_true ?_ nofun
      exact fun group _ => h.next_unlinked hDevice.1

/-- The members of an edit that are not removed again. -/
theorem filter_newMembers (userId groupId : Id) (info : ReqPutDeviceGroup) :
    (newMembers userId groupId info).filter (remaining userId groupId (info.remove.getD [])) =
      (keptDevices info).map fun id => (userId, id, groupId) := by
  rw [newMembers, List.filter_map, keptDevices]
  refine congrArg (List.map _) (List.filter_congr fun id _ => ?_)
  simp [remaining]

/-- After an edit each member is there once exactly if it adds none twice. -/
theorem edited_single_iff {userId groupId : Id} {info : ReqPutDeviceGroup}
    (hEdited : Edited world userId groupId info after) (hSingle : Single world) :
    Single after ↔ EditsOnce world userId groupId info := by
  have hMembers : members after =
      (members world).filter (remaining userId groupId (info.remove.getD [])) ++
        (keptDevices info).map fun id => (userId, id, groupId) := by
    rw [hEdited.members, List.filter_append, ← filter_newMembers]
    rfl
  have hInjective : Function.Injective fun id : Id => (userId, id, groupId) := by
    intro id other hSame
    cases hSame
    rfl
  rw [Single, hMembers, nodup_append_iff (hSingle.filter _), List.nodup_map_iff hInjective,
    List.forall_mem_map, EditsOnce]
  refine and_congr_right fun _ => forall₂_congr fun id hId => not_congr ?_
  have hKept := of_decide_eq_true (List.mem_filter.mp hId).2
  rw [List.mem_filter]
  exact and_iff_left (by simp [remaining, hKept])

/-- A request leaves each member once exactly if it adds each once. -/
theorem single_step_iff (h : Sound world) (hSingle : Single world) (request : Request) :
    Single (requestStep world request) ↔ AddsOnce world request := by
  cases hAdds : request.adds with
  | false =>
      obtain ⟨fresh, hChange⟩ := quiet_change world hAdds
      refine iff_of_true (hSingle.quiet hChange) ?_
      cases request with
      | postDevice env userId req => cases hAdds
      | putGroup userId groupId info now => cases hAdds
      | _ => exact trivial
  | true =>
      cases request with
      | postDevice env userId req =>
          rcases postDevice_step world env userId req with
            ⟨hLess, -, hFails⟩ | ⟨hSucceeds, id, default, fresh, hDevice, hCreated⟩
          · exact iff_of_true (hSingle.quiet hLess.change) fun hNot => absurd hNot hFails
          · rw [created_single_iff hCreated h hSingle hDevice]
            constructor
            · intro hLinks _ other hOther
              rw [← Except.ok.inj (hCreated.found.symm.trans hOther)]
              exact hLinks
            · exact fun hAdds => hAdds hSucceeds default hCreated.found
      | putGroup userId groupId info now =>
          rcases putGroup_step h.distinct userId groupId info now with
            ⟨hLess, -, hFails⟩ | ⟨group, hEdits, hEdited⟩
          · exact iff_of_true (hSingle.quiet hLess.change) fun hNot => absurd hNot hFails
          · rw [edited_single_iff hEdited hSingle]
            exact ⟨fun hOnce _ => hOnce, fun hAdds => hAdds ⟨group, hEdits⟩⟩
      | _ => cases hAdds

end

theorem single_empty : Single World.empty := List.nodup_nil

/-- From an empty server on, no device is in a group of a user twice, exactly if
each request adds each member once and only where it is not one. -/
theorem group_membership_iff (requests : List Request) :
    Along requestStep Single World.empty requests ↔
      Meets requestStep AddsOnce World.empty requests :=
  @along_iff_meets _ _ requestStep AddsOnce Sound Single
    (fun _ request h _ _ => sound_step h request)
    (fun _ request h hSingle => single_step_iff h hSingle request)
    World.empty requests sound_empty single_empty

/-- User 5 puts device 1 into group 2, and lists it twice. -/
def repeatedMember : List Request :=
  [.postDevice quietEnvironment ⟨5⟩ (smallRequest .MQTT), .postGroup ⟨5⟩ ⟨"field", ""⟩ ⟨0⟩,
    .putGroup ⟨5⟩ ⟨2⟩ ⟨some [⟨1⟩, ⟨1⟩], none, none, none⟩ ⟨0⟩]

/-- A device that is listed twice is a member twice. -/
theorem repeated_member_linked : ¬Along requestStep Single World.empty repeatedMember := by
  intro hSingle
  have hTwice :
      (members (run requestStep World.empty repeatedMember)).count (⟨5⟩, ⟨1⟩, ⟨2⟩) = 2 := by
    decide +kernel
  have hOnce := List.nodup_iff_count_le_one.mp (hSingle 3) (⟨5⟩, ⟨1⟩, ⟨2⟩)
  change (members (run requestStep World.empty repeatedMember)).count (⟨5⟩, ⟨1⟩, ⟨2⟩) ≤ 1 at hOnce
  omega

end SnapEmu.Server
