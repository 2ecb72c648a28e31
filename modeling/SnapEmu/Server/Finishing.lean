import SnapEmu.Server.Creation
import SnapEmu.Server.Invalidation

/-! What follows the record of a new device: the links to its groups and the
authority. Each succeeds or fails by the tables before. -/
namespace SnapEmu.Server

open Device Management Semantics User Action DeviceService DeviceGroupService

/-- Who has which device in which group. -/
def DeviceMapGroupModel.member (link : DeviceMapGroupModel) : Id × Id × Id :=
  (link.userId, link.deviceId, link.groupId)

/-- The user has no default group, cached or in the table. -/
def DefaultMissing (world : World) (userId : Id) : Prop :=
  DeviceGroupCache.loadDefaultByUserId world userId = none ∧ defaultRow world userId = none

/-- The number of the default group, which may be the next of its table. -/
def defaultGroupId (world : World) (userId : Id) : Except ApiError Id :=
  match DeviceGroupCache.loadDefaultByUserId world userId with
  | some item => .ok item.group.id
  | none =>
      match defaultRow world userId with
      | some group => .ok group.id
      | none => numbered world.sequences.group

/-- A group with the number is there, at the latest once the default group is. -/
def KnownGroup (world : World) (userId group : Id) : Prop :=
  (world.findGroup group).isSome ∨
    DefaultMissing world userId ∧ defaultGroupId world userId = .ok group

/-- The link to the default group has the number of that group. -/
def skips (world : World) (userId : Id) : Bool :=
  match defaultGroupId world userId, numbered world.sequences.link with
  | .ok default, .ok number => default = number
  | _, _ => false

/-- The listed groups that a creation links besides the default group. -/
def listedGroups (world : World) (userId : Id) (groups : List Id) : List Id :=
  if skips world userId then [] else groups

/-- There is a number for the authority, and no row has it. -/
def AuthorityFree (world : World) : Prop :=
  world.sequences.authority < 2 ^ 63 ∧
    ∀ row ∈ world.rows.authorities, row.id.value.toNat ≠ world.sequences.authority

/-- The default group is found or inserted, and the entry of the user dropped. -/
structure DropsEntry (env : Environment) (userId : Id) (world : World) : Prop where
  queried : defaultAnswer env world userId = .ok ()
  default : ∃ id, defaultGroupId world userId = .ok id
  dropped : env.answer .dropGroups = .ok ()

/-- The statements that link a listed group are answered. -/
structure LinkAnswered (env : Environment) (position : Nat) : Prop where
  found : env.answer (.findGroup position) = .ok ()
  dropped : env.answer (.dropGroupsOf position) = .ok ()
  linked : env.answer (.link position) = .ok ()

/-- All statements after the record succeed: there are numbers for what is
inserted, and the groups that are linked are known. -/
structure Finishes (env : Environment) (userId : Id) (world : World) (groups : List Id) : Prop
    extends DropsEntry env userId world where
  linkDefault : env.answer .linkDefault = .ok ()
  links : world.sequences.link + (listedGroups world userId groups).length < 2 ^ 63
  listed : ∀ listed ∈ (listedGroups world userId groups).zipIdx,
    KnownGroup world userId listed.1 ∧ LinkAnswered env listed.2
  authority : AuthorityFree world
  answered : env.answer .authority = .ok ()

/-- The groups that a creation links are known. -/
theorem Finishes.known {env : Environment} {userId : Id} {world : World} {groups : List Id}
    (h : Finishes env userId world groups) {group : Id}
    (hGroup : group ∈ listedGroups world userId groups) : KnownGroup world userId group := by
  rw [← List.zipIdx_map_fst 0 (listedGroups world userId groups)] at hGroup
  obtain ⟨listed, hListed, rfl⟩ := List.mem_map.mp hGroup
  exact (h.listed listed hListed).1

/-- A state in which the default group is found. -/
def FoundDefault (world : World) (userId : Id) (default : DeviceGroupModel) (found : World) :
    Prop :=
  ¬DefaultMissing world userId ∧ found = world ∨
    DefaultMissing world userId ∧ default.owner = userId ∧ found = world.addGroup default

section

variable {world : World} {userId deviceId : Id}

/-- The default group is found or inserted, or there is no number for it. -/
theorem queryUserDefaultGroup_cases (world : World) (userId : Id) (now : Timestamp) :
    (∃ error, defaultGroupId world userId = .error error ∧
      queryUserDefaultGroup userId now world = some (world, .error error)) ∨
      ∃ group found, defaultGroupId world userId = .ok group.id ∧
        queryUserDefaultGroup userId now world = some (found, .ok group) ∧
          FoundDefault world userId group found := by
  unfold queryUserDefaultGroup defaultGroupId
  rw [get_bind]
  cases hCached : DeviceGroupCache.loadDefaultByUserId world userId with
  | some item =>
      have hFound : ¬DefaultMissing world userId := by simp [DefaultMissing, hCached]
      exact .inr ⟨item.group, world, rfl, rfl, .inl ⟨hFound, rfl⟩⟩
  | none =>
      cases hRow : defaultRow world userId with
      | some group =>
          have hFound : ¬DefaultMissing world userId := by simp [DefaultMissing, hRow]
          exact .inr ⟨group, world, rfl, rfl, .inl ⟨hFound, rfl⟩⟩
      | none =>
          dsimp only
          cases hNumber : numbered world.sequences.group with
          | error error => exact .inl ⟨error, rfl, insertGroup_error hNumber⟩
          | ok id =>
              exact .inr ⟨_, _, rfl, insertGroup_ok hNumber, .inr ⟨⟨hCached, hRow⟩, rfl, rfl⟩⟩

section

variable {default : DeviceGroupModel} {found : World}

theorem FoundDefault.cache (h : FoundDefault world userId default found) :
    found.cache = world.cache := by
  rcases h with ⟨_, rfl⟩ | ⟨_, _, rfl⟩ <;> rfl

theorem FoundDefault.link (h : FoundDefault world userId default found) :
    found.sequences.link = world.sequences.link := by
  rcases h with ⟨_, rfl⟩ | ⟨_, _, rfl⟩ <;> rfl

theorem FoundDefault.links (h : FoundDefault world userId default found) :
    found.rows.links = world.rows.links := by
  rcases h with ⟨_, rfl⟩ | ⟨_, _, rfl⟩ <;> rfl

end

/-- The query of a default group that is known. -/
theorem queryUserDefaultGroup_found {group : Id} (h : defaultGroupId world userId = .ok group)
    (now : Timestamp) :
    ∃ default found, group = default.id ∧
      queryUserDefaultGroup userId now world = some (found, .ok default) ∧
        FoundDefault world userId default found := by
  rcases queryUserDefaultGroup_cases world userId now with
    ⟨error, hError, _⟩ | ⟨default, found, hDefault, hQuery, hFound⟩
  · rw [h] at hError
    cases hError
  · exact ⟨default, found, Except.ok.inj (h.symm.trans hDefault), hQuery, hFound⟩

/-- An entry that is not there may be dropped. -/
theorem setGroupCache_none (h : world.cache.groups userId = none) :
    world.setGroupCache userId none = world := by
  have hSame : Function.update world.cache.groups userId none = world.cache.groups :=
    (congrArg (Function.update world.cache.groups userId) h.symm).trans
      (Function.update_eq_self userId _)
  unfold World.setGroupCache
  rw [hSame]

/-- The rows of links with some members at the end, and what is left alone. -/
structure Linked (members : List (Id × Id × Id)) (world after : World) : Prop where
  groups : after.rows.groups = world.rows.groups
  links : ∃ added, after.rows.links = world.rows.links ++ added ∧
    added.map DeviceMapGroupModel.member = members
  devices : after.rows.devices = world.rows.devices
  authorities : after.rows.authorities = world.rows.authorities
  cache : after.cache = world.cache
  group : after.sequences.group = world.sequences.group
  link : after.sequences.link = world.sequences.link + members.length
  device : after.sequences.device = world.sequences.device
  authority : after.sequences.authority = world.sequences.authority

theorem linked_refl (world : World) : Linked [] world world :=
  ⟨rfl, ⟨[], by simp, rfl⟩, rfl, rfl, rfl, rfl, rfl, rfl, rfl⟩

theorem linked_addLink (world : World) {link : DeviceMapGroupModel} {member : Id × Id × Id}
    (hMember : link.member = member) : Linked [member] world (world.addLink link) :=
  ⟨rfl, ⟨[link], rfl, by rw [List.map_singleton, hMember]⟩, rfl, rfl, rfl, rfl, rfl, rfl, rfl⟩

/-- Links that are added one after another. -/
theorem Linked.trans {first second : List (Id × Id × Id)} {middle after : World}
    (h : Linked first world middle) (hNext : Linked second middle after) :
    Linked (first ++ second) world after := by
  obtain ⟨added, hAdded, hFirst⟩ := h.links
  obtain ⟨more, hMore, hSecond⟩ := hNext.links
  exact
    { groups := hNext.groups.trans h.groups
      links := ⟨added ++ more, by rw [hMore, hAdded, List.append_assoc],
        by rw [List.map_append, hFirst, hSecond]⟩
      devices := hNext.devices.trans h.devices
      authorities := hNext.authorities.trans h.authorities
      cache := hNext.cache.trans h.cache
      group := hNext.group.trans h.group
      link := by rw [hNext.link, h.link, List.length_append, Nat.add_assoc]
      device := hNext.device.trans h.device
      authority := hNext.authority.trans h.authority }

/-- Links to groups that exist, one after another. -/
def EachKnown (env : Environment) (world : World) (groups : List (Id × Nat)) : Prop :=
  world.sequences.link + groups.length ≤ 2 ^ 63 ∧
    ∀ listed ∈ groups, (world.findGroup listed.1).isSome ∧ LinkAnswered env listed.2

/-- A link to one group does not matter to the groups after it. -/
theorem eachKnown_cons {env : Environment} {after : World} {group : Id × Nat}
    {groups : List (Id × Nat)} {member : Id × Id × Id} (h : Linked [member] world after) :
    EachKnown env world (group :: groups) ↔
      ((world.findGroup group.1).isSome ∧ LinkAnswered env group.2) ∧
        EachKnown env after groups := by
  have hFind : ∀ other, after.findGroup other = world.findGroup other := fun other => by
    rw [World.findGroup, World.findGroup, h.groups]
  have hRoom : after.sequences.link + groups.length ≤ 2 ^ 63 ↔
      world.sequences.link + (group :: groups).length ≤ 2 ^ 63 := by
    have hNext : after.sequences.link = world.sequences.link + 1 := h.link
    rw [hNext, List.length_cons]
    omega
  unfold EachKnown
  rw [hRoom, List.forall_mem_cons]
  simp only [hFind]
  exact and_left_comm

/-- One link, once the entry of the user is gone. -/
theorem linkAnswered_cases (env : Environment) (deviceId : Id) (group : Id × Nat)
    (hEntry : world.cache.groups userId = none) :
    (∃ error after, linkAnswered env userId deviceId group world = some (after, .error error) ∧
      after.cache = world.cache ∧ ¬(world.sequences.link < 2 ^ 63 ∧
        (world.findGroup group.1).isSome ∧ LinkAnswered env group.2)) ∨
      ∃ after, linkAnswered env userId deviceId group world = some (after, .ok ()) ∧
        Linked [(userId, deviceId, group.1)] world after ∧ world.sequences.link < 2 ^ 63 ∧
          (world.findGroup group.1).isSome ∧ LinkAnswered env group.2 := by
  unfold linkAnswered
  rcases except_cases (env.answer (.findGroup group.2)) with ⟨error, hFound⟩ | ⟨_, hFound⟩
  · refine .inl ⟨error, world, bind_error (ofExcept_error hFound world), rfl, fun h => ?_⟩
    rw [h.2.2.found] at hFound
    cases hFound
  rw [bind_ok (ofExcept_ok hFound world), get_bind]
  cases hGroup : world.findGroup group.1 with
  | none => exact .inl ⟨_, world, rfl, rfl, by simp⟩
  | some found =>
      dsimp only
      rcases except_cases (env.answer (.dropGroupsOf group.2)) with
        ⟨error, hDropped⟩ | ⟨_, hDropped⟩
      · refine .inl ⟨error, world, bind_error (ofExcept_error hDropped world), rfl, fun h => ?_⟩
        rw [h.2.2.dropped] at hDropped
        cases hDropped
      rw [bind_ok (ofExcept_ok hDropped world), DeviceGroupCache.deleteByUserId, modify_bind,
        setGroupCache_none hEntry]
      by_cases hLeft : world.sequences.link < 2 ^ 63
      · rw [bind_ok (insertLink_ok (numbered_of_lt hLeft))]
        cases hLinked : env.answer (.link group.2) with
        | error error =>
            refine .inl ⟨error, _, rfl, rfl, fun h => ?_⟩
            rw [h.2.2.linked] at hLinked
            cases hLinked
        | ok _ =>
            exact .inr ⟨_, rfl, linked_addLink world rfl, hLeft, rfl, hFound, hDropped, hLinked⟩
      · exact .inl ⟨_, world, bind_error (insertLink_error (numbered_of_not_lt hLeft)), rfl,
          fun h => hLeft h.1⟩

/-- Links to one group after another succeed exactly if all groups are known. -/
theorem linkEach_cases (env : Environment) (deviceId : Id) (groups : List (Id × Nat))
    (world : World) (hEntry : world.cache.groups userId = none)
    (hRoom : world.sequences.link ≤ 2 ^ 63) :
    (∃ error after, forEach (linkAnswered env userId deviceId) groups world =
        some (after, .error error) ∧ after.cache = world.cache ∧ ¬EachKnown env world groups) ∨
      ∃ after, forEach (linkAnswered env userId deviceId) groups world = some (after, .ok ()) ∧
        Linked (groups.map fun group => (userId, deviceId, group.1)) world after ∧
          EachKnown env world groups := by
  induction groups generalizing world with
  | nil => exact .inr ⟨world, rfl, linked_refl world, by simpa [EachKnown] using hRoom⟩
  | cons group groups ih =>
      rw [forEach]
      rcases linkAnswered_cases env deviceId group hEntry with
        ⟨error, after, hLink, hCache, hUnknown⟩ | ⟨middle, hLink, hLinked, hLeft, hGroup⟩
      · refine .inl ⟨error, after, bind_error hLink, hCache, fun hKnown => hUnknown ⟨?_, ?_⟩⟩
        · have hLength := hKnown.1
          rw [List.length_cons] at hLength
          omega
        · exact hKnown.2 group List.mem_cons_self
      · rw [eachKnown_cons hLinked, bind_ok hLink]
        rcases ih middle (by rw [hLinked.cache]; exact hEntry) (by rw [hLinked.link]; exact hLeft)
          with ⟨error, after, hRest, hCache, hUnknown⟩ | ⟨after, hRest, hAfter, hKnown⟩
        · exact .inl ⟨error, after, hRest, hCache.trans hLinked.cache, fun h => hUnknown h.2⟩
        · exact .inr ⟨after, hRest, hLinked.trans hAfter, hGroup, hKnown⟩

end

def World.addAuthority (world : World) (row : DeviceAuthorityModel) : World :=
  { world with
    rows := { world.rows with authorities := world.rows.authorities ++ [row] }
    sequences := { world.sequences with authority := world.sequences.authority + 1 } }

/-- The authority is inserted exactly if there is a number for it that no row has. -/
theorem insertAuthority_cases (world : World) (userId deviceId : Id) (now : Timestamp) :
    (∃ error after, insertAuthority userId deviceId now world = some (after, .error error) ∧
      after.cache = world.cache ∧ ¬AuthorityFree world) ∨
      ∃ row, insertAuthority userId deviceId now world = some (world.addAuthority row, .ok ()) ∧
        AuthorityFree world := by
  unfold insertAuthority
  by_cases hLeft : world.sequences.authority < 2 ^ 63
  · have hNumber := numbered_of_lt hLeft
    rw [bind_ok (draw_ok hNumber)]
    by_cases hTaken : (world.rows.authorities.any fun row =>
        row.id = ⟨UInt64.ofNat world.sequences.authority⟩) = true
    · refine .inl ⟨_, _, insertRow_error hTaken, rfl, fun hFree => ?_⟩
      obtain ⟨row, hRow, hId⟩ := List.any_eq_true.mp hTaken
      refine hFree.2 row hRow ?_
      rw [of_decide_eq_true hId]
      exact numbered_ok hNumber
    · refine .inr ⟨_, insertRow_ok (Bool.eq_false_iff.mpr hTaken), hLeft, fun row hRow hId => ?_⟩
      refine hTaken (List.any_eq_true.mpr ⟨row, hRow, decide_eq_true ?_⟩)
      rw [numbered_of_toNat hLeft hId, Except.ok.injEq] at hNumber
      exact hNumber
  · exact .inl ⟨_, _, bind_error (draw_error (numbered_of_not_lt hLeft)), rfl, fun h => hLeft h.1⟩

section

variable {world : World} {userId deviceId : Id}

/-- Listed groups are skipped all or none. -/
theorem linkListed_eq (env : Environment) (default : DeviceMapGroupModel) (groups : List Id)
    (state : World) : linkListed env default userId deviceId groups state =
      forEach (linkAnswered env userId deviceId)
        (if default.groupId = default.id then [] else groups).zipIdx state := by
  unfold linkListed
  split_ifs with hSkips
  · induction groups.zipIdx with
    | nil => rfl
    | cons group groups ih => exact ih
  · rfl

/-- The default group of a user is there, in the state in which it is found. -/
theorem knownGroup_iff {found : World} {default : DeviceGroupModel}
    (hDefault : defaultGroupId world userId = .ok default.id)
    (hFound : FoundDefault world userId default found) (group : Id) :
    (found.findGroup group).isSome ↔ KnownGroup world userId group := by
  unfold KnownGroup
  rcases hFound with ⟨hThere, rfl⟩ | ⟨hMissing, _, rfl⟩
  · rw [or_iff_left fun h => hThere h.1]
  · have hFind : (world.addGroup default).findGroup group =
        (world.rows.groups ++ [default]).find? fun row => row.id = group := rfl
    rw [hFind, List.find?_append, Option.isSome_or, Bool.or_eq_true, hDefault]
    simp [World.findGroup, hMissing]

/-- The state after the links and the authority of a device. -/
structure Finished (world : World) (userId deviceId : Id) (groups : List Id) (after : World) :
    Prop where
  default : ∃ default : DeviceGroupModel, defaultGroupId world userId = .ok default.id ∧
    (¬DefaultMissing world userId ∧ after.rows.groups = world.rows.groups ∧
        after.sequences.group = world.sequences.group ∨
      DefaultMissing world userId ∧ default.owner = userId ∧
        after.rows.groups = world.rows.groups ++ [default] ∧
          after.sequences.group = world.sequences.group + 1)
  links : ∃ default added, defaultGroupId world userId = .ok default ∧
    after.rows.links = world.rows.links ++ added ∧
      added.map DeviceMapGroupModel.member =
        (default :: listedGroups world userId groups).map fun group => (userId, deviceId, group)
  devices : after.rows.devices = world.rows.devices
  device : after.sequences.device = world.sequences.device
  entries : after.cache = (world.setGroupCache userId none).cache

/-- What is left in the cache of what was there before the links. -/
structure EntryLeft (env : Environment) (userId : Id) (world after : World) : Prop where
  dropped : DropsEntry env userId world → after.cache = (world.setGroupCache userId none).cache
  kept : ¬DropsEntry env userId world → after.cache = world.cache

theorem entryLeft_kept {env : Environment} {after : World} (hKept : ¬DropsEntry env userId world)
    (hCache : after.cache = world.cache) : EntryLeft env userId world after :=
  ⟨fun h => absurd h hKept, fun _ => hCache⟩

/-- A failure after the drop leaves the cache without the entry. -/
theorem entryLeft_dropped {env : Environment} {after : World} (h : DropsEntry env userId world)
    (hCache : after.cache = (world.setGroupCache userId none).cache) :
    EntryLeft env userId world after :=
  ⟨fun _ => hCache, fun hKept => absurd h hKept⟩

/-- The link to the default group is refused, or is the next of its table. -/
theorem linkDefaultAnswered_cases (env : Environment) (world : World) (userId deviceId : Id) :
    (∃ error after, linkDefaultAnswered env userId deviceId world = some (after, .error error) ∧
      EntryLeft env userId world after ∧
        ¬(DropsEntry env userId world ∧ world.sequences.link < 2 ^ 63 ∧
          env.answer .linkDefault = .ok ())) ∨
      ∃ default found number, defaultGroupId world userId = .ok default.id ∧
        FoundDefault world userId default found ∧
          numbered world.sequences.link = .ok number ∧
            DropsEntry env userId world ∧ env.answer .linkDefault = .ok () ∧
              linkDefaultAnswered env userId deviceId world =
                some ((found.setGroupCache userId none).addLink
                  ⟨number, userId, deviceId, default.id, 0, env.now⟩,
                  .ok ⟨number, userId, deviceId, default.id, 0, env.now⟩) := by
  unfold linkDefaultAnswered
  rw [get_bind]
  rcases except_cases (defaultAnswer env world userId) with ⟨error, hQueried⟩ | ⟨_, hQueried⟩
  · have hKept : ¬DropsEntry env userId world := fun h => by
      rw [h.queried] at hQueried
      cases hQueried
    exact .inl ⟨error, world, bind_error (ofExcept_error hQueried world), entryLeft_kept hKept rfl,
      fun h => hKept h.1⟩
  rw [bind_ok (ofExcept_ok hQueried world)]
  rcases queryUserDefaultGroup_cases world userId env.now with
    ⟨error, hDefault, hQuery⟩ | ⟨default, found, hDefault, hQuery, hFound⟩
  · have hKept : ¬DropsEntry env userId world := fun h => by
      obtain ⟨id, hId⟩ := h.default
      rw [hDefault] at hId
      cases hId
    exact .inl ⟨error, world, bind_error hQuery, entryLeft_kept hKept rfl, fun h => hKept h.1⟩
  rw [bind_ok hQuery]
  rcases except_cases (env.answer .dropGroups) with ⟨error, hDropped⟩ | ⟨_, hDropped⟩
  · have hKept : ¬DropsEntry env userId world := fun h => by
      rw [h.dropped] at hDropped
      cases hDropped
    exact .inl ⟨error, found, bind_error (ofExcept_error hDropped found),
      entryLeft_kept hKept hFound.cache, fun h => hKept h.1⟩
  have hDrops : DropsEntry env userId world := ⟨hQueried, ⟨_, hDefault⟩, hDropped⟩
  have hCache : (found.setGroupCache userId none).cache =
      (world.setGroupCache userId none).cache := by
    rw [World.setGroupCache, World.setGroupCache, hFound.cache]
  have hLink := hFound.link
  rw [bind_ok (ofExcept_ok hDropped found), DeviceGroupCache.deleteByUserId, modify_bind]
  by_cases hLeft : world.sequences.link < 2 ^ 63
  · have hNumber := numbered_of_lt hLeft
    have hInsert := @insertLink_ok (found.setGroupCache userId none) userId deviceId default.id
      env.now _ (by rw [← hNumber]; exact congrArg numbered hLink)
    rw [bind_ok hInsert]
    cases hAnswer : env.answer .linkDefault with
    | error error =>
        refine .inl ⟨error, _, bind_error rfl, entryLeft_dropped hDrops hCache, fun h => ?_⟩
        cases h.2.2
    | ok _ => exact .inr ⟨default, found, _, hDefault, hFound, hNumber, hDrops, rfl, rfl⟩
  · have hInsert := @insertLink_error (found.setGroupCache userId none) userId deviceId
      default.id env.now _ (by rw [← numbered_of_not_lt hLeft]; exact congrArg numbered hLink)
    exact .inl ⟨_, _, bind_error hInsert, entryLeft_dropped hDrops hCache, fun h => hLeft h.2.1⟩

section

variable {default : DeviceGroupModel} {found : World}

theorem FoundDefault.authorityFree_iff (h : FoundDefault world userId default found) :
    AuthorityFree found ↔ AuthorityFree world := by
  rcases h with ⟨_, rfl⟩ | ⟨_, _, rfl⟩ <;> rfl

/-- The listed groups are known beside the default group, as far as numbers last. -/
theorem FoundDefault.eachKnown_iff (h : FoundDefault world userId default found)
    (hDefault : defaultGroupId world userId = .ok default.id) (env : Environment)
    (row : DeviceMapGroupModel) (groups : List (Id × Nat)) :
    EachKnown env ((found.setGroupCache userId none).addLink row) groups ↔
      world.sequences.link + groups.length < 2 ^ 63 ∧
        ∀ listed ∈ groups, KnownGroup world userId listed.1 ∧ LinkAnswered env listed.2 := by
  have hFind : ∀ group, ((found.setGroupCache userId none).addLink row).findGroup group =
      found.findGroup group := fun _ => rfl
  have hNext : ((found.setGroupCache userId none).addLink row).sequences.link =
      world.sequences.link + 1 := congrArg Nat.succ h.link
  have hRoom : world.sequences.link + 1 + groups.length ≤ 2 ^ 63 ↔
      world.sequences.link + groups.length < 2 ^ 63 := by omega
  unfold EachKnown
  rw [hNext, hRoom]
  simp only [hFind, knownGroup_iff hDefault h]

/-- What holds once all links and the authority are inserted. -/
theorem FoundDefault.finished (h : FoundDefault world userId default found)
    (hDefault : defaultGroupId world userId = .ok default.id) {row : DeviceMapGroupModel}
    (hRow : row.member = (userId, deviceId, default.id)) {groups : List Id} {linked : World}
    (hLinked : Linked ((listedGroups world userId groups).map fun group =>
      (userId, deviceId, group)) ((found.setGroupCache userId none).addLink row) linked)
    (authority : DeviceAuthorityModel) :
    Finished world userId deviceId groups (linked.addAuthority authority) := by
  have hGroups : linked.rows.groups = found.rows.groups := hLinked.groups
  have hGroup : linked.sequences.group = found.sequences.group := hLinked.group
  refine
    { default := ⟨default, hDefault, ?_⟩
      links := ?_
      devices := ?_
      device := ?_
      entries := ?_ }
  · rcases h with ⟨hThere, rfl⟩ | ⟨hMissing, hOwner, rfl⟩
    · exact .inl ⟨hThere, hGroups, hGroup⟩
    · exact .inr ⟨hMissing, hOwner, hGroups, hGroup⟩
  · obtain ⟨added, hAdded, hMembers⟩ := hLinked.links
    have hStart : ((found.setGroupCache userId none).addLink row).rows.links =
        world.rows.links ++ [row] := congrArg (· ++ [row]) h.links
    refine ⟨default.id, row :: added, hDefault, ?_, ?_⟩
    · have hRows : (linked.addAuthority authority).rows.links = linked.rows.links := rfl
      rw [hRows, hAdded, hStart, List.append_assoc, List.singleton_append]
    · rw [List.map_cons, List.map_cons, hRow, hMembers]
  · have hDevices : linked.rows.devices = found.rows.devices := hLinked.devices
    rcases h with ⟨_, rfl⟩ | ⟨_, _, rfl⟩ <;> exact hDevices
  · have hDevice : linked.sequences.device = found.sequences.device := hLinked.device
    rcases h with ⟨_, rfl⟩ | ⟨_, _, rfl⟩ <;> exact hDevice
  · have hCache : linked.cache = (found.setGroupCache userId none).cache := hLinked.cache
    have hSame : (linked.addAuthority authority).cache = linked.cache := rfl
    rw [hSame, hCache, World.setGroupCache, World.setGroupCache, h.cache]

end

/-- Links do not matter to the authority. -/
theorem Linked.authorityFree_iff {members : List (Id × Id × Id)} {after : World}
    (h : Linked members world after) : AuthorityFree after ↔ AuthorityFree world := by
  unfold AuthorityFree
  rw [h.authorities, h.authority]

/-- The links to listed groups and the authority, once the entry is gone. -/
theorem linkAndAuthorize_cases (env : Environment) (deviceId : Id) (groups : List (Id × Nat))
    (start : World) (hEntry : start.cache.groups userId = none)
    (hRoom : start.sequences.link ≤ 2 ^ 63) :
    (∃ error after, (do
        forEach (linkAnswered env userId deviceId) groups
        insertAuthority userId deviceId env.now
        ofExcept (env.answer .authority) : Service Unit) start = some (after, .error error) ∧
      after.cache = start.cache ∧ ¬(EachKnown env start groups ∧ AuthorityFree start ∧
        env.answer .authority = .ok ())) ∨
      ∃ linked authority, (do
        forEach (linkAnswered env userId deviceId) groups
        insertAuthority userId deviceId env.now
        ofExcept (env.answer .authority) : Service Unit) start =
          some (World.addAuthority linked authority, .ok ()) ∧
        Linked (groups.map fun group => (userId, deviceId, group.1)) start linked ∧
          EachKnown env start groups ∧ AuthorityFree start ∧ env.answer .authority = .ok () := by
  rcases linkEach_cases env deviceId groups start hEntry hRoom with
    ⟨error, after, hLinks, hCache, hUnknown⟩ | ⟨linked, hLinks, hLinked, hKnown⟩
  · exact .inl ⟨error, after, bind_error hLinks, hCache, fun h => hUnknown h.1⟩
  · rw [bind_ok hLinks]
    rcases insertAuthority_cases linked userId deviceId env.now with
      ⟨error, after, hInsert, hCache, hTaken⟩ | ⟨authority, hInsert, hFree⟩
    · refine .inl ⟨error, after, bind_error hInsert, hCache.trans hLinked.cache, fun h => ?_⟩
      exact hTaken (hLinked.authorityFree_iff.mpr h.2.1)
    · rw [bind_ok hInsert]
      cases hAnswer : env.answer .authority with
      | error error => exact .inl ⟨error, _, rfl, hLinked.cache, fun h => by cases h.2.2⟩
      | ok _ =>
          exact .inr ⟨linked, authority, rfl, hLinked, hKnown, hLinked.authorityFree_iff.mp hFree,
            rfl⟩

/-- The positions do not matter to what is linked. -/
theorem map_fst_zipIdx (groups : List Id) :
    (groups.zipIdx.map fun group => (userId, deviceId, group.1)) =
      groups.map fun group => (userId, deviceId, group) := by
  conv_rhs => rw [← List.zipIdx_map_fst 0 groups]
  rw [List.map_map]
  rfl

/-- Links and authority are refused, with what was there before in the cache but
for the entry, or are all inserted. -/
theorem finishDevice_cases (env : Environment) (userId deviceId : Id) (groups : List Id)
    (world : World) :
    (∃ error after, finishDevice env userId deviceId groups world = some (after, .error error) ∧
      EntryLeft env userId world after ∧ ¬Finishes env userId world groups) ∨
      ∃ after, finishDevice env userId deviceId groups world = some (after, .ok ()) ∧
        Finished world userId deviceId groups after ∧ Finishes env userId world groups := by
  unfold finishDevice
  rcases linkDefaultAnswered_cases env world userId deviceId with
    ⟨error, after, hLink, hEntry, hUnknown⟩ |
      ⟨default, found, number, hDefault, hFound, hNumber, hDrops, hAnswer, hLink⟩
  · refine .inl ⟨error, after, bind_error hLink, hEntry, fun h => hUnknown
      ⟨h.toDropsEntry, lt_of_le_of_lt (Nat.le_add_right _ _) h.links, h.linkDefault⟩⟩
  · have hDropped : (found.setGroupCache userId none).cache =
        (world.setGroupCache userId none).cache := by
      rw [World.setGroupCache, World.setGroupCache, hFound.cache]
    have hListed : listedGroups world userId groups =
        if default.id = number then [] else groups := by
      simp only [listedGroups, skips, hDefault, hNumber, decide_eq_true_eq]
    have hLess : found.sequences.link < 2 ^ 63 := by
      by_contra hEnd
      rw [← hFound.link, numbered_of_not_lt hEnd] at hNumber
      cases hNumber
    have hRest := linkAndAuthorize_cases env deviceId (listedGroups world userId groups).zipIdx
      ((found.setGroupCache userId none).addLink
        ⟨number, userId, deviceId, default.id, 0, env.now⟩)
      (setGroupCache_self found userId none) hLess
    rw [bind_ok hLink, bind_apply, linkListed_eq, ← hListed, ← bind_apply]
    rw [hFound.eachKnown_iff hDefault, List.length_zipIdx, map_fst_zipIdx] at hRest
    rcases hRest with ⟨error, after, hRun, hCache, hFails⟩ | ⟨linked, authority, hRun, hLinked,
      ⟨hLinks, hKnown⟩, hFree, hAnswered⟩
    · refine .inl ⟨error, after, hRun, entryLeft_dropped hDrops (hCache.trans hDropped),
        fun h => hFails ?_⟩
      exact ⟨⟨h.links, h.listed⟩, hFound.authorityFree_iff.mpr h.authority, h.answered⟩
    · refine .inr ⟨_, hRun, hFound.finished hDefault rfl hLinked authority, ?_⟩
      exact ⟨hDrops, hAnswer, hLinks, hKnown, hFound.authorityFree_iff.mp hFree, hAnswered⟩

end

/-! If nothing is refused, the links of a creation are those of the service. -/

section

variable {env : Environment} (hAnswers : ∀ statement, env.answer statement = .ok ())

include hAnswers

/-- The queries for the default group are answered. -/
theorem defaultAnswer_answered (world : World) (userId : Id) :
    defaultAnswer env world userId = .ok () := by
  unfold defaultAnswer
  simp only [hAnswers]
  split_ifs <;> rfl

/-- The link to the default group is `link_to_default_group`. -/
theorem linkDefaultAnswered_answered (world : World) (userId deviceId : Id) :
    linkDefaultAnswered env userId deviceId world =
      linkToDefaultGroup userId deviceId env.now world := by
  unfold linkDefaultAnswered linkToDefaultGroup
  rw [get_bind, bind_ok (ofExcept_ok (defaultAnswer_answered hAnswers world userId) world)]
  simp only [hAnswers]
  refine congrFun (congrArg (queryUserDefaultGroup userId env.now >>= ·)
    (funext fun group => funext fun state => ?_)) world
  -- what is left are the same steps, and the link that is returned
  exact congrFun bind_return (state.setGroupCache userId none)

/-- The link to a listed group is `link`. -/
theorem linkAnswered_answered (world : World) (userId deviceId : Id) (group : Id × Nat) :
    linkAnswered env userId deviceId group world =
      (do let _ ← link group.1 userId deviceId env.now : Service Unit) world := by
  unfold linkAnswered link
  simp only [hAnswers]
  rw [bind_ok (ofExcept_ok rfl world), get_bind, bind_apply, get_bind]
  cases world.findGroup group.1 with
  | none => rfl
  | some found => rfl

end
end SnapEmu.Server
