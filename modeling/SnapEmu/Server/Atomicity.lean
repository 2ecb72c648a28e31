import Mathlib.Data.List.TakeWhile
import SnapEmu.Server.Finishing
import SnapEmu.Server.Registration

/-! When a creation that fails leaves the tables and the cache as they were. -/
namespace SnapEmu.Server

open Device Management Semantics User Action DeviceService DeviceGroupService

/-- The record is written, and so is all that follows it. -/
structure Completes (env : Environment) (userId : Id) (world : World) (req : DeviceCreate)
    (commands : List RecordCommand) : Prop where
  sent : AllSent env commands
  finishes : Finishes env userId world req.group
  dropped : env.answer .dropDevices = .ok ()
  committed : env.answer .commit = .ok ()

/-- The commands that are done change nothing in the cache, and the groups of the
user are not there if they would be dropped. -/
structure Traceless (env : Environment) (userId : Id) (world : World)
    (commands : List RecordCommand) : Prop where
  record : (world.recorded (sentCommands env commands)).cache = world.cache
  entry : AllSent env commands → DropsEntry env userId world → world.cache.groups userId = none

/-- The creation goes through. -/
def Succeeds (env : Environment) (userId : Id) (world : World) (req : DeviceCreate) : Prop :=
  Inserts env userId world req ∧
    ∃ commands ∈ recordCommands env userId world req, Completes env userId world req commands

section

variable {env : Environment} {userId : Id} {world : World} {req : DeviceCreate}

/-- A creation that goes through has all that follows its record. -/
theorem Succeeds.finishes (h : Succeeds env userId world req) :
    Finishes env userId world req.group := by
  obtain ⟨-, commands, -, hCompletes⟩ := h
  exact hCompletes.finishes

/-- The default group is a matter of groups, their numbers and their entries. -/
theorem defaultGroupId_congr {after : World} (hGroups : after.rows.groups = world.rows.groups)
    (hEntries : after.cache.groups = world.cache.groups)
    (hGroup : after.sequences.group = world.sequences.group) :
    defaultGroupId after userId = defaultGroupId world userId := by
  simp only [defaultGroupId, DeviceGroupCache.loadDefaultByUserId, DeviceGroupCache.loadByUserId,
    defaultRow, hGroups, hEntries, hGroup]

/-- The record of a device does not matter to the default group. -/
theorem Registered.sameDefault {id : Id} {created : World}
    (h : Registered userId world req id created) (user : Id) :
    defaultGroupId created user = defaultGroupId world user :=
  defaultGroupId_congr h.groups h.entries h.group

/-- The record of a device does not matter to the groups that count as listed. -/
theorem Registered.sameListed {id : Id} {created : World}
    (h : Registered userId world req id created) (groups : List Id) :
    listedGroups created userId groups = listedGroups world userId groups := by
  unfold listedGroups skips
  rw [h.sameDefault, h.link]

/-- The record of a device does not matter to whether the default group is missing. -/
theorem Registered.sameMissing {id : Id} {created : World}
    (h : Registered userId world req id created) (user : Id) :
    DefaultMissing created user ↔ DefaultMissing world user := by
  simp only [DefaultMissing, DeviceGroupCache.loadDefaultByUserId, DeviceGroupCache.loadByUserId,
    defaultRow, h.groups, h.entries]

/-- The record of a device does not matter to what is asked for the default group. -/
theorem Registered.defaultAnswer {id : Id} {created : World}
    (h : Registered userId world req id created) :
    defaultAnswer env created userId = DeviceService.defaultAnswer env world userId := by
  have hCached : DeviceGroupCache.loadDefaultByUserId created userId =
      DeviceGroupCache.loadDefaultByUserId world userId := by
    simp only [DeviceGroupCache.loadDefaultByUserId, DeviceGroupCache.loadByUserId, h.entries]
  have hRow : defaultRow created userId = defaultRow world userId := by
    simp only [defaultRow, h.groups]
  rw [DeviceService.defaultAnswer, DeviceService.defaultAnswer, hCached, hRow]

/-- The record of a device does not matter to whether the entry is dropped. -/
theorem Registered.dropsEntry_iff {id : Id} {created : World}
    (h : Registered userId world req id created) :
    DropsEntry env userId created ↔ DropsEntry env userId world := by
  constructor
  · rintro ⟨hQueried, hDefault, hDropped⟩
    rw [h.defaultAnswer] at hQueried
    rw [h.sameDefault] at hDefault
    exact ⟨hQueried, hDefault, hDropped⟩
  · rintro ⟨hQueried, hDefault, hDropped⟩
    rw [← h.defaultAnswer] at hQueried
    rw [← h.sameDefault] at hDefault
    exact ⟨hQueried, hDefault, hDropped⟩

/-- The record of a device does not matter to its links and its authority. -/
theorem Registered.finishes_iff {id : Id} {created : World}
    (h : Registered userId world req id created) (groups : List Id) :
    Finishes env userId created groups ↔ Finishes env userId world groups := by
  have hDefault := h.sameDefault userId
  have hListed := h.sameListed groups
  have hMissing := h.sameMissing userId
  have hKnown : ∀ group, KnownGroup created userId group ↔ KnownGroup world userId group := by
    intro group
    simp only [KnownGroup, World.findGroup, h.groups, hMissing, hDefault]
  have hFree : AuthorityFree created ↔ AuthorityFree world := by
    simp only [AuthorityFree, h.authorities, h.authority]
  constructor
  · rintro ⟨hDrops, hLinkDefault, hLinks, hEach, hAuthority, hAnswered⟩
    rw [hListed, h.link] at hLinks
    simp only [hListed, hKnown] at hEach
    exact ⟨h.dropsEntry_iff.mp hDrops, hLinkDefault, hLinks, hEach, hFree.mp hAuthority, hAnswered⟩
  · rintro ⟨hDrops, hLinkDefault, hLinks, hEach, hAuthority, hAnswered⟩
    rw [← hListed, ← h.link] at hLinks
    simp only [← hListed, ← hKnown] at hEach
    exact ⟨h.dropsEntry_iff.mpr hDrops, hLinkDefault, hLinks, hEach, hFree.mpr hAuthority,
      hAnswered⟩

/-- A cache without the entry is the one from before exactly if it is so without the
drop, and the entry was not there. -/
theorem setGroupCache_cache_iff {created : World}
    (hEntries : created.cache.groups = world.cache.groups) :
    (created.setGroupCache userId none).cache = world.cache ↔
      created.cache = world.cache ∧ world.cache.groups userId = none := by
  constructor
  · intro hSame
    have hEntry : world.cache.groups userId = none := by
      rw [← hSame]
      exact setGroupCache_self created userId none
    rw [setGroupCache_none (by rw [hEntries]; exact hEntry)] at hSame
    exact ⟨hSame, hEntry⟩
  · rintro ⟨hSame, hEntry⟩
    rw [setGroupCache_none (by rw [hEntries]; exact hEntry)]
    exact hSame

/-- Without a refusal all commands are done. -/
theorem sentCommands_eq {commands : List RecordCommand} (hAll : AllSent env commands) :
    sentCommands env commands = commands := by
  refine List.takeWhile_eq_self_iff.mpr fun command hCommand => ?_
  rw [hAll command hCommand]
  rfl

section

variable {record : DeviceRecord} {inserted after : World}

/-- The cache after the commands is that of the state before the rows. -/
theorem Inserted.recorded_cache (h : Inserted env userId world req record inserted)
    (commands : List RecordCommand) :
    (inserted.recorded commands).cache = (world.recorded commands).cache :=
  congrArg (commands.foldl RecordCommand.apply) h.cache

/-- What a creation that fails within its record leaves in the cache. -/
theorem Inserted.refused_iff (h : Inserted env userId world req record inserted)
    (hNot : ¬AllSent env record.commands) :
    (inserted.recorded (sentCommands env record.commands)).cache = world.cache ↔
      Traceless env userId world record.commands := by
  rw [h.recorded_cache]
  exact ⟨fun hSame => ⟨hSame, fun hAll => absurd hAll hNot⟩, Traceless.record⟩

/-- What a creation that fails after its record leaves in the cache. -/
theorem Inserted.entryLeft_iff (h : Inserted env userId world req record inserted)
    (hAll : AllSent env record.commands)
    (hLeft : EntryLeft env userId (inserted.recorded record.commands) after) :
    after.cache = world.cache ↔ Traceless env userId world record.commands := by
  have hRegistered := h.registered record.commands
  have hDrops : DropsEntry env userId (inserted.recorded record.commands) ↔
      DropsEntry env userId world := hRegistered.dropsEntry_iff
  have hTraceless : Traceless env userId world record.commands ↔
      (inserted.recorded record.commands).cache = world.cache ∧
        (DropsEntry env userId world → world.cache.groups userId = none) := by
    rw [h.recorded_cache]
    constructor
    · rintro ⟨hRecord, hEntry⟩
      rw [sentCommands_eq hAll] at hRecord
      exact ⟨hRecord, hEntry hAll⟩
    · rintro ⟨hRecord, hEntry⟩
      rw [← sentCommands_eq hAll] at hRecord
      exact ⟨hRecord, fun _ => hEntry⟩
  rw [hTraceless]
  by_cases hDropped : DropsEntry env userId world
  · rw [hLeft.dropped (hDrops.mpr hDropped), setGroupCache_cache_iff hRegistered.entries,
      imp_iff_right hDropped]
  · rw [hLeft.kept fun hThere => hDropped (hDrops.mp hThere)]
    exact (and_iff_left fun hThere => absurd hThere hDropped).symm

/-- What follows a record that is written: it fails, or completes the creation. -/
theorem Inserted.recorded_cases (h : Inserted env userId world req record inserted)
    (hAll : AllSent env record.commands)
    (hRun : createDevice env userId req world =
      some (inserted.recorded record.commands, .ok record.device)) :
    let body : Service Unit := do
      let _ ← DeviceService.newDevice env userId req
      ofExcept (env.answer .dropDevices)
      ofExcept (env.answer .commit)
    (∃ error after, body world = some (after, .error error) ∧
      (after.cache = world.cache ↔ Traceless env userId world record.commands) ∧
        ¬Completes env userId world req record.commands) ∨
    ∃ after, body world = some (after, .ok ()) ∧ Finished
      (inserted.recorded record.commands) userId record.device req.group after ∧
        Completes env userId world req record.commands := by
  intro body
  have hRegistered := h.registered record.commands
  rcases finishDevice_cases env userId record.device req.group
    (inserted.recorded record.commands) with
    ⟨error, after, hFinish, hLeft, hFails⟩ | ⟨after, hFinish, hFinished, hFinishes⟩
  · have hNew : DeviceService.newDevice env userId req world = some (after, .error error) :=
      (bind_ok hRun).trans (bind_error hFinish)
    exact .inl ⟨error, after, bind_error hNew, h.entryLeft_iff hAll hLeft,
      fun hCompletes => hFails ((hRegistered.finishes_iff req.group).mpr hCompletes.finishes)⟩
  · have hNew : DeviceService.newDevice env userId req world = some (after, .ok record.device) :=
      (bind_ok hRun).trans (bind_ok hFinish)
    have hCache := h.entryLeft_iff hAll
      (entryLeft_dropped hFinishes.toDropsEntry hFinished.entries)
    rcases except_cases (env.answer .dropDevices) with ⟨error, hDropped⟩ | ⟨_, hDropped⟩
    · refine .inl ⟨error, after, (bind_ok hNew).trans (bind_error (ofExcept_error hDropped after)),
        hCache, fun hCompletes => ?_⟩
      rw [hCompletes.dropped] at hDropped
      cases hDropped
    have hBody : body world = ofExcept (env.answer .commit) after :=
      (bind_ok hNew).trans (bind_ok (ofExcept_ok hDropped after))
    rcases except_cases (env.answer .commit) with ⟨error, hCommit⟩ | ⟨_, hCommit⟩
    · refine .inl ⟨error, after, hBody.trans (ofExcept_error hCommit after), hCache,
        fun hCompletes => ?_⟩
      rw [hCompletes.committed] at hCommit
      cases hCommit
    · exact .inr ⟨after, hBody.trans (ofExcept_ok hCommit after), hFinished, hAll,
        (hRegistered.finishes_iff req.group).mp hFinishes, hDropped, hCommit⟩

end

/-- A request does not return, fails before its record, fails within it or after
it, or succeeds. -/
theorem postDevice_cases (env : Environment) (userId : Id) (req : DeviceCreate) (world : World) :
    (postDevice env userId req world = none ∧ ¬Inserts env userId world req) ∨
      (∃ error after, postDevice env userId req world = some (after, .error error) ∧
        after.rows = world.rows ∧ after.cache = world.cache ∧ ¬Inserts env userId world req) ∨
      (∃ error after commands, postDevice env userId req world = some (after, .error error) ∧
        after.rows = world.rows ∧ Inserts env userId world req ∧
          recordCommands env userId world req = some commands ∧
            (after.cache = world.cache ↔ Traceless env userId world commands) ∧
              ¬Completes env userId world req commands) ∨
      ∃ id created after, postDevice env userId req world = some (after, .ok ()) ∧
        Registered userId world req id created ∧ Finished created userId id req.group after ∧
          Succeeds env userId world req := by
  have hCreate := createDevice_cases env userId req world
  unfold postDevice
  cases hEui : req.eui with
  | none =>
      have hRun : insertDevice env userId req world =
          some (world, .error (translated "messages.device.common.eui_missing")) := by
        unfold insertDevice
        rw [hEui]
        rfl
      refine .inr (.inl ⟨_, world, rfl, rfl, rfl, ?_⟩)
      rintro ⟨record, after, hInserted⟩
      rw [hRun] at hInserted
      cases hInserted
  | some text =>
      rw [if_neg (by simp)]
      unfold transaction
      rcases hCreate with ⟨hNone, hNot⟩ | ⟨error, reached, hRun, hUntouched, hNot⟩ |
        ⟨record, inserted, hInserted, hInserts, ⟨hAll, hRun⟩ | ⟨hNot, error, hRun⟩⟩
      · have hNew : DeviceService.newDevice env userId req world = none := by
          unfold DeviceService.newDevice
          rw [bind_apply, hNone]
        exact .inl ⟨by rw [bind_apply, hNew], hNot⟩
      · have hNew : DeviceService.newDevice env userId req world = some (reached, .error error) :=
          bind_error hRun
        rw [bind_error hNew]
        exact .inr (.inl ⟨error, _, rfl, rfl, hUntouched.cache, hNot⟩)
      · rcases hInserted.recorded_cases hAll hRun with
          ⟨error, after, hBody, hCache, hFails⟩ | ⟨after, hBody, hFinished, hCompletes⟩
        · rw [hBody]
          exact .inr (.inr (.inl ⟨error, _, record.commands, rfl, rfl, hInserts,
            hInserted.commands, hCache, hFails⟩))
        · rw [hBody]
          exact .inr (.inr (.inr ⟨record.device, _, after, rfl,
            hInserted.registered record.commands, hFinished, hInserts, record.commands,
            hInserted.commands, hCompletes⟩))
      · have hNew : DeviceService.newDevice env userId req world =
            some (inserted.recorded (sentCommands env record.commands), .error error) :=
          bind_error hRun
        rw [bind_error hNew]
        exact .inr (.inr (.inl ⟨error, _, record.commands, rfl, rfl, hInserts, hInserted.commands,
          hInserted.refused_iff hNot, fun h => hNot h.sent⟩))

/-- A creation that fails leaves the tables and the cache as they were, unless it
fails once its record has left a trace. -/
theorem postDevice_atomic_iff (env : Environment) (userId : Id) (req : DeviceCreate)
    (world : World) :
    (∀ error after, postDevice env userId req world = some (after, .error error) →
        after.rows = world.rows ∧ after.cache = world.cache) ↔
      (Inserts env userId world req → ∀ commands ∈ recordCommands env userId world req,
        Completes env userId world req commands ∨ Traceless env userId world commands) := by
  rcases postDevice_cases env userId req world with ⟨hNone, hNot⟩ |
    ⟨error, after, hRun, hRows, hCache, hNot⟩ |
      ⟨error, after, commands, hRun, hRows, hInserts, hCommands, hCache, hFails⟩ |
        ⟨id, created, after, hRun, -, -, -, commands, hCommands, hCompletes⟩
  · rw [hNone]
    exact iff_of_true nofun fun h => absurd h hNot
  · rw [hRun]
    refine iff_of_true (fun error' after' hSame => ?_) fun h => absurd h hNot
    cases hSame
    exact ⟨hRows, hCache⟩
  · rw [hRun]
    constructor
    · intro h _ other hOther
      rw [hCommands, Option.mem_some_iff] at hOther
      subst hOther
      exact .inr (hCache.mp (h error after rfl).2)
    · intro h error' after' hSame
      cases hSame
      exact ⟨hRows, hCache.mpr ((h hInserts commands hCommands).resolve_left hFails)⟩
  · rw [hRun]
    refine iff_of_true (fun _ _ hSame => ?_) fun _ other hOther => ?_
    · cases hSame
    · rw [Option.mem_unique hOther hCommands]
      exact .inl hCompletes

end

/-- Parameters read over Bluetooth from a node with device EUI 7. -/
def fieldNode : BluetoothNode where
  joinType := some 1
  jionType := none
  adr := 1
  retry := 0
  dutyCycle := 0
  devEui := ⟨7⟩
  appEui := ⟨0⟩
  appKey := ⟨Vector.replicate 16 0⟩
  devAddr := ⟨17⟩
  nwkSkey := ⟨Vector.replicate 16 0⟩
  appSkey := ⟨Vector.replicate 16 0⟩
  rx1Delay := 1
  rx2Dr := 0
  rx2Freq := 5053000

def fieldRequest (groups : List Id) : DeviceCreate where
  name := "field"
  group := groups
  device := none
  description := none
  eui := some "0000000000000007"
  deviceType := .LoRaNode
  region := some .CN470
  joinType := some .OTAA
  joinParameter := some ⟨.error "missing field key", .ok ⟨none, none, none, none, none, none⟩⟩
  blueName := none
  blueParm := some fieldNode
  extraParm := none
  username := none
  password := none

/-- No device is predefined, and all statements succeed. -/
def quietEnvironment : Environment where
  queryEui := fun _ => .ok none
  draws := []
  saltedHash := id
  now := ⟨0⟩
  answer := fun _ => .ok ()

/-- User 5 has group 1, and no default group yet. -/
def oneGroup : World := (createGroup ⟨"field", ""⟩ ⟨5⟩ ⟨0⟩).after World.empty

/-- A request that lists a group which does not exist fails and leaves the record
of its node, so that the request without the group is refused. -/
theorem postDevice_leaves_record :
    (¬∀ error after, postDevice quietEnvironment ⟨5⟩ (fieldRequest [⟨99⟩]) oneGroup =
        some (after, .error error) → after.rows = oneGroup.rows ∧ after.cache = oneGroup.cache) ∧
      (postDevice quietEnvironment ⟨5⟩ (fieldRequest [])
        ((postDevice quietEnvironment ⟨5⟩ (fieldRequest [⟨99⟩])).after oneGroup)).map Prod.snd =
          some (.error (devEuiAlready ⟨7⟩)) := by
  refine ⟨fun h => ?_, by decide +kernel⟩
  have hError : (postDevice quietEnvironment ⟨5⟩ (fieldRequest [⟨99⟩]) oneGroup).map Prod.snd =
      some (.error (.user (.plain "group invalid"))) := by decide +kernel
  obtain ⟨⟨after, result⟩, hRun, hResult⟩ := Option.map_eq_some_iff.mp hError
  subst hResult
  have hEntry : ((postDevice quietEnvironment ⟨5⟩ (fieldRequest [⟨99⟩])).after
      oneGroup).cache.nodes.nodeEui ⟨7⟩ = some ⟨17⟩ := by decide +kernel
  rw [after_eq hRun, (h _ after hRun).2] at hEntry
  cases hEntry

end SnapEmu.Server
