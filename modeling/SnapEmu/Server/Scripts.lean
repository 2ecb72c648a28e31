import SnapEmu.Semantics.Run
import SnapEmu.Server.AccountDeletion
import SnapEmu.Server.Update

/-! The decode scripts of users and the devices that refer to them, and when
every script that a device or its record names is there. -/
namespace SnapEmu.Server

open Device Management Semantics User Action

inductive DecodeDataType where
  | I32 | F64 | Bool
  deriving DecidableEq

inductive DecodeLang where
  | JS
  deriving DecidableEq

structure DecodeMap where
  dName : String
  dUnit : String
  dType : DecodeDataType
  dId : UInt32
  deriving DecidableEq

structure CodeMapItem where
  id : UInt32
  name : String
  unit : String
  t : DecodeDataType
  deriving DecidableEq

structure ScriptRequest where
  id : Option Id
  name : String
  lang : DecodeLang
  script : String
  map : List DecodeMap
  deriving DecidableEq

/-- The columns of a script beside its key, its owner and its name. -/
structure ScriptColumns where
  script : String
  lang : String
  map : List CodeMapItem
  createTime : Timestamp
  modifyTime : Timestamp
  deriving DecidableEq

/-- The server with the other columns of its scripts, which are read only where
there is a row, and the next number of a script. -/
structure ScriptWorld where
  world : World
  columns : Id → ScriptColumns
  next : Nat

abbrev ScriptService (α : Type) := Action ScriptWorld ApiError α

def DecodeLang.asRef : DecodeLang → String
  | .JS => "JS"

namespace DecodeService

def codeMap (map : List DecodeMap) : List CodeMapItem :=
  map.map fun it => ⟨it.dId, it.dName, it.dUnit, it.dType⟩

def decodeMap (map : List CodeMapItem) : List DecodeMap :=
  map.map fun m => ⟨m.name, m.unit, m.t, m.id⟩

/-- A script by its key, if the user owns it. -/
def findScript (rows : Rows) (userId script : Id) : Option DecodeScriptModel :=
  rows.scripts.find? fun row => row.id = script ∧ row.owner = userId

def notFoundScript : ApiError := translated "messages.device.decode.not_found_script"

end DecodeService

namespace ScriptWorld

/-- The new row of a script under its key. -/
def update (server : ScriptWorld) (row : DecodeScriptModel) (columns : ScriptColumns) :
    ScriptWorld :=
  { server with
    world := { server.world with
      rows := { server.world.rows with
        scripts := server.world.rows.scripts.map fun other =>
          if other.id = row.id then row else other } }
    columns := Function.update server.columns row.id columns }

def insert (server : ScriptWorld) (row : DecodeScriptModel) (columns : ScriptColumns) :
    ScriptWorld :=
  { server with
    world := { server.world with
      rows := { server.world.rows with scripts := server.world.rows.scripts ++ [row] } }
    columns := Function.update server.columns row.id columns }

end ScriptWorld

namespace DecodeService

def updateScript (userId : Id) (req : ScriptRequest) (now : Timestamp) :
    ScriptService ScriptRequest :=
  match req.id with
  | none => throw (translated "messages.device.decode.id_missing")
  | some scriptId => do
      let server ← get
      match findScript server.world.rows userId scriptId with
      | none => throw notFoundScript
      | some script =>
          let columns := { server.columns script.id with
            script := req.script, map := codeMap req.map, modifyTime := now }
          Action.modify fun server => server.update { script with name := req.name } columns
          return ⟨some script.id, req.name, .JS, columns.script, decodeMap columns.map⟩

/-- A request with a key is an update. -/
def insertScript (userId : Id) (script : ScriptRequest) (now : Timestamp) :
    ScriptService ScriptRequest :=
  if script.id.isSome then updateScript userId script now
  else do
    let server ← get
    let id ← ofExcept (numbered server.next)
    Action.modify fun server => { server with next := server.next + 1 }
    if server.world.rows.scripts.any fun row => row.id = id then throw duplicateKey
    else do
      let columns : ScriptColumns :=
        ⟨script.script, script.lang.asRef, codeMap script.map, now, now⟩
      Action.modify fun server => server.insert ⟨id, userId, script.name⟩ columns
      return ⟨some id, script.name, .JS, columns.script, decodeMap columns.map⟩

/-- A script that the row of a device refers to is not deleted. -/
def deleteScript (userId script : Id) : Service Unit := do
  let world ← get
  let count := (world.rows.devices.filter fun device => device.script = some script).length
  if 0 < count then throw (translated "messages.device.decode.associated_device")
  else match findScript world.rows userId script with
    | none => throw notFoundScript
    | some script => modifyRows fun rows =>
        { rows with scripts := rows.scripts.filter fun row => row.id ≠ script.id }

end DecodeService

/-- The request of a user with an authority for the device. -/
def putDevice (userId deviceId : Id) (info : DeviceModify) : Service Unit := do
  let world ← get
  match DeviceService.queryOneWithAuth world userId deviceId with
  | .error error => throw error
  | .ok found => transaction rollback (DeviceService.updateInfo found.device info)

/-- The script that the record of a node names. -/
def recordScript (world : World) (addr : LoRaAddr) : Option Id :=
  (NodeField.script.codec.fromValue (world.cache.nodes.node addr .script)).join

/-- What an uplink is decoded with; without its script it is dropped. -/
inductive Decoder where
  | upData
  | withCode (script : String)
  | notFoundScript
  deriving DecidableEq

/-- The choice that `decode_payload` makes by the script of the loaded record. -/
def decodePayload (server : ScriptWorld) (script : Option Id) : Decoder :=
  match script with
  | none => .upData
  | some o =>
      match server.world.rows.scripts.find? fun row => row.id = o with
      | none => .notFoundScript
      | some row => .withCode (server.columns row.id).script

inductive ScriptOperation where
  | insertScript (userId : Id) (script : ScriptRequest) (now : Timestamp)
  | updateScript (userId : Id) (script : ScriptRequest) (now : Timestamp)
  | deleteScript (userId script : Id)
  | deleteUser (userId : Id)
  | putDevice (userId deviceId : Id) (info : DeviceModify)

def scriptStep (server : ScriptWorld) : ScriptOperation → ScriptWorld
  | .insertScript userId script now => (DecodeService.insertScript userId script now).after server
  | .updateScript userId script now => (DecodeService.updateScript userId script now).after server
  | .deleteScript userId script =>
      { server with world := (DecodeService.deleteScript userId script).after server.world }
  | .deleteUser userId =>
      { server with world := (UserService.deleteLocalUser userId).after server.world }
  | .putDevice userId deviceId info =>
      { server with world := (putDevice userId deviceId info).after server.world }

/-- The user has an authority for the device. -/
def MayUse (world : World) (userId deviceId : Id) : Prop :=
  ∃ auth ∈ world.rows.authorities, auth.shareType = .User ∧ auth.shareId = userId ∧
    auth.deviceId = deviceId

/-- The row of a device refers to a script of a user of the device, and no
uplink is dropped for want of its script. -/
structure NoDangling (server : ScriptWorld) : Prop where
  rows : ∀ device ∈ server.world.rows.devices, ∀ script ∈ device.script,
    ∃ row ∈ server.world.rows.scripts, row.id = script ∧
      MayUse server.world row.owner device.id
  uplinks : ∀ addr, decodePayload server (recordScript server.world addr) ≠ .notFoundScript

/-- What a request must spare: a script set for a device is one of its users, a
script that is deleted is in no record, and no script that goes with an account
is in a record or in the row of a device that stays. -/
def SparesScripts (server : ScriptWorld) : ScriptOperation → Prop
  | .insertScript _ _ _ => True
  | .updateScript _ _ _ => True
  | .deleteScript userId script =>
      (∀ device ∈ server.world.rows.devices, device.script ≠ some script) →
        ∀ row ∈ server.world.rows.scripts, row.id = script → row.owner = userId →
          ∀ addr, recordScript server.world addr ≠ some script
  | .deleteUser userId =>
      ∀ row ∈ server.world.rows.scripts, row.owner = userId →
        (∀ device ∈ server.world.rows.devices,
          device.id ∉ DeviceService.ids (DeviceService.owned server.world userId) →
            device.script ≠ some row.id) ∧
        ∀ addr, recordScript server.world addr ≠ some row.id
  | .putDevice userId deviceId info =>
      ∀ found, DeviceService.queryOneWithAuth server.world userId deviceId = .ok found →
        found.device.deviceType = .LoRaNode → info.resetScript = none →
          (server.world.lora.findNode deviceId).isSome → ∀ script ∈ info.script,
            ∀ row ∈ server.world.rows.scripts, row.id = script →
              MayUse server.world row.owner deviceId

section

variable {server next : ScriptWorld}

/-- The record of a node that loads names the script that is read from its field. -/
theorem loaded_script {world : World} {addr : LoRaAddr} {info : NodeInfo}
    (h : NodeInfo.loadByAddr world.cache.nodes addr = .ok (some info)) :
    recordScript world addr = info.script := by
  obtain ⟨fields, hRead, rfl⟩ := NodeHash.load_eq_some h
  rw [recordScript, HashRecord.read_eq_some.mp hRead .script]
  rfl

/-- A script is found exactly if its row is there. -/
theorem decodePayload_found_iff (server : ScriptWorld) (script : Option Id) :
    decodePayload server script ≠ .notFoundScript ↔
      ∀ o ∈ script, ∃ row ∈ server.world.rows.scripts, row.id = o := by
  cases script with
  | none => simp [decodePayload]
  | some o =>
      simp only [decodePayload, Option.mem_some_iff, forall_eq']
      cases hFound : server.world.rows.scripts.find? fun row => row.id = o with
      | none =>
          have hNone := List.find?_eq_none.mp hFound
          simpa using hNone
      | some row =>
          have hId : row.id = o := by simpa using List.find?_some hFound
          simpa using ⟨row, List.mem_of_find?_eq_some hFound, hId⟩

/-- Where nothing dangles an uplink of a node that is known finds its script. -/
theorem NoDangling.uplink_decoded (h : NoDangling server) {addr : LoRaAddr} {info : NodeInfo}
    (hLoad : NodeInfo.loadByAddr server.world.cache.nodes addr = .ok (some info)) :
    decodePayload server info.script ≠ .notFoundScript := by
  rw [← loaded_script hLoad]
  exact h.uplinks addr

/-- Nothing dangles where the devices, the authorities and the records are as
before, and each script is still there with its owner. -/
theorem NoDangling.mono (h : NoDangling server)
    (hDevices : next.world.rows.devices = server.world.rows.devices)
    (hAuthorities : next.world.rows.authorities = server.world.rows.authorities)
    (hNodes : next.world.cache.nodes = server.world.cache.nodes)
    (hScripts : ∀ row ∈ server.world.rows.scripts,
      ∃ other ∈ next.world.rows.scripts, other.id = row.id ∧ other.owner = row.owner) :
    NoDangling next where
  rows := by
    intro device hDevice script hScript
    rw [hDevices] at hDevice
    obtain ⟨row, hRow, rfl, hUse⟩ := h.rows device hDevice script hScript
    obtain ⟨other, hOther, hId, hOwner⟩ := hScripts row hRow
    refine ⟨other, hOther, hId, ?_⟩
    rw [MayUse, hAuthorities, hOwner]
    exact hUse
  uplinks := by
    intro addr
    have hBefore := h.uplinks addr
    rw [decodePayload_found_iff] at hBefore ⊢
    intro o hNamed
    rw [recordScript, hNodes] at hNamed
    obtain ⟨row, hRow, rfl⟩ := hBefore o hNamed
    obtain ⟨other, hOther, hId, -⟩ := hScripts row hRow
    exact ⟨other, hOther, hId⟩

def scriptKeys (server : ScriptWorld) : List Id := server.world.rows.scripts.map fun row => row.id

/-- The key of a row determines it. -/
theorem script_unique (hKeys : (scriptKeys server).Nodup) {row other : DecodeScriptModel}
    (hRow : row ∈ server.world.rows.scripts) (hOther : other ∈ server.world.rows.scripts)
    (hSame : row.id = other.id) : row = other :=
  List.inj_on_of_nodup_map hKeys hRow hOther hSame

/-- A script is found among those of the user. -/
theorem findScript_some {rows : Rows} {userId script : Id} {row : DecodeScriptModel}
    (h : DecodeService.findScript rows userId script = some row) :
    row ∈ rows.scripts ∧ row.id = script ∧ row.owner = userId := by
  have hFound := List.find?_some h
  exact ⟨List.mem_of_find?_eq_some h, by simpa using hFound⟩

end

/-! A script of a user comes or changes. -/

section

variable (server : ScriptWorld) (userId : Id) (req : ScriptRequest) (now : Timestamp)

/-- An update leaves everything as it is, or writes the row of a script of the
user under its key. -/
theorem updateScript_cases :
    (DecodeService.updateScript userId req now).after server = server ∨
      ∃ script ∈ server.world.rows.scripts, ∃ columns,
        (DecodeService.updateScript userId req now).after server =
          server.update { script with name := req.name } columns := by
  unfold DecodeService.updateScript
  cases req.id with
  | none => exact .inl rfl
  | some scriptId =>
      dsimp only
      cases hFound : DecodeService.findScript server.world.rows userId scriptId with
      | none =>
          refine .inl ?_
          rw [after, get_bind, hFound]
          rfl
      | some script =>
          refine .inr ⟨script, (findScript_some hFound).1, ?_⟩
          rw [after, get_bind, hFound]
          exact ⟨_, rfl⟩

/-- An insertion is an update, or it takes a number at most, or it adds a row
under a new key. -/
theorem insertScript_cases :
    (DecodeService.insertScript userId req now).after server =
        (DecodeService.updateScript userId req now).after server ∨
      (DecodeService.insertScript userId req now).after server = server ∨
      (DecodeService.insertScript userId req now).after server =
        { server with next := server.next + 1 } ∨
      ∃ id columns, id ∉ scriptKeys server ∧
        (DecodeService.insertScript userId req now).after server =
          { server with next := server.next + 1 }.insert ⟨id, userId, req.name⟩ columns := by
  unfold DecodeService.insertScript
  split_ifs with hUpdate
  · exact .inl rfl
  · refine .inr ?_
    cases hNumber : numbered server.next with
    | error error =>
        refine .inl ?_
        rw [after, get_bind, hNumber]
        rfl
    | ok id =>
        refine .inr ?_
        by_cases hTaken : (server.world.rows.scripts.any fun row => row.id = id) = true
        · refine .inl ?_
          rw [after, get_bind, hNumber, bind_ok (ofExcept_ok rfl server), modify_bind,
            if_pos hTaken]
          rfl
        · refine .inr ⟨id, ?_⟩
          rw [after, get_bind, hNumber, bind_ok (ofExcept_ok rfl server), modify_bind,
            if_neg hTaken]
          refine ⟨_, fun hKey => hTaken ?_, rfl⟩
          obtain ⟨row, hRow, hId⟩ := List.mem_map.mp hKey
          exact List.any_eq_true.mpr ⟨row, hRow, decide_eq_true hId⟩

variable {server}

/-- A script that is renamed keeps its number. -/
theorem update_row {script : DecodeScriptModel} (hScript : script ∈ server.world.rows.scripts)
    (hKeys : (scriptKeys server).Nodup) (name : String) {row : DecodeScriptModel}
    (hRow : row ∈ server.world.rows.scripts) :
    (if row.id = script.id then { script with name := name } else row).id = row.id ∧
      (if row.id = script.id then { script with name := name } else row).owner = row.owner := by
  split_ifs with hSame
  · rw [script_unique hKeys hRow hScript hSame]
    exact ⟨rfl, rfl⟩
  · exact ⟨rfl, rfl⟩

/-- Renaming a script leaves no reference behind. -/
theorem updateScript_noDangling (hKeys : (scriptKeys server).Nodup) (h : NoDangling server) :
    (scriptKeys ((DecodeService.updateScript userId req now).after server)).Nodup ∧
      NoDangling ((DecodeService.updateScript userId req now).after server) := by
  rcases updateScript_cases server userId req now with hSame | ⟨script, hScript, columns, hUpdate⟩
  · rw [hSame]
    exact ⟨hKeys, h⟩
  · rw [hUpdate]
    have hRows := fun row (hRow : row ∈ server.world.rows.scripts) =>
      update_row hScript hKeys req.name hRow
    refine ⟨?_, h.mono rfl rfl rfl fun row hRow => ⟨_, List.mem_map_of_mem hRow, hRows row hRow⟩⟩
    have hSameKeys : scriptKeys (server.update { script with name := req.name } columns) =
        scriptKeys server := by
      rw [scriptKeys, scriptKeys, ScriptWorld.update, List.map_map]
      exact List.map_congr_left fun row hRow => (hRows row hRow).1
    rw [hSameKeys]
    exact hKeys

/-- A new script is referred to by nothing yet. -/
theorem insertScript_noDangling (hKeys : (scriptKeys server).Nodup) (h : NoDangling server) :
    (scriptKeys ((DecodeService.insertScript userId req now).after server)).Nodup ∧
      NoDangling ((DecodeService.insertScript userId req now).after server) := by
  rcases insertScript_cases server userId req now with
    hUpdate | hSame | hNumber | ⟨id, columns, hNew, hInsert⟩
  · rw [hUpdate]
    exact updateScript_noDangling userId req now hKeys h
  · rw [hSame]
    exact ⟨hKeys, h⟩
  · rw [hNumber]
    exact ⟨hKeys, h.mono rfl rfl rfl fun row hRow => ⟨row, hRow, rfl, rfl⟩⟩
  · rw [hInsert]
    refine ⟨?_, h.mono rfl rfl rfl
      fun row hRow => ⟨row, List.mem_append_left _ hRow, rfl, rfl⟩⟩
    rw [scriptKeys, ScriptWorld.insert, List.map_append, List.map_singleton]
    refine List.nodup_append.mpr ⟨hKeys, List.nodup_singleton _, ?_⟩
    intro other hOther key hKey hSame
    have hId : other = id := hSame.trans (List.mem_singleton.mp hKey)
    exact hNew (hId ▸ hOther)

/-- A deletion leaves everything as it is, and then there is nothing to spare,
or it takes the row of a script of the user that no device refers to. -/
theorem deleteScript_cases (world : World) (userId script : Id) :
    ((DecodeService.deleteScript userId script).after world = world ∧
        ((∀ device ∈ world.rows.devices, device.script ≠ some script) →
          ∀ row ∈ world.rows.scripts, row.id = script → row.owner ≠ userId)) ∨
      ((DecodeService.deleteScript userId script).after world =
          { world with
            rows := { world.rows with
              scripts := world.rows.scripts.filter fun row => row.id ≠ script } } ∧
        (∀ device ∈ world.rows.devices, device.script ≠ some script) ∧
        ∃ row ∈ world.rows.scripts, row.id = script ∧ row.owner = userId) := by
  unfold DecodeService.deleteScript
  by_cases hCount : 0 < (world.rows.devices.filter fun device => device.script = some script).length
  · refine .inl ⟨?_, fun hNone => ?_⟩
    · rw [after, get_bind]
      rw [if_pos hCount]
      rfl
    · obtain ⟨device, hDevice⟩ := List.exists_mem_of_length_pos hCount
      obtain ⟨hMem, hScript⟩ := List.mem_filter.mp hDevice
      exact absurd (of_decide_eq_true hScript) (hNone device hMem)
  · have hNone : ∀ device ∈ world.rows.devices, device.script ≠ some script := by
      intro device hDevice hScript
      exact hCount (List.length_pos_of_mem (List.mem_filter.mpr ⟨hDevice, decide_eq_true hScript⟩))
    cases hFound : DecodeService.findScript world.rows userId script with
    | none =>
        refine .inl ⟨?_, fun _ row hRow hId hOwner => ?_⟩
        · rw [after, get_bind]
          rw [if_neg hCount, hFound]
          rfl
        · have hMissing := List.find?_eq_none.mp hFound row hRow
          exact hMissing (decide_eq_true ⟨hId, hOwner⟩)
    | some row =>
        obtain ⟨hRow, hId, hOwner⟩ := findScript_some hFound
        refine .inr ⟨?_, hNone, row, hRow, hId, hOwner⟩
        rw [after, get_bind]
        rw [if_neg hCount, hFound, ← hId]
        rfl

/-- A script may be deleted exactly if nothing refers to it. -/
theorem deleteScript_noDangling_iff (hKeys : (scriptKeys server).Nodup) (h : NoDangling server)
    (script : Id) :
    (scriptKeys (scriptStep server (.deleteScript userId script))).Nodup ∧
      (NoDangling (scriptStep server (.deleteScript userId script)) ↔
        SparesScripts server (.deleteScript userId script)) := by
  rw [scriptStep]
  rcases deleteScript_cases server.world userId script with
    ⟨hSame, hNothing⟩ | ⟨hGone, hNone, row, hRow, hId, hOwner⟩
  · rw [hSame]
    exact ⟨hKeys, iff_of_true h fun hNone row hRow hId hOwner =>
      absurd hOwner (hNothing hNone row hRow hId)⟩
  · rw [hGone]
    refine ⟨List.Nodup.sublist (List.Sublist.map _ List.filter_sublist) hKeys, ?_⟩
    constructor
    · intro hAfter _ _ _ _ _ addr hNamed
      obtain ⟨other, hOther, hOtherId⟩ :=
        (decodePayload_found_iff _ _).mp (hAfter.uplinks addr) script hNamed
      exact of_decide_eq_true (List.mem_filter.mp hOther).2 hOtherId
    · intro hSpares
      refine ⟨fun device hDevice other hOther => ?_, fun addr => ?_⟩
      · obtain ⟨found, hFound, hFoundId, hUse⟩ := h.rows device hDevice other hOther
        refine ⟨found, List.mem_filter.mpr ⟨hFound, decide_eq_true fun hSame => ?_⟩, hFoundId, hUse⟩
        rw [← hFoundId, hSame] at hOther
        exact hNone device hDevice hOther
      · rw [decodePayload_found_iff]
        intro o hNamed
        obtain ⟨found, hFound, hFoundId⟩ :=
          (decodePayload_found_iff _ _).mp (h.uplinks addr) o hNamed
        refine ⟨found, List.mem_filter.mpr ⟨hFound, decide_eq_true fun hSame => ?_⟩, hFoundId⟩
        refine hSpares hNone row hRow hId hOwner addr ?_
        rw [← hSame, hFoundId]
        exact hNamed

/-- An account may be deleted exactly if nothing that stays refers to its scripts. -/
theorem deleteUser_noDangling_iff (hKeys : (scriptKeys server).Nodup) (h : NoDangling server) :
    (scriptKeys (scriptStep server (.deleteUser userId))).Nodup ∧
      (NoDangling (scriptStep server (.deleteUser userId)) ↔
        SparesScripts server (.deleteUser userId)) := by
  rw [scriptStep, after_eq (deleteLocalUser_eq server.world userId)]
  refine ⟨List.Nodup.sublist (List.Sublist.map _ List.filter_sublist) hKeys, ?_⟩
  constructor
  · intro hAfter row hRow hOwner
    -- a row with this key that stays would be this one, which goes
    have hGone : ¬∃ other ∈ (withoutAccount server.world userId).rows.scripts,
        other.id = row.id := by
      rintro ⟨other, hOther, hId⟩
      obtain ⟨hMem, hStays⟩ := List.mem_filter.mp hOther
      rw [script_unique hKeys hMem hRow hId] at hStays
      exact of_decide_eq_true hStays hOwner
    refine ⟨fun device hDevice hOther hScript => hGone ?_, fun addr hNamed => hGone ?_⟩
    · obtain ⟨other, hMem, hId, -⟩ := hAfter.rows device
        (List.mem_filter.mpr ⟨hDevice, decide_eq_true hOther⟩) row.id hScript
      exact ⟨other, hMem, hId⟩
    · exact (decodePayload_found_iff _ _).mp (hAfter.uplinks addr) row.id hNamed
  · intro hSpares
    refine ⟨fun device hDevice script hScript => ?_, fun addr => ?_⟩
    · obtain ⟨hMem, hStays⟩ := List.mem_filter.mp hDevice
      have hOther := of_decide_eq_true hStays
      obtain ⟨row, hRow, rfl, auth, hAuth, hType, hUser, hFor⟩ := h.rows device hMem script hScript
      refine ⟨row, List.mem_filter.mpr ⟨hRow, decide_eq_true fun hOwner => ?_⟩, rfl, auth,
        List.mem_filter.mpr ⟨hAuth, decide_eq_true ?_⟩, hType, hUser, hFor⟩
      · exact (hSpares row hRow hOwner).1 device hMem hOther hScript
      · rw [hFor]
        exact hOther
    · rw [decodePayload_found_iff]
      intro o hNamed
      obtain ⟨row, hRow, rfl⟩ := (decodePayload_found_iff _ _).mp (h.uplinks addr) o hNamed
      refine ⟨row, List.mem_filter.mpr ⟨hRow, decide_eq_true fun hOwner => ?_⟩, rfl⟩
      exact (hSpares row hRow hOwner).2 addr hNamed

end

/-! A script is set for a device. -/

section

variable {state : State} {device : DevicesModel} {info : DeviceModify} {keys : List Id}

/-- The scripts that records name are among some keys. -/
def Within (keys : List Id) (store : NodeStore) : Prop :=
  ∀ addr, ∀ o ∈ (NodeField.script.codec.fromValue (store.node addr .script)).join, o ∈ keys

/-- An edit of a record refers to a known script if it keeps the old one or writes such.
-/
theorem Within.onHash {store : NodeStore} (h : Within keys store) (eui : Eui)
    {edit : NodeHash → NodeHash}
    (hEdit : ∀ hash : NodeHash, edit hash .script = hash .script ∨
      ∀ o ∈ (NodeField.script.codec.fromValue (edit hash .script)).join, o ∈ keys) :
    Within keys (onHash store eui edit) := by
  intro addr o hNamed
  by_cases hLeads : Leads store eui addr
  · rw [node_onHash_of_leads hLeads] at hNamed
    rcases hEdit (store.node addr) with hSame | hWithin
    · rw [hSame] at hNamed
      exact h addr o hNamed
    · exact hWithin o hNamed
  · rw [node_onHash_of_not_leads hLeads] at hNamed
    exact h addr o hNamed

/-- The fields of a request without a script keep the scripts of the records. -/
theorem Within.updateCache {store : NodeStore} (h : Within keys store) (eui : Eui) :
    Within keys (updateCache store eui info.cacheChanges) := by
  rw [updateCache_eq (written_of_assigns (assigns_cacheChanges info)), lastChange_cacheChanges]
  exact h.onHash eui fun hash => .inl (HashRecord.overwrite_none rfl)

/-- A script that is set is a known one. -/
theorem Within.updateScript {active row : DevicesModel} {next : State}
    (h : Within state.scripts state.store)
    (hUpdate : updateScript state device active info = .ok (next, row)) :
    Within state.scripts next.store := by
  unfold Management.updateScript at hUpdate
  split at hUpdate
  · cases hUpdate
    exact h
  · rename_i script hScript
    split_ifs at hUpdate with hSets hThere
    · cases hUpdate
      show Within state.scripts (NodeInfo.updateByEui state.store device.eui .script (some script))
      rw [updateByEui_eq]
      refine h.onHash device.eui fun hash => .inr fun o hNamed => ?_
      rw [set_eq_update hash rfl, Function.update_self, NodeField.codec_inverse] at hNamed
      cases hNamed
      exact hThere
    · cases hUpdate
      exact h

/-- A script that is reset refers to nothing. -/
theorem Within.resetScript {active : DevicesModel} (h : Within keys state.store) :
    Within keys (resetScript state device active info).1.store := by
  unfold Management.resetScript
  split_ifs
  · show Within keys (NodeInfo.resetByEui state.store device.eui .script)
    rw [resetByEui_eq]
    refine h.onHash device.eui fun hash => .inr fun o hNamed => ?_
    rw [NodeHash.remove, Function.update_self] at hNamed
    cases hNamed
  · exact h

/-- Whether it fails or not, an update brings only scripts that exist to the records. -/
theorem Within.updateInfo (h : Within state.scripts state.store) (device : DevicesModel)
    (info : DeviceModify) :
    Within state.scripts (Management.updateInfo state device info).1.store := by
  unfold Management.updateInfo
  dsimp only
  split
  · exact h
  · rename_i next row hUpdate
    have hScript := h.updateScript hUpdate
    have hReset : Within state.scripts (Management.resetScript next device row info).1.store :=
      hScript.resetScript
    split_ifs
    · exact hReset
    · unfold updateLoRaNode
      split
      · exact hReset
      · exact hReset.updateCache device.eui
    · exact hReset

/-- The row of the device is the one that is written. -/
theorem updateInfo_devices {next : State} (h : updateInfo state device info = (next, .ok ())) :
    next.devices = state.devices.map fun row =>
      if row.id = device.id then info.writtenDevice device else row := by
  by_cases hNode : device.deviceType = .LoRaNode
  · obtain ⟨node, -, rfl⟩ := updateInfo_node hNode h
    rfl
  · obtain rfl := updateInfo_other hNode h
    rfl

/-- A node that is updated has a row, and a script set for it exists or is the
one that it has already. -/
theorem updateInfo_script {next : State} (hNode : device.deviceType = .LoRaNode)
    (h : updateInfo state device info = (next, .ok ())) :
    (state.findNode device.id).isSome ∧
      ∀ script ∈ info.script, script ∈ state.scripts ∨ device.script = some script := by
  obtain ⟨node, hRow, -⟩ := updateInfo_node hNode h
  refine ⟨Option.isSome_iff_exists.mpr ⟨node, hRow⟩, fun script hScript => ?_⟩
  unfold Management.updateInfo Management.updateScript at h
  rw [Option.mem_def.mp hScript] at h
  dsimp only at h
  by_cases hSame : device.script = some script
  · exact .inr hSame
  · rw [if_pos ⟨hNode, hSame⟩] at h
    by_cases hThere : script ∈ state.scripts
    · exact .inl hThere
    · rw [if_neg hThere] at h
      cases h

/-- The update of a node with its row fails only over a script that is not there. -/
theorem updateInfo_refuses (hNode : device.deviceType = .LoRaNode)
    (hRow : (state.findNode device.id).isSome) {next : State} {error : ApiError}
    (h : updateInfo state device info = (next, .error error)) :
    ∀ script ∈ info.script, script ∉ state.scripts := by
  intro script hScript hThere
  obtain ⟨node, hFound⟩ := Option.isSome_iff_exists.mp hRow
  have hGate : device.deviceType ≠ .LoRaGate := by rw [hNode]; decide
  unfold Management.updateInfo Management.updateScript Management.resetScript updateLoRaNode
    State.findNode at h
  unfold State.findNode at hFound
  rw [Option.mem_def.mp hScript] at h
  simp only [hThere, if_true, hNode, true_and, reduceCtorEq, false_and, if_false] at h
  split_ifs at h <;> simp [hFound] at h

/-- What an update of a device does besides is to rows of gateways. -/
theorem updateInfo_world (world : World) (device : DevicesModel) (info : DeviceModify) :
    ∃ after result, DeviceService.updateInfo device info world = some (after, result) ∧
      after.rows.devices = (Management.updateInfo world.lora device info).1.devices ∧
      after.rows.scripts = world.rows.scripts ∧
      after.rows.authorities = world.rows.authorities ∧
      after.cache.nodes = (Management.updateInfo world.lora device info).1.store ∧
      (result = .ok () → (Management.updateInfo world.lora device info).2 = .ok ()) ∧
      (device.deviceType = .LoRaNode →
        result = (Management.updateInfo world.lora device info).2) := by
  unfold DeviceService.updateInfo
  generalize hUpdate : Management.updateInfo world.lora device info = update
  obtain ⟨state, result⟩ := update
  have hLora : onLora (fun state => Management.updateInfo state device info) world =
      some (world.withLora state, result) := by
    rw [onLora, hUpdate]
  cases result with
  | error error =>
      refine ⟨_, _, bind_error hLora, rfl, rfl, rfl, rfl, fun hOk => ?_, fun _ => rfl⟩
      cases hOk
  | ok _ =>
      rw [bind_ok hLora]
      split_ifs with hGate
      · have hNode : device.deviceType ≠ .LoRaNode := by rw [hGate]; decide
        unfold DeviceService.updateGate
        rw [get_bind]
        cases (world.withLora state).rows.loraGates.find? fun gate => gate.deviceId = device.id with
        | none =>
            refine ⟨_, _, rfl, rfl, rfl, rfl, rfl, fun hOk => ?_, fun h => absurd h hNode⟩
            cases hOk
        | some gate =>
            exact ⟨_, _, rfl, rfl, rfl, rfl, rfl, fun _ => rfl, fun h => absurd h hNode⟩
      · exact ⟨_, _, rfl, rfl, rfl, rfl, rfl, fun _ => rfl, fun _ => rfl⟩

/-- The row of the device is written with a script that exists or that it has,
or no row changes; in the records there are only scripts that exist or that
they have. -/
structure Modified (world after : World) (device : DevicesModel) (info : DeviceModify) : Prop where
  scripts : after.rows.scripts = world.rows.scripts
  authorities : after.rows.authorities = world.rows.authorities
  records : Within world.lora.scripts world.cache.nodes →
    Within world.lora.scripts after.cache.nodes
  devices :
    (after.rows.devices = world.rows.devices ∧
      (device.deviceType = .LoRaNode → (world.lora.findNode device.id).isSome →
        ∀ script ∈ info.script, script ∉ world.lora.scripts)) ∨
    (after.rows.devices = world.rows.devices.map (fun row =>
        if row.id = device.id then info.writtenDevice device else row) ∧
      (device.deviceType = .LoRaNode → (world.lora.findNode device.id).isSome ∧
        ∀ script ∈ info.script, script ∈ world.lora.scripts ∨ device.script = some script))

/-- A change of a device modifies the row and the record that its EUI leads to. -/
theorem putDevice_modified {world : World} {userId deviceId : Id} {found : DeviceWithAuth}
    (hFound : DeviceService.queryOneWithAuth world userId deviceId = .ok found)
    (info : DeviceModify) :
    Modified world ((putDevice userId deviceId info).after world) found.device info := by
  have hRun : (putDevice userId deviceId info).after world =
      (transaction rollback (DeviceService.updateInfo found.device info)).after world := by
    unfold putDevice
    rw [after, get_bind, hFound]
    rfl
  obtain ⟨after, result, hUpdate, hDevices, hScripts, hAuthorities, hNodes, hOk, hNode⟩ :=
    updateInfo_world world found.device info
  have hRecords : Within world.lora.scripts world.cache.nodes →
      Within world.lora.scripts after.cache.nodes := by
    intro hWithin
    rw [hNodes]
    have hLora : Within world.lora.scripts world.lora.store := hWithin
    exact hLora.updateInfo found.device info
  rw [hRun]
  cases result with
  | error error =>
      rw [after_transaction_error hUpdate]
      refine ⟨rfl, rfl, hRecords, .inl ⟨rfl, fun hType hRow => ?_⟩⟩
      exact updateInfo_refuses hType hRow (Prod.ext rfl (hNode hType).symm)
  | ok _ =>
      rw [after_transaction_ok hUpdate]
      have hDone : Management.updateInfo world.lora found.device info =
          ((Management.updateInfo world.lora found.device info).1, .ok ()) := Prod.ext rfl (hOk rfl)
      exact ⟨hScripts, hAuthorities, hRecords, .inr ⟨hDevices.trans (updateInfo_devices hDone),
        fun hType => updateInfo_script hType hDone⟩⟩

end

/-- Records refer to known scripts exactly if no payload misses its script. -/
theorem within_scripts (server : ScriptWorld) :
    Within server.world.lora.scripts server.world.cache.nodes ↔
      ∀ addr, decodePayload server (recordScript server.world addr) ≠ .notFoundScript := by
  refine forall_congr' fun addr => ?_
  rw [decodePayload_found_iff]
  exact forall₂_congr fun o _ => List.mem_map

/-- The script of a row that an update writes is the one that was asked for, or
the old one, or none. -/
theorem rowScript_cases (device : DevicesModel) (info : DeviceModify) :
    info.rowScript device = none ∨ info.rowScript device = device.script ∨
      (device.deviceType = .LoRaNode ∧ info.resetScript = none ∧
        info.rowScript device = info.script) := by
  unfold DeviceModify.rowScript
  split_ifs with hReset hNode
  · exact .inl rfl
  · cases hScript : info.script with
    | none => exact .inr (.inl rfl)
    | some script =>
        exact .inr (.inr ⟨hNode, Option.not_isSome_iff_eq_none.mp hReset, rfl⟩)
  · exact .inr (.inl rfl)

section

variable {server next : ScriptWorld} {device : DevicesModel} {info : DeviceModify}

/-- Where no row of a device changes nothing comes to dangle. -/
theorem NoDangling.of_modified (h : NoDangling server)
    (hModified : Modified server.world next.world device info)
    (hRows : ∀ row ∈ next.world.rows.devices, ∀ script ∈ row.script,
      ∃ other ∈ server.world.rows.scripts, other.id = script ∧
        MayUse server.world other.owner row.id) : NoDangling next where
  rows := by
    intro row hRow script hScript
    obtain ⟨other, hOther, hId, hUse⟩ := hRows row hRow script hScript
    refine ⟨other, ?_, hId, ?_⟩
    · rw [hModified.scripts]
      exact hOther
    · rw [MayUse, hModified.authorities]
      exact hUse
  uplinks := by
    have hSame : next.world.lora.scripts = server.world.lora.scripts := by
      rw [World.lora, World.lora, hModified.scripts]
    rw [← within_scripts, hSame]
    exact hModified.records ((within_scripts server).mpr h.uplinks)

/-- A device keeps its script, or gets one that exists and that it may use. -/
theorem NoDangling.writtenScript (h : NoDangling server)
    (hDevice : device ∈ server.world.rows.devices)
    (hThere : device.deviceType = .LoRaNode → (server.world.lora.findNode device.id).isSome ∧
      ∀ script ∈ info.script, script ∈ server.world.lora.scripts ∨ device.script = some script)
    (hAllowed : device.deviceType = .LoRaNode → info.resetScript = none →
      (server.world.lora.findNode device.id).isSome → ∀ script ∈ info.script,
        ∀ row ∈ server.world.rows.scripts, row.id = script →
          MayUse server.world row.owner device.id)
    {script : Id} (hScript : info.rowScript device = some script) :
    ∃ other ∈ server.world.rows.scripts, other.id = script ∧
      MayUse server.world other.owner device.id := by
  rcases rowScript_cases device info with hNone | hOldScript | ⟨hNode, hReset, hNew⟩
  · cases hNone.symm.trans hScript
  · exact h.rows device hDevice script (hOldScript.symm.trans hScript)
  · obtain ⟨hNodeRow, hExists⟩ := hThere hNode
    have hAsked : info.script = some script := hNew.symm.trans hScript
    rcases hExists script hAsked with hIn | hHas
    · obtain ⟨other, hOther, rfl⟩ := List.mem_map.mp hIn
      exact ⟨other, hOther, rfl, hAllowed hNode hReset hNodeRow _ hAsked other hOther rfl⟩
    · exact h.rows device hDevice script hHas

/-- A change leaves nothing behind exactly if a script that is written is known. -/
theorem modified_iff (next : ScriptWorld) (hKeys : (scriptKeys server).Nodup)
    (h : NoDangling server) (hDevice : device ∈ server.world.rows.devices)
    (hModified : Modified server.world next.world device info) :
    NoDangling next ↔ (device.deviceType = .LoRaNode → info.resetScript = none →
      (server.world.lora.findNode device.id).isSome → ∀ script ∈ info.script,
        ∀ row ∈ server.world.rows.scripts, row.id = script →
          MayUse server.world row.owner device.id) := by
  rcases hModified.devices with ⟨hSame, hMissing⟩ | ⟨hWritten, hThere⟩
  · refine iff_of_true (h.of_modified hModified ?_) ?_
    · rw [hSame]
      exact h.rows
    · intro hNode _ hRow script hScript row hMem hId
      exact absurd (List.mem_map.mpr ⟨row, hMem, hId⟩) (hMissing hNode hRow script hScript)
  · constructor
    · intro hAfter hNode hReset _ script hScript row hRow hId
      have hRowScript : info.rowScript device = some script := by
        rw [DeviceModify.rowScript, hReset, if_neg (by decide), if_pos hNode,
          Option.mem_def.mp hScript, Option.some_or]
      have hMem : info.writtenDevice device ∈ next.world.rows.devices := by
        rw [hWritten]
        exact List.mem_map.mpr ⟨device, hDevice, if_pos rfl⟩
      obtain ⟨other, hOther, hOtherId, hUse⟩ := hAfter.rows _ hMem script hRowScript
      rw [hModified.scripts] at hOther
      rw [MayUse, hModified.authorities] at hUse
      rw [script_unique hKeys hRow hOther (hId.trans hOtherId.symm)]
      exact hUse
    · intro hAllowed
      refine h.of_modified hModified fun row hRow script hScript => ?_
      rw [hWritten] at hRow
      obtain ⟨old, hOld, rfl⟩ := List.mem_map.mp hRow
      by_cases hId : old.id = device.id
      · rw [if_pos hId] at hScript ⊢
        exact h.writtenScript hDevice hThere hAllowed hScript
      · rw [if_neg hId] at hScript ⊢
        exact h.rows old hOld script hScript

/-- One change of a device keeps all references exactly if it spares the scripts. -/
theorem putDevice_noDangling_iff (hKeys : (scriptKeys server).Nodup) (h : NoDangling server)
    (userId deviceId : Id) (info : DeviceModify) :
    (scriptKeys (scriptStep server (.putDevice userId deviceId info))).Nodup ∧
      (NoDangling (scriptStep server (.putDevice userId deviceId info)) ↔
        SparesScripts server (.putDevice userId deviceId info)) := by
  cases hFound : DeviceService.queryOneWithAuth server.world userId deviceId with
  | error error =>
      have hSame : (putDevice userId deviceId info).after server.world = server.world := by
        unfold putDevice
        rw [after, get_bind, hFound]
        rfl
      rw [scriptStep, hSame]
      refine ⟨hKeys, iff_of_true h fun found hOk => ?_⟩
      rw [hFound] at hOk
      cases hOk
  | ok found =>
      obtain ⟨hDevice, rfl⟩ := queryOneWithAuth_ok hFound
      have hModified := putDevice_modified hFound info
      have hIff := modified_iff (scriptStep server (.putDevice userId _ info)) hKeys h hDevice
        hModified
      refine ⟨?_, hIff.trans ⟨fun hAllowed other hOther => ?_, fun hSpares => hSpares found hFound⟩⟩
      · rw [scriptKeys, scriptStep, hModified.scripts]
        exact hKeys
      · cases hFound.symm.trans hOther
        exact hAllowed

/-- A request keeps the keys apart, and nothing dangles after it exactly if it
spares what others refer to. -/
theorem scriptStep_iff (hKeys : (scriptKeys server).Nodup) (h : NoDangling server)
    (operation : ScriptOperation) :
    (scriptKeys (scriptStep server operation)).Nodup ∧
      (NoDangling (scriptStep server operation) ↔ SparesScripts server operation) := by
  cases operation with
  | insertScript userId script now =>
      obtain ⟨hNext, hGood⟩ := insertScript_noDangling userId script now hKeys h
      exact ⟨hNext, iff_of_true hGood trivial⟩
  | updateScript userId script now =>
      obtain ⟨hNext, hGood⟩ := updateScript_noDangling userId script now hKeys h
      exact ⟨hNext, iff_of_true hGood trivial⟩
  | deleteScript userId script => exact deleteScript_noDangling_iff userId hKeys h script
  | deleteUser userId => exact deleteUser_noDangling_iff userId hKeys h
  | putDevice userId deviceId info => exact putDevice_noDangling_iff hKeys h userId deviceId info

end

/-- From a server on where no script is missing, none is ever missing exactly if
every request spares what others refer to. -/
theorem no_dangling_script_iff (server : ScriptWorld) (operations : List ScriptOperation)
    (hKeys : (scriptKeys server).Nodup) (h : NoDangling server) :
    Along scriptStep NoDangling server operations ↔
      Meets scriptStep SparesScripts server operations :=
  along_iff_meets
    (fun _ operation hKeys hGood _ => (scriptStep_iff hKeys hGood operation).1)
    (fun _ operation hKeys hGood => (scriptStep_iff hKeys hGood operation).2)
    server operations hKeys h

/-- The server with one node, of user 5, and no scripts. -/
def fieldServer : ScriptWorld := ⟨fieldWorld, fun _ => ⟨"", "", [], ⟨0⟩, ⟨0⟩⟩, 1⟩

def newScriptRequest : ScriptRequest := ⟨none, "field", .JS, "return []", []⟩

def scriptModify : DeviceModify := { keyModify none none with script := some ⟨1⟩ }

/-- A record that is new names the script of its row. -/
theorem within_register {info : NodeInfo} (eui : Eui) (addr : LoRaAddr)
    (hScript : info.script = none) :
    Within [] (NodeInfo.register NodeStore.empty info eui addr) := by
  have hNode : (NodeInfo.register NodeStore.empty info eui addr).node =
      Function.update NodeStore.empty.node addr (NodeHash.empty.write info) := rfl
  intro other o hNamed
  rw [hNode] at hNamed
  by_cases hAddr : other = addr
  · rw [hAddr, Function.update_self, NodeHash.write, HashRecord.write, NodeInfo.get,
      hScript] at hNamed
    cases hNamed
  · rw [Function.update_of_ne hAddr] at hNamed
    cases hNamed

theorem fieldServer_noDangling : NoDangling fieldServer where
  rows := by
    have hNone : (fieldServer.world.rows.devices.all fun device =>
        device.script = none) = true := by decide +kernel
    intro device hDevice script hScript
    cases (of_decide_eq_true (List.all_eq_true.mp hNone device hDevice)).symm.trans hScript
  uplinks := by
    obtain ⟨info, eui, addr, hNodes, hScript⟩ : ∃ info eui addr,
        fieldWorld.cache.nodes = NodeInfo.register NodeStore.empty info eui addr ∧
          info.script = none := ⟨_, _, _, rfl, rfl⟩
    have hWithin := within_register eui addr hScript
    rw [← hNodes] at hWithin
    exact (within_scripts fieldServer).mp fun other o hNamed =>
      absurd (hWithin other o hNamed) List.not_mem_nil

theorem fieldServer_keys : (scriptKeys fieldServer).Nodup := by decide +kernel

/-- User 5 gives the node a script of their own. -/
theorem own_script_stays :
    Along scriptStep NoDangling fieldServer
      [.insertScript ⟨5⟩ newScriptRequest ⟨0⟩, .putDevice ⟨5⟩ ⟨1⟩ scriptModify] := by
  refine (no_dangling_script_iff _ _ fieldServer_keys fieldServer_noDangling).mpr
    ⟨trivial, fun _ _ _ _ _ _ _ row hRow _ => ?_, trivial⟩
  have hUse : ((scriptStep fieldServer
      (.insertScript ⟨5⟩ newScriptRequest ⟨0⟩)).world.rows.scripts.all fun row =>
        (scriptStep fieldServer
          (.insertScript ⟨5⟩ newScriptRequest ⟨0⟩)).world.rows.authorities.any fun auth =>
            auth.shareType = .User ∧ auth.shareId = row.owner ∧ auth.deviceId = ⟨1⟩) = true := by
    decide +kernel
  obtain ⟨auth, hAuth, hSame⟩ := List.any_eq_true.mp (List.all_eq_true.mp hUse row hRow)
  exact ⟨auth, hAuth, of_decide_eq_true hSame⟩

/-- User 5 gives the node a script of user 6, whose account is then deleted. -/
def foreignScript : List ScriptOperation :=
  [.insertScript ⟨6⟩ newScriptRequest ⟨0⟩, .putDevice ⟨5⟩ ⟨1⟩ scriptModify, .deleteUser ⟨6⟩]

/-- The row of the node and its record name a script that is gone. -/
theorem foreign_script_gone : ¬Along scriptStep NoDangling fieldServer foreignScript := by
  intro hAlong
  have hRow : ((run scriptStep fieldServer foreignScript).world.rows.devices.any fun device =>
      device.script = some ⟨1⟩) = true := by decide +kernel
  have hScripts : (run scriptStep fieldServer foreignScript).world.rows.scripts = [] := by
    decide +kernel
  obtain ⟨device, hDevice, hScript⟩ := List.any_eq_true.mp hRow
  obtain ⟨row, hMem, -⟩ := (hAlong 3).rows device hDevice ⟨1⟩ (of_decide_eq_true hScript)
  have hNone : row ∈ (run scriptStep fieldServer foreignScript).world.rows.scripts := hMem
  rw [hScripts] at hNone
  exact List.not_mem_nil hNone

end SnapEmu.Server
