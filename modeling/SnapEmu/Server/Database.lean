import SnapEmu.Device.GatewayInfo
import SnapEmu.Device.SnapDeviceInfo
import SnapEmu.Management.State
import SnapEmu.Semantics.Action

/-! The tables of the server, the cache beside them, and services: actions on
both that may fail. A failed transaction takes back the rows, but neither the
cache nor the numbers that sequences have given. -/
namespace SnapEmu.Server

open Device Management Semantics User

structure DeviceLoraGateModel where
  id : Id
  deviceId : Id
  region : LoRaRegion
  eui : Eui
  deriving DecidableEq

structure SnapDeviceModel where
  id : Id
  deviceId : Id
  eui : Eui
  key : Key
  productType : ProductType
  battery : Option Int16
  charge : Bool
  deriving DecidableEq

structure DeviceMqttModel where
  id : Id
  deviceId : Id
  eui : Eui
  username : String
  password : String
  deriving DecidableEq

inductive MqttType where
  | Snap | Gateway | Integration
  deriving DecidableEq

structure SnapIntegrationMqttModel where
  id : Id
  userId : Id
  mqttType : MqttType
  name : String
  username : String
  password : String
  enable : Bool
  createTime : Timestamp
  deriving DecidableEq

inductive ShareType where
  | User | Group
  deriving DecidableEq

structure DeviceAuthorityModel where
  id : Id
  authCreator : Id
  deviceId : Id
  shareType : ShareType
  shareId : Id
  owner : Bool
  manager : Bool
  modify : Bool
  delete : Bool
  share : Bool
  createTime : Timestamp
  deriving DecidableEq

structure DeviceDataModel where
  id : Id
  deviceId : Id
  bytes : String
  createTime : Timestamp
  deriving DecidableEq

structure DeviceFunctionModel where
  id : Id
  device : Id
  funcName : String
  funcValue : String
  deriving DecidableEq

structure SnapDownLinkModel where
  id : Id
  deviceId : Id
  userId : Id
  name : String
  data : String
  order : Int32
  port : Int32
  createTime : Timestamp
  deriving DecidableEq

structure SnapDeviceDataNameModel where
  id : Id
  deviceId : Id
  owner : Id
  name : String
  createTime : Timestamp
  deriving DecidableEq

structure DeviceGroupModel where
  id : Id
  name : String
  description : String
  defaultGroup : Bool
  owner : Id
  createTime : Timestamp
  deriving DecidableEq

structure DeviceMapGroupModel where
  id : Id
  userId : Id
  deviceId : Id
  groupId : Id
  devOrder : Int32
  createTime : Timestamp
  deriving DecidableEq

structure DecodeScriptModel where
  id : Id
  owner : Id
  name : String
  deriving DecidableEq

structure UsersModel where
  id : Id
  userLogin : String
  deriving DecidableEq

inductive TokenType where
  | Access | Refresh
  deriving DecidableEq

structure UserTokenModel where
  id : Id
  userId : Id
  token : String
  tokenType : TokenType
  enable : Bool
  expiresTime : Timestamp
  createTime : Timestamp
  deriving DecidableEq

/-- The rows of each table, in the order of their insertion. -/
structure Rows where
  users : List UsersModel
  tokens : List UserTokenModel
  devices : List DevicesModel
  loraNodes : List DeviceLoraNodeModel
  loraGates : List DeviceLoraGateModel
  snaps : List SnapDeviceModel
  mqtts : List DeviceMqttModel
  integrations : List SnapIntegrationMqttModel
  authorities : List DeviceAuthorityModel
  data : List DeviceDataModel
  functions : List DeviceFunctionModel
  downlinks : List SnapDownLinkModel
  dataNames : List SnapDeviceDataNameModel
  groups : List DeviceGroupModel
  links : List DeviceMapGroupModel
  scripts : List DecodeScriptModel

structure DeviceGroupCacheItem where
  group : DeviceGroupModel
  count : Nat
  deriving DecidableEq

/-- What an access token stands for. -/
structure RedisToken where
  id : Id
  name : String
  deriving DecidableEq

/-- The records of devices, the groups of users, and the entries of access
tokens, whose clock counts microseconds. -/
structure Cache where
  nodes : NodeStore
  gateways : Eui → GatewayHash
  snaps : Eui → SnapHash
  groups : Id → Option (List DeviceGroupCacheItem)
  tokens : ExpiringStore String RedisToken

/-- The next number of each table. -/
structure Sequences where
  user : Nat
  token : Nat
  device : Nat
  loraNode : Nat
  loraGate : Nat
  snap : Nat
  mqtt : Nat
  integration : Nat
  authority : Nat
  function : Nat
  group : Nat
  link : Nat

structure World where
  rows : Rows
  cache : Cache
  sequences : Sequences

def Rows.empty : Rows := ⟨[], [], [], [], [], [], [], [], [], [], [], [], [], [], [], []⟩

def Cache.empty : Cache :=
  ⟨NodeStore.empty, fun _ _ => none, fun _ _ => none, fun _ => none, ExpiringStore.empty⟩

def World.empty : World := ⟨Rows.empty, Cache.empty, ⟨1, 1, 1, 1, 1, 1, 1, 1, 1, 1, 1, 1⟩⟩

abbrev Service (α : Type) := Action World ApiError α

def databaseError (msg : String) : ApiError := .server "sea_orm" (.plain msg)

/-- A transaction over the rows. -/
def rollback (before reached : World) : World := { reached with rows := before.rows }

def sequenceEnds : ApiError := databaseError "reached maximum value of sequence"

/-- The identifier with a number; a sequence ends with the last number of 63
bits. -/
def numbered (number : Nat) : Except ApiError Id :=
  if number < 2 ^ 63 then .ok ⟨UInt64.ofNat number⟩ else .error sequenceEnds

/-- The next number of a table; it is not given again. -/
def draw (number : Sequences → Nat) (next : Sequences → Sequences) : Service Id := do
  let world ← Action.get
  let id ← Action.ofExcept (numbered (number world.sequences))
  Action.modify fun world => { world with sequences := next world.sequences }
  return id

def duplicateKey : ApiError := .server "db type" (.plain "duplicate key")

/-- A row is inserted unless its keys are taken. -/
def insertRow (taken : World → Bool) (add : Rows → Rows) : Service Unit := do
  let world ← Action.get
  if taken world then Action.throw duplicateKey
  else Action.modify fun world => { world with rows := add world.rows }

theorem numbered_of_lt {number : Nat} (h : number < 2 ^ 63) :
    numbered number = .ok ⟨UInt64.ofNat number⟩ := if_pos h

theorem numbered_of_not_lt {number : Nat} (h : ¬number < 2 ^ 63) :
    numbered number = .error sequenceEnds := if_neg h

/-- A number that is given is the one of the sequence. -/
theorem numbered_ok {number : Nat} {id : Id} (h : numbered number = .ok id) :
    id.value.toNat = number := by
  unfold numbered at h
  split_ifs at h with hNumber
  cases h
  rw [UInt64.toNat_ofNat']
  omega

theorem numbered_of_toNat {number : Nat} {id : Id} (h : number < 2 ^ 63)
    (hId : id.value.toNat = number) : numbered number = .ok id := by
  rw [numbered_of_lt h, ← hId, UInt64.ofNat_toNat]

section

variable {number : Sequences → Nat} {next : Sequences → Sequences} {world : World}

/-- A number that is left is drawn. -/
theorem draw_ok {id : Id} (h : numbered (number world.sequences) = .ok id) :
    draw number next world = some ({ world with sequences := next world.sequences }, .ok id) := by
  unfold draw
  rw [Action.get_bind, h]
  rfl

/-- Without a number left nothing is drawn. -/
theorem draw_error {error : ApiError} (h : numbered (number world.sequences) = .error error) :
    draw number next world = some (world, .error error) := by
  unfold draw
  rw [Action.get_bind, h]
  rfl

/-- A row with free keys is inserted. -/
theorem insertRow_ok {taken : World → Bool} {add : Rows → Rows} (h : taken world = false) :
    insertRow taken add world = some ({ world with rows := add world.rows }, .ok ()) := by
  unfold insertRow
  rw [Action.get_bind, h]
  rfl

/-- A row with a taken key is refused. -/
theorem insertRow_error {taken : World → Bool} {add : Rows → Rows} (h : taken world = true) :
    insertRow taken add world = some (world, .error duplicateKey) := by
  unfold insertRow
  rw [Action.get_bind, h]
  rfl

/-- What does not depend on the sequence is kept by a draw. -/
theorem keeps_draw {inv : World → Prop}
    (h : ∀ world, inv world → inv { world with sequences := next world.sequences }) :
    Action.Keeps inv (draw number next) := by
  intro world hWorld
  cases hNumber : numbered (number world.sequences) with
  | error error =>
      rw [draw_error hNumber]
      exact hWorld
  | ok id =>
      rw [draw_ok hNumber]
      exact h world hWorld

/-- What an added row does not break is kept by an insertion. -/
theorem keeps_insertRow {inv : World → Prop} {taken : World → Bool} {add : Rows → Rows}
    (h : ∀ world, inv world → inv { world with rows := add world.rows }) :
    Action.Keeps inv (insertRow taken add) := by
  intro world hWorld
  cases hTaken : taken world with
  | false =>
      rw [insertRow_ok hTaken]
      exact h world hWorld
  | true =>
      rw [insertRow_error hTaken]
      exact hWorld

end

namespace World

/-- The rows and the cache that the management of LoRa nodes works on. -/
def lora (world : World) : State where
  store := world.cache.nodes
  devices := world.rows.devices
  loraNodes := world.rows.loraNodes
  gates := world.rows.loraGates.map fun gate => gate.deviceId
  scripts := world.rows.scripts.map fun script => script.id
  authority := (world.rows.authorities.filter fun auth => auth.shareType = .User).map
    fun auth => (auth.shareId, auth.deviceId)

def withLora (world : World) (state : State) : World :=
  { world with
    rows := { world.rows with devices := state.devices, loraNodes := state.loraNodes }
    cache := { world.cache with nodes := state.store } }

def findDevice (world : World) (id : Id) : Option DevicesModel :=
  world.rows.devices.find? fun device => device.id = id

def findGroup (world : World) (id : Id) : Option DeviceGroupModel :=
  world.rows.groups.find? fun group => group.id = id

end World

/-- A device with the authority of a user for it. -/
structure DeviceWithAuth where
  auth : DeviceAuthorityModel
  device : DevicesModel

namespace DeviceService

/-- The devices a user has an authority for, once for each authority. -/
def queryAllWithAuth (world : World) (userId : Id) : List DeviceWithAuth :=
  (world.rows.authorities.filter fun auth =>
    auth.shareId = userId ∧ auth.shareType = .User).filterMap fun auth =>
      (world.findDevice auth.deviceId).map fun device => ⟨auth, device⟩

def queryAllWithIds (world : World) (userId : Id) (devices : List Id) : List DevicesModel :=
  ((queryAllWithAuth world userId).filter fun found => found.auth.deviceId ∈ devices).map
    fun found => found.device

def deviceMissing (deviceId : Id) : ApiError :=
  .device deviceId.value.toNat
    (.translated "messages.device.common.device_missing" [("device_id", showId deviceId)])

def queryOneWithAuth (world : World) (userId deviceId : Id) : Except ApiError DeviceWithAuth :=
  match (queryAllWithAuth world userId).find? fun found => found.device.id = deviceId with
  | some found => .ok found
  | none => .error (deviceMissing deviceId)

end DeviceService
end SnapEmu.Server
