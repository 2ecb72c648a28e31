import SnapEmu.Device.NodeInfo

/-! The cache keys of LoRa nodes and the commands on them, and the database
rows a cache entry is made from. -/
namespace SnapEmu.Device

open Semantics

/-- A row of the LoRa node table. -/
structure DeviceLoraNodeModel where
  id : Id
  deviceId : Id
  region : LoRaRegion
  joinType : LoRaJoinType
  appEui : Eui
  devEui : Eui
  appKey : Key
  devAddr : LoRaAddr
  nwkSkey : Key
  appSkey : Key
  classB : Bool
  classC : Bool
  adr : Bool
  rx1Delay : Int16
  desRx1Delay : Int16
  rx1Dro : Int16
  desRx1Dro : Int16
  rx2Dr : Int16
  desRx2Dr : Int16
  rx2Freq : Int32
  desRx2Freq : Int32
  dRetry : Int16
  cRetry : Int16
  productType : ProductType
  dutycyle : Int32
  upConfirm : Bool
  upDr : Int16
  power : Int16
  battery : Option Int16
  charge : Bool
  timeZone : Int32
  firmware : Int32
  devNon : Int32
  appNon : Int32
  netId : Int32
  deriving DecidableEq, Inhabited

/-- A row of the device table. -/
structure DevicesModel where
  id : Id
  eui : Eui
  name : String
  description : String
  creator : Id
  enable : Bool
  period : Int32
  script : Option Id
  dataId : Option Id
  productId : Option Id
  deviceType : DeviceType
  activeTime : Option Timestamp
  createTime : Timestamp
  deriving DecidableEq, Inhabited

/-- The cache. `nodeEui` is `info:eui:node:<eui>`, whose value is the key
`info:node:<addr>` of some address; `node` are the hashes under these. -/
structure NodeStore where
  nodeEui : Eui → Option LoRaAddr
  node : LoRaAddr → NodeHash

namespace NodeStore

def empty : NodeStore := ⟨fun _ => none, fun _ => NodeHash.empty⟩

def setHash (store : NodeStore) (addr : LoRaAddr) (hash : NodeHash) : NodeStore :=
  { store with node := Function.update store.node addr hash }

@[simp] theorem setHash_self (store : NodeStore) (addr : LoRaAddr) (hash : NodeHash) :
    (store.setHash addr hash).node addr = hash := by
  simp [setHash]

@[simp] theorem setHash_of_ne (store : NodeStore) {addr other : LoRaAddr} (hash : NodeHash)
    (hAddr : other ≠ addr) : (store.setHash addr hash).node other = store.node other := by
  simp [setHash, hAddr]

end NodeStore

namespace NodeInfo

def updateByAddr (store : NodeStore) (addr : LoRaAddr) (field : NodeField) (value : field.Value) :
    NodeStore :=
  store.setHash addr ((store.node addr).set field value)

def resetByEui (store : NodeStore) (eui : Eui) (field : NodeField) : NodeStore :=
  match store.nodeEui eui with
  | none => store
  | some addr =>
      if (store.node addr).Present then store.setHash addr ((store.node addr).remove field)
      else store

def updateByEui (store : NodeStore) (eui : Eui) (field : NodeField) (value : field.Value) :
    NodeStore :=
  match store.nodeEui eui with
  | none => store
  | some addr =>
      if (store.node addr).Present then store.setHash addr ((store.node addr).set field value)
      else store

def register (store : NodeStore) (info : NodeInfo) (devEui : Eui) (addr : LoRaAddr) : NodeStore :=
  { nodeEui := Function.update store.nodeEui devEui (some addr)
    node := Function.update store.node addr ((store.node addr).write info) }

def checkEui (store : NodeStore) (devEui : Eui) : Bool := (store.nodeEui devEui).isSome

def checkAddr (store : NodeStore) (addr : LoRaAddr) : Bool := decide (store.node addr).Present

def unregister (store : NodeStore) (devEui : Eui) (addr : LoRaAddr) : NodeStore :=
  { nodeEui := Function.update store.nodeEui devEui none
    node := Function.update store.node addr NodeHash.empty }

def loadByEui (store : NodeStore) (devEui : Eui) : Except RedisError (Option NodeInfo) :=
  match store.nodeEui devEui with
  | some addr => (store.node addr).load
  | none => .ok none

def loadByAddr (store : NodeStore) (addr : LoRaAddr) : Except RedisError (Option NodeInfo) :=
  (store.node addr).load

/-- `HGET` of one field, which may be missing where the type allows it. -/
def loadField (α : Type) [RedisCodec α] (store : NodeStore) (addr : LoRaAddr)
    (field : NodeField) : Except RedisError α :=
  match (RedisCodec.codec : FieldCodec RedisArg α).fromValue (store.node addr field) with
  | some value => .ok value
  | none => .error .type

def loadBattery (store : NodeStore) (addr : LoRaAddr) : Except RedisError (Option Int16) :=
  loadField _ store addr .battery

def loadCharge (store : NodeStore) (addr : LoRaAddr) : Except RedisError (Option Bool) :=
  loadField _ store addr .charge

/-- The record of a node as its rows have it; both counters start at zero. -/
def ofModels (node : DeviceLoraNodeModel) (device : DevicesModel) : NodeInfo where
  userId := some device.creator
  deviceId := node.deviceId
  region := node.region
  joinType := node.joinType
  appEui := node.appEui
  devEui := node.devEui
  appKey := node.appKey
  devAddr := node.devAddr
  nwkSkey := node.nwkSkey
  appSkey := node.appSkey
  classB := node.classB
  classC := node.classC
  adr := node.adr
  rx1Delay := node.rx1Delay
  desRx1Delay := node.desRx1Delay
  rx1Dro := node.rx1Dro
  desRx1Dro := node.desRx1Dro
  rx2Dr := node.rx2Dr
  desRx2Dr := node.desRx2Dr
  rx2Freq := node.rx2Freq
  desRx2Freq := node.desRx2Freq
  dRetry := node.dRetry
  cRetry := node.cRetry
  productType := node.productType
  dutycyle := node.dutycyle
  upConfirm := node.upConfirm
  upDr := node.upDr
  upCount := 0
  downCount := 0
  power := node.power
  battery := node.battery
  charge := node.charge
  timeZone := node.timeZone
  firmware := node.firmware
  devNon := node.devNon
  appNon := node.appNon
  netId := node.netId
  enable := device.enable
  period := device.period
  script := device.script
  activeTime := device.activeTime
  gateway := none

def registerToRedis (store : NodeStore) (node : DeviceLoraNodeModel) (device : DevicesModel) :
    NodeStore × NodeInfo :=
  let nodeInfo := ofModels node device
  (register store nodeInfo node.devEui node.devAddr, nodeInfo)

end NodeInfo
end SnapEmu.Device
