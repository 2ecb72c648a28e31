import SnapEmu.Device.NodeStore
import SnapEmu.User.Status

/-! The tables and the cache behind the management of devices, and the
requests that change a LoRa node. -/
namespace SnapEmu.Management

open Device User

/-- `hex::encode_upper` of the big-endian bytes of an identifier. -/
def encodeUpper (width value : Nat) : String :=
  String.ofList ((List.range width).reverse.map fun digit =>
    let nibble := value / 16 ^ digit % 16
    Char.ofNat (if nibble < 10 then 48 + nibble else 55 + nibble))

def showId (id : Id) : String := encodeUpper 16 id.value.toNat

def showEui (eui : Eui) : String := encodeUpper 16 eui.value.toNat

def showAddr (addr : LoRaAddr) : String := encodeUpper 8 addr.value.toNat

def redisError : RedisError → ApiError
  | .type => .server "redis" (.plain "TypeError")
  | .overflow => .server "redis" (.plain "ResponseError")

/-- The rows of devices, of LoRa nodes, and the cache. Of gateways and decode
scripts only the keys matter; an authority pairs a user and a device. -/
structure State where
  store : NodeStore
  devices : List DevicesModel
  loraNodes : List DeviceLoraNodeModel
  gates : List Id
  scripts : List Id
  authority : List (Id × Id)

namespace State

def empty : State := ⟨NodeStore.empty, [], [], [], [], []⟩

def findDevice (state : State) (id : Id) : Option DevicesModel :=
  state.devices.find? fun device => device.id = id

/-- The node row related to a device. -/
def findNode (state : State) (deviceId : Id) : Option DeviceLoraNodeModel :=
  state.loraNodes.find? fun node => node.deviceId = deviceId

def devEuiExists (state : State) (devEui : Eui) : Bool :=
  (state.loraNodes.find? fun node => node.devEui = devEui).isSome

def devAddrExists (state : State) (devAddr : LoRaAddr) : Bool :=
  (state.loraNodes.find? fun node => node.devAddr = devAddr).isSome

def updateDevice (state : State) (device : DevicesModel) : State :=
  { state with
    devices := state.devices.map fun row => if row.id = device.id then device else row }

def updateNode (state : State) (node : DeviceLoraNodeModel) : State :=
  { state with
    loraNodes := state.loraNodes.map fun row => if row.id = node.id then node else row }

/-- The insertion of a device row, under its keys. -/
def insertDevice (state : State) (device : DevicesModel) : Except ApiError State :=
  if state.devices.any fun row => row.id = device.id || row.eui = device.eui then
    .error (.server "db type" (.plain "duplicate key"))
  else .ok { state with devices := state.devices ++ [device] }

/-- The insertion of a node row, under its keys. -/
def insertNodeRow (state : State) (node : DeviceLoraNodeModel) : Except ApiError State :=
  if state.loraNodes.any fun row => row.id = node.id || row.deviceId = node.deviceId ||
      row.devEui = node.devEui || row.devAddr = node.devAddr then
    .error (.server "db type" (.plain "duplicate key"))
  else .ok { state with loraNodes := state.loraNodes ++ [node] }

end State

/-- A field of a node and its new value. -/
abbrev NodeChange := (field : NodeField) × field.Value

/-- The changes of an optional field. -/
def change (field : NodeField) (value : Option field.Value) : List NodeChange :=
  (value.map fun value => ⟨field, value⟩).toList

/-- Changes of the cached record, by the EUI of the node. -/
def updateCache (store : NodeStore) (eui : Eui) (changes : List NodeChange) : NodeStore :=
  changes.foldl (fun store change => NodeInfo.updateByEui store eui change.1 change.2) store

/-- A change of the row, for the fields that requests change. -/
def assign (node : DeviceLoraNodeModel) : NodeChange → DeviceLoraNodeModel
  | ⟨.region, value⟩ => { node with region := value }
  | ⟨.joinType, value⟩ => { node with joinType := value }
  | ⟨.appEui, value⟩ => { node with appEui := value }
  | ⟨.appKey, value⟩ => { node with appKey := value }
  | ⟨.nwkSkey, value⟩ => { node with nwkSkey := value }
  | ⟨.appSkey, value⟩ => { node with appSkey := value }
  | ⟨.classB, value⟩ => { node with classB := value }
  | ⟨.classC, value⟩ => { node with classC := value }
  | ⟨.adr, value⟩ => { node with adr := value }
  | ⟨.rx1Delay, value⟩ => { node with rx1Delay := value }
  | ⟨.desRx1Delay, value⟩ => { node with desRx1Delay := value }
  | ⟨.rx1Dro, value⟩ => { node with rx1Dro := value }
  | ⟨.desRx1Dro, value⟩ => { node with desRx1Dro := value }
  | ⟨.rx2Dr, value⟩ => { node with rx2Dr := value }
  | ⟨.desRx2Dr, value⟩ => { node with desRx2Dr := value }
  | ⟨.rx2Freq, value⟩ => { node with rx2Freq := value }
  | ⟨.desRx2Freq, value⟩ => { node with desRx2Freq := value }
  | ⟨.dRetry, value⟩ => { node with dRetry := value }
  | ⟨.cRetry, value⟩ => { node with cRetry := value }
  | ⟨.productType, value⟩ => { node with productType := value }
  | ⟨.dutycyle, value⟩ => { node with dutycyle := value }
  | ⟨.upConfirm, value⟩ => { node with upConfirm := value }
  | ⟨.upDr, value⟩ => { node with upDr := value }
  | ⟨.timeZone, value⟩ => { node with timeZone := value }
  | _ => node

end SnapEmu.Management
