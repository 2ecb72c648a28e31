import SnapEmu.Management.Operations

/-! The creation of a LoRa node, and its update from the parameters read over
Bluetooth. -/
namespace SnapEmu.Management

open Device User

/-- The parameters of a device, as read over Bluetooth. -/
structure BluetoothNode where
  joinType : Option Int32
  jionType : Option Int32
  adr : Int32
  retry : Int32
  dutyCycle : Int32
  devEui : Eui
  appEui : Eui
  appKey : Key
  devAddr : LoRaAddr
  nwkSkey : Key
  appSkey : Key
  rx1Delay : Int32
  rx2Dr : Int32
  rx2Freq : Int32

structure ReqLoraNode where
  device : Option Id
  name : String
  eui : Eui
  description : String
  region : LoRaRegion
  blueName : Option String
  blueParm : Option BluetoothNode

structure LoraNodeDeviceDefault where
  name : String
  eui : Eui
  description : String
  region : LoRaRegion
  joinType : LoRaJoinType
  appEui : Eui
  blueName : Option String
  devEui : Eui
  appKey : Key
  devAddr : LoRaAddr
  nwkSkey : Key
  appSkey : Key
  classB : Bool
  classC : Bool
  adr : Bool
  rx1Delay : Int16
  desRx1Delay : Int16
  rx1Dro : Int16
  desRx1Dro : Int16
  rx2Dr : Int16
  desRx2Dr : Int16
  rx2Freq : Int32
  desRx2Freq : Int32
  dRetry : Int32
  cRetry : Int32
  dutycyle : Int32
  productType : ProductType
  deriving Inhabited

/-- What the database and the clock add to a new device. -/
structure Assigned where
  device : Id
  node : Id
  now : Timestamp

def joinTypeMissing : ApiError :=
  .user (.translated "messages.device.lora.join_type_missing" [])

def devEuiAlready (eui : Eui) : ApiError :=
  .user (.translated "messages.device.lora.dev_eui_already" [("eui", showEui eui)])

def devAddrAlready (addr : String) : ApiError :=
  .user (.translated "messages.device.lora.dev_addr_already" [("addr", addr)])

def withBluetooth (req : ReqLoraNode) : Except ApiError LoraNodeDeviceDefault :=
  match req.blueParm with
  | none => .error (.user (.translated "messages.device.lora.blue_param_missing" []))
  | some blue =>
      let this (joinType : LoRaJoinType) : LoraNodeDeviceDefault :=
        { name := req.name
          eui := req.eui
          description := req.description
          region := req.region
          joinType := joinType
          appEui := blue.appEui
          blueName := req.blueName
          devEui := blue.devEui
          appKey := blue.appKey
          devAddr := blue.devAddr
          nwkSkey := blue.nwkSkey
          appSkey := blue.appSkey
          classB := false
          classC := false
          adr := blue.adr == 1
          rx1Delay := blue.rx1Delay.toInt16
          desRx1Delay := blue.rx1Delay.toInt16
          rx1Dro := 0
          desRx1Dro := 0
          rx2Dr := blue.rx2Dr.toInt16
          desRx2Dr := blue.rx2Dr.toInt16
          rx2Freq := blue.rx2Freq
          desRx2Freq := blue.rx2Freq
          dRetry := blue.retry
          cRetry := blue.retry
          dutycyle := blue.dutyCycle
          productType := .Monitor }
      match blue.joinType.or blue.jionType with
      | none => .error joinTypeMissing
      | some joinType =>
          if joinType = 0 then .ok (this .ABP)
          else if joinType = 1 then .ok (this .OTAA)
          else .error joinTypeMissing

def newDevice (node : LoraNodeDeviceDefault) (userId : Id) (assigned : Assigned) :
    DevicesModel where
  id := assigned.device
  eui := node.eui
  name := node.name
  description := node.description
  creator := userId
  enable := true
  period := 60
  script := none
  dataId := none
  productId := none
  deviceType := .LoRaNode
  activeTime := none
  createTime := assigned.now

def newNode (node : LoraNodeDeviceDefault) (assigned : Assigned) : DeviceLoraNodeModel where
  id := assigned.node
  deviceId := assigned.device
  region := node.region
  joinType := node.joinType
  appEui := node.appEui
  devEui := node.devEui
  appKey := node.appKey
  devAddr := node.devAddr
  nwkSkey := node.nwkSkey
  appSkey := node.appSkey
  classB := node.classB
  classC := node.classC
  adr := node.adr
  rx1Delay := node.rx1Delay
  desRx1Delay := node.desRx1Delay
  rx1Dro := node.rx1Dro
  desRx1Dro := node.desRx1Dro
  rx2Dr := node.rx2Dr
  desRx2Dr := node.desRx2Dr
  rx2Freq := node.rx2Freq
  desRx2Freq := node.desRx2Freq
  dRetry := node.dRetry.toInt16
  cRetry := node.cRetry.toInt16
  productType := node.productType
  dutycyle := node.dutycyle
  upConfirm := false
  upDr := 0
  power := 0
  battery := none
  charge := false
  timeZone := 0
  firmware := 0
  devNon := 0
  appNon := 0
  netId := 0

/-- Whether the identity of a new node is taken, by its join type. -/
def identityTaken (state : State) (node : LoraNodeDeviceDefault) : Except ApiError Unit :=
  match node.joinType with
  | .OTAA =>
      if NodeInfo.checkEui state.store node.devEui || state.devEuiExists node.devEui then
        .error (devEuiAlready node.devEui)
      else .ok ()
  | .ABP =>
      if NodeInfo.checkAddr state.store node.devAddr || state.devAddrExists node.devAddr then
        .error (devAddrAlready (showAddr node.devAddr))
      else .ok ()

/-- The rows of a new node within one transaction, then its cached record. -/
def insertNode (state : State) (node : LoraNodeDeviceDefault) (userId : Id) (assigned : Assigned) :
    State × Except ApiError Id :=
  let device := newDevice node userId assigned
  let model := newNode node assigned
  match (do
    identityTaken state node
    let state ← state.insertDevice device
    state.insertNodeRow model) with
  | .error error => (state, .error error)
  | .ok state =>
      let (store, _) := NodeInfo.registerToRedis state.store model device
      ({ state with store := store }, .ok device.id)

section

-- the service of predefined devices, asked for an identifier
variable (queryEui : String → Except ApiError Bool)

def validAddr (state : State) (devAddr : LoRaAddr) : Except ApiError Bool :=
  if state.devAddrExists devAddr then .error (devAddrAlready (showAddr devAddr))
  else queryEui (showAddr devAddr)

def validDevEui (state : State) (devEui : Eui) : Except ApiError Bool :=
  if state.devEuiExists devEui then .error (devAddrAlready (showEui devEui))
  else queryEui (showEui devEui)

def validEui (state : State) (eui : Eui) : Except ApiError Unit :=
  if (state.devices.find? fun device => device.eui = eui).isSome then .error (devEuiAlready eui)
  else .ok ()

/-- A new device EUI must be free. -/
def blueDevEui (state : State) (blue : BluetoothNode) (node : DeviceLoraNodeModel) :
    Except ApiError DeviceLoraNodeModel :=
  if node.devEui = blue.devEui then .ok node
  else if state.devEuiExists blue.devEui then .error (devEuiAlready blue.devEui)
  else
    (validDevEui queryEui state blue.devEui).map fun _ => { node with devEui := blue.devEui }

/-- A new address must be free, and only a new address brings its keys. -/
def blueDevAddr (state : State) (blue : BluetoothNode) (node : DeviceLoraNodeModel) :
    Except ApiError DeviceLoraNodeModel :=
  if node.devAddr = blue.devAddr then .ok node
  else if state.devAddrExists blue.devAddr then .error (devAddrAlready (showAddr blue.devAddr))
  else
    (validAddr queryEui state blue.devAddr).map fun _ =>
      { node with
        devAddr := blue.devAddr
        nwkSkey := blue.nwkSkey
        appSkey := blue.appSkey
        rx1Delay := blue.rx1Delay.toInt16 }

def blueJoinType (blue : BluetoothNode) : Except ApiError LoRaJoinType :=
  match blue.joinType.or blue.jionType with
  | none => .error joinTypeMissing
  | some joinType => .ok (if joinType = 1 then .OTAA else .ABP)

/-- The row after a Bluetooth update, or the check that refuses it. -/
def blueModel (state : State) (node : DeviceLoraNodeModel) (blue : BluetoothNode) :
    Except ApiError DeviceLoraNodeModel := do
  let joinType ← blueJoinType blue
  let active ← blueDevEui queryEui state blue node
  let active ← blueDevAddr queryEui state blue
    { active with appEui := blue.appEui, appKey := blue.appKey }
  return { active with joinType := joinType }

/-- For an existing device the cached record is dropped and registered again
from the rows. -/
def updateBlue (state : State) (userId : Id) (req : ReqLoraNode) (assigned : Assigned) :
    State × Except ApiError Id :=
  match req.device with
  | none =>
      match (do validEui state req.eui; withBluetooth req) with
      | .error error => (state, .error error)
      | .ok node => insertNode state node userId assigned
  | some deviceId =>
      match queryOne state userId deviceId with
      | .error error => (state, .error error)
      | .ok device =>
          match state.findNode deviceId with
          | none =>
              (state, .error (.user (.translated "messages.device.common.not_found_device"
                [("device_id", showId deviceId)])))
          | some node =>
              match req.blueParm with
              | none => (state, .ok deviceId)
              | some blue =>
                  match blueModel queryEui state node blue with
                  | .error error => (state, .error error)
                  | .ok node =>
                      let store := NodeInfo.unregister state.store node.devEui node.devAddr
                      let (store, _) := NodeInfo.registerToRedis store node device
                      ({ state.updateNode node with store := store }, .ok deviceId)

end
end SnapEmu.Management
