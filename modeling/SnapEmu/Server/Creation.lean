import SnapEmu.Management.CreateNode
import SnapEmu.Server.Groups

/-! The creation of a device of each type. Its rows are inserted in one
transaction with its links and its authority, and its record is registered in
the cache in between, by commands each of which may fail. -/
namespace SnapEmu.Server

open Device Management Semantics User Action

/-- A JSON value, by what is read from it for each type. -/
structure JoinParameter where
  snap : Except String String
  node : Except String JoinParam

structure DeviceCreate where
  name : String
  group : List Id
  device : Option Id
  description : Option String
  eui : Option String
  deviceType : DeviceType
  region : Option LoRaRegion
  joinType : Option LoRaJoinType
  joinParameter : Option JoinParameter
  blueName : Option String
  blueParm : Option BluetoothNode
  extraParm : Option ExtraParm
  username : Option String
  password : Option String

/-- The request for a LoRa node, with the parts that must be there. -/
def DeviceCreate.joinNode (req : DeviceCreate) (eui : Eui) (region : LoRaRegion)
    (joinType : LoRaJoinType) (joinParameter : JoinParam) : ReqJoinNode where
  device := req.device
  name := req.name
  eui := eui
  description := req.description.getD req.name
  region := region
  blueName := req.blueName
  blueParm := req.blueParm
  joinType := joinType
  joinParameter := joinParameter
  extraParm := req.extraParm

/-- The commands that write the records of devices, under `info:eui:node:<eui>`,
`info:node:<addr>`, `info:gateway:<eui>` and `info:snap:<eui>`. -/
inductive RecordCommand where
  | delNodeEui (devEui : Eui)
  | delNode (addr : LoRaAddr)
  | setNodeEui (devEui : Eui) (addr : LoRaAddr)
  | writeNode (addr : LoRaAddr) (info : NodeInfo)
  | writeGateway (eui : Eui) (info : GatewayInfo)
  | writeSnap (eui : Eui) (info : SnapDeviceInfo)

/-- What a command does to the cache. -/
def RecordCommand.apply (cache : Cache) : RecordCommand → Cache
  | .delNodeEui devEui =>
      { cache with
        nodes := { cache.nodes with
          nodeEui := Function.update cache.nodes.nodeEui devEui none } }
  | .delNode addr => { cache with nodes := cache.nodes.setHash addr NodeHash.empty }
  | .setNodeEui devEui addr =>
      { cache with
        nodes := { cache.nodes with
          nodeEui := Function.update cache.nodes.nodeEui devEui (some addr) } }
  | .writeNode addr info =>
      { cache with nodes := cache.nodes.setHash addr ((cache.nodes.node addr).write info) }
  | .writeGateway eui info =>
      { cache with
        gateways := Function.update cache.gateways eui
          (HashRecord.write GatewayField.codec info.get (cache.gateways eui)) }
  | .writeSnap eui info =>
      { cache with
        snaps := Function.update cache.snaps eui
          (HashRecord.write SnapField.codec info.get (cache.snaps eui)) }

/-- The statements of a creation and its commands to the cache. Those that link a
listed group are told apart by its position in the list. -/
inductive Statement where
  | checkIdentity
  | insertDevice
  | insertOwn
  | insertToken
  | saveFunction
  | updateNode
  | record (command : RecordCommand)
  | loadGroups
  | findDefault
  | insertDefault
  | dropGroups
  | linkDefault
  | findGroup (position : Nat)
  | dropGroupsOf (position : Nat)
  | link (position : Nat)
  | authority
  | dropDevices
  | commit

/-- What a creation asks of others: predefined devices, random addresses, the
salted hash of a text, the time, and whether a statement succeeds. One that fails
does nothing. -/
structure Environment where
  queryEui : String → Except ApiError (Option PredefineDeviceInfo)
  draws : List LoRaAddr
  saltedHash : String → String
  now : Timestamp
  answer : Statement → Except ApiError Unit

/-- A device with its rows, and the commands that write its record. -/
structure DeviceRecord where
  device : Id
  commands : List RecordCommand

/-- The commands of `NodeInfo::register`. -/
def registerNode (info : NodeInfo) (devEui : Eui) (addr : LoRaAddr) : List RecordCommand :=
  [.setNodeEui devEui addr, .writeNode addr info]

/-- The commands of `NodeInfo::unregister`. -/
def unregisterNode (devEui : Eui) (addr : LoRaAddr) : List RecordCommand :=
  [.delNodeEui devEui, .delNode addr]

def sendCommand (env : Environment) (command : RecordCommand) : Service Unit := do
  ofExcept (env.answer (.record command))
  Action.modify fun world => { world with cache := command.apply world.cache }

def dbTypeError (msg : String) : ApiError := .server "db type" (.plain msg)

/-- `Key::try_from`. -/
def snapKey (text : String) : Except ApiError Key :=
  if text.utf8ByteSize ≠ 32 then
    .error (dbTypeError ("Key most 32 byte, found '" ++ text ++ "'"))
  else
    match parseKey text with
    | some key => .ok key
    | none => .error (dbTypeError "Parse")

/-- The result of a parser, whose error is one of the server. -/
def fromValue {α : Type} : Except String α → Except ApiError α
  | .ok value => .ok value
  | .error msg => .error (.server "serde_json" (.plain msg))

def translated (key : String) : ApiError := .user (.translated key [])

def orMissing {α : Type} (value : Option α) (key : String) : Except ApiError α :=
  match value with
  | some value => .ok value
  | none => .error (translated key)

/-- What the management of LoRa nodes does, done to the tables and the cache. -/
def onLora {α : Type} (operation : State → State × Except ApiError α) : Service α := fun world =>
  some (world.withLora (operation world.lora).1, (operation world.lora).2)

namespace DeviceService

def validEui (eui : Eui) : Service Unit :=
  onLora fun state => (state, Management.validEui state eui)

/-- The row of a new device. -/
def newRow (id : Id) (userId : Id) (eui : Eui) (name description : String)
    (deviceType : DeviceType) (now : Timestamp) : DevicesModel where
  id := id
  eui := eui
  name := name
  description := description
  creator := userId
  enable := true
  period := 60
  script := none
  dataId := none
  productId := none
  deviceType := deviceType
  activeTime := none
  createTime := now

def registerDevice (env : Environment) (userId : Id) (eui : Eui) (name description : String)
    (deviceType : DeviceType) : Service DevicesModel := do
  ofExcept (env.answer .insertDevice)
  let id ← draw (·.device) fun next => { next with device := next.device + 1 }
  let device := newRow id userId eui name description deviceType env.now
  insertRow (fun world => world.rows.devices.any fun row => row.id = id || row.eui = eui)
    fun rows => { rows with devices := rows.devices ++ [device] }
  return device

/-- The function row of a device is made or changed. -/
def newFuncBlue (env : Environment) (deviceId : Id) (blueName : String) : Service Unit := do
  ofExcept (env.answer .saveFunction)
  let world ← get
  match world.rows.functions.find? fun row => row.device = deviceId ∧ row.funcName = "blue" with
  | some function =>
      Action.modify fun world =>
        { world with
          rows := { world.rows with
            functions := world.rows.functions.map fun row =>
              if row.id = function.id then { row with funcValue := blueName } else row } }
  | none =>
      let id ← draw (·.function) fun next => { next with function := next.function + 1 }
      insertRow (fun world => world.rows.functions.any fun row => row.id = id) fun rows =>
        { rows with functions := rows.functions ++ [⟨id, deviceId, "blue", blueName⟩] }

end DeviceService

structure ReqSnap where
  name : String
  description : String
  eui : Eui
  key : String

structure ReqMQTT where
  name : String
  description : String
  eui : Eui
  username : String
  password : String

structure ReqLoraGateway where
  name : String
  description : String
  eui : Eui
  region : LoRaRegion

/-- The key is read after the device row is inserted. -/
def SnapDeviceService.create (env : Environment) (req : ReqSnap) (userId : Id) :
    Service DeviceRecord := do
  let device ← DeviceService.registerDevice env userId req.eui req.name req.description .Snap
  let key ← ofExcept (snapKey req.key)
  ofExcept (env.answer .insertOwn)
  let id ← draw (·.snap) fun next => { next with snap := next.snap + 1 }
  insertRow (fun world => world.rows.snaps.any fun row => row.id = id || row.deviceId = device.id)
    fun rows =>
      { rows with snaps := rows.snaps ++ [⟨id, device.id, req.eui, key, .Monitor, none, false⟩] }
  return ⟨device.id, [.writeSnap req.eui ⟨device.id, key, none, 0, none, device.script, none⟩]⟩

def MQTTService.create (env : Environment) (req : ReqMQTT) (userId : Id) :
    Service DeviceRecord := do
  let device ← DeviceService.registerDevice env userId req.eui req.name req.description .MQTT
  ofExcept (env.answer .insertOwn)
  let id ← draw (·.mqtt) fun next => { next with mqtt := next.mqtt + 1 }
  insertRow (fun world => world.rows.mqtts.any fun row => row.id = id || row.deviceId = device.id)
    fun rows =>
      { rows with mqtts := rows.mqtts ++ [⟨id, device.id, req.eui, req.username, req.password⟩] }
  return ⟨device.id, []⟩

namespace LoRaGateService

/-- A gateway that is predefined must be one, in the same region. -/
def checkDefined (req : ReqLoraGateway) : Option PredefineDeviceInfo → Except ApiError Unit
  | some ⟨.LoRaGate, .Device _⟩ => .error (loraError "gate_eui_format")
  | some ⟨.LoRaGate, .Gate region⟩ =>
      if region ≠ req.region then .error (loraError "gate_eui_format") else .ok ()
  | some _ | none => .ok ()

def create (env : Environment) (req : ReqLoraGateway) (userId : Id) : Service DeviceRecord := do
  DeviceService.validEui req.eui
  let euiText := showEui req.eui
  let found ← ofExcept (env.queryEui euiText)
  ofExcept (checkDefined req found)
  let device ← DeviceService.registerDevice env userId req.eui req.name req.description .LoRaGate
  ofExcept (env.answer .insertOwn)
  let id ← draw (·.loraGate) fun next => { next with loraGate := next.loraGate + 1 }
  insertRow
    (fun world => world.rows.loraGates.any fun row => row.id = id || row.deviceId = device.id)
    fun rows => { rows with loraGates := rows.loraGates ++ [⟨id, device.id, req.region, req.eui⟩] }
  ofExcept (env.answer .insertToken)
  let token ← draw (·.integration) fun next => { next with integration := next.integration + 1 }
  insertRow (fun world => world.rows.integrations.any fun row => row.id = token) fun rows =>
    { rows with
      integrations := rows.integrations ++
        [⟨token, userId, .Gateway, euiText, euiText, env.saltedHash euiText, true, env.now⟩] }
  return ⟨device.id, [.writeGateway req.eui ⟨device.id, 0, 0, env.now, none, none⟩]⟩

end LoRaGateService

namespace LoRaNodeService

/-- An identity that is free, then the rows of the node; the cache is asked first
whether the identity is free. -/
def insertNode (env : Environment) (node : LoraNodeDeviceDefault) (userId : Id) :
    Service DeviceRecord := do
  ofExcept (env.answer .checkIdentity)
  onLora fun state => (state, identityTaken state node)
  let device ← DeviceService.registerDevice env userId node.eui node.name node.description
    .LoRaNode
  ofExcept (env.answer .insertOwn)
  let id ← draw (·.loraNode) fun next => { next with loraNode := next.loraNode + 1 }
  let model := newNode node ⟨device.id, id, env.now⟩
  insertRow
    (fun world => world.rows.loraNodes.any fun row => row.id = id || row.deviceId = device.id ||
      row.devEui = node.devEui || row.devAddr = node.devAddr)
    fun rows => { rows with loraNodes := rows.loraNodes ++ [model] }
  forEach (DeviceService.newFuncBlue env device.id) node.blueName.toList
  return ⟨device.id, registerNode (NodeInfo.ofModels model device) model.devEui model.devAddr⟩

/-- Parameters read over Bluetooth make a new device or change one, whose row is
updated if they differ from it. The record is dropped and registered again in any
case. -/
def updateBlue (env : Environment) (req : ReqLoraNode) (userId : Id) : Service DeviceRecord :=
  match req.device with
  | none => do
      DeviceService.validEui req.eui
      let node ← ofExcept (withBluetooth req)
      insertNode env node userId
  | some deviceId => do
      let world ← get
      let device ← ofExcept (queryOne world.lora userId deviceId)
      match world.lora.findNode deviceId with
      | none =>
          throw (.user (.translated "messages.device.common.not_found_device"
            [("device_id", showId deviceId)]))
      | some node =>
          match req.blueParm with
          | none => return ⟨deviceId, []⟩
          | some blue => do
              let next ← ofExcept (blueModel (predefined env.queryEui) world.lora node blue)
              ofExcept (if next = node then .ok () else env.answer .updateNode)
              Action.modify fun world => world.withLora (world.lora.updateNode next)
              return ⟨deviceId, unregisterNode next.devEui next.devAddr ++
                registerNode (NodeInfo.ofModels next device) next.devEui next.devAddr⟩

def withDefault (env : Environment) (req : ReqJoinNode) : Service LoraNodeDeviceDefault :=
  fun world =>
    (Management.withDefault env.queryEui world.lora req env.draws).map fun node => (world, node)

def createNode (env : Environment) (req : ReqJoinNode) (userId : Id) : Service DeviceRecord :=
  if req.blueParm.isSome then updateBlue env req.toReqLoraNode userId
  else do
    let node ← withDefault env req
    insertNode env node userId

end LoRaNodeService

namespace DeviceService

/-- The creation by the type of the device, up to the commands for its record. -/
def insertDevice (env : Environment) (userId : Id) (req : DeviceCreate) :
    Service DeviceRecord := do
  let text ← ofExcept (orMissing req.eui "messages.device.common.eui_missing")
  let eui ← ofExcept (orMissing (parseEui text) "messages.device.common.eui_format")
  match req.deviceType with
  | .Snap => do
      let value ← ofExcept
        (orMissing req.joinParameter "messages.device.lora.join_parameter_missing")
      let key ← ofExcept (fromValue value.snap)
      SnapDeviceService.create env ⟨req.name, req.description.getD "", eui, key⟩ userId
  | .MQTT => do
      let username ← ofExcept (orMissing req.username "messages.device.mqtt.username_missing")
      let password ← ofExcept (orMissing req.password "messages.device.mqtt.password_missing")
      MQTTService.create env ⟨req.name, req.description.getD "", eui, username, password⟩ userId
  | .LoRaGate => do
      let region ← ofExcept (orMissing req.region "messages.device.common.region_missing")
      LoRaGateService.create env ⟨req.name, req.description.getD req.name, eui, region⟩ userId
  | .LoRaNode => do
      let region ← ofExcept (orMissing req.region "messages.device.common.region_missing")
      let joinType ← ofExcept (orMissing req.joinType "messages.device.lora.join_type_missing")
      let value ← ofExcept
        (orMissing req.joinParameter "messages.device.lora.join_parameter_missing")
      let joinParameter ← ofExcept (fromValue value.node)
      LoRaNodeService.createNode env (req.joinNode eui region joinType joinParameter) userId

/-- The record is what each creation ends with. -/
def createDevice (env : Environment) (userId : Id) (req : DeviceCreate) : Service Id := do
  let record ← insertDevice env userId req
  forEach (sendCommand env) record.commands
  return record.device

/-- The queries for the default group: the cache, the table, and the insertion of
a group that is missing. -/
def defaultAnswer (env : Environment) (world : World) (userId : Id) : Except ApiError Unit := do
  env.answer .loadGroups
  if (DeviceGroupCache.loadDefaultByUserId world userId).isNone then
    env.answer .findDefault
    if (DeviceGroupService.defaultRow world userId).isNone then env.answer .insertDefault

/-- The link of a new device to the default group. The answers of the queries come
first, since only the last of them changes anything. -/
def linkDefaultAnswered (env : Environment) (userId deviceId : Id) :
    Service DeviceMapGroupModel := do
  let world ← get
  ofExcept (defaultAnswer env world userId)
  let group ← DeviceGroupService.queryUserDefaultGroup userId env.now
  ofExcept (env.answer .dropGroups)
  DeviceGroupCache.deleteByUserId userId
  let link ← DeviceGroupService.insertLink userId deviceId group.id env.now
  ofExcept (env.answer .linkDefault)
  return link

/-- The link of a new device to a group at a position of the list. -/
def linkAnswered (env : Environment) (userId deviceId : Id) (listed : Id × Nat) :
    Service Unit := do
  ofExcept (env.answer (.findGroup listed.2))
  let world ← get
  match world.findGroup listed.1 with
  | none => throw (.user (.plain "group invalid"))
  | some _ => do
      ofExcept (env.answer (.dropGroupsOf listed.2))
      DeviceGroupCache.deleteByUserId userId
      let _ ← DeviceGroupService.insertLink userId deviceId listed.1 env.now
      ofExcept (env.answer (.link listed.2))

/-- The groups that a request lists. What decides whether they are skipped are
two numbers of the link to the default group. -/
def linkListed (env : Environment) (default : DeviceMapGroupModel) (userId deviceId : Id)
    (groups : List Id) : Service Unit :=
  forEach (fun listed =>
    if default.groupId = default.id then pure ()
    else linkAnswered env userId deviceId listed) groups.zipIdx

def insertAuthority (userId deviceId : Id) (now : Timestamp) : Service Unit := do
  let id ← draw (·.authority) fun next => { next with authority := next.authority + 1 }
  insertRow (fun world => world.rows.authorities.any fun row => row.id = id) fun rows =>
    { rows with
      authorities := rows.authorities ++
        [⟨id, userId, deviceId, .User, userId, true, true, true, true, true, now⟩] }

/-- Links and authority of a device with a record. A statement that fails is
taken back with those before it. -/
def finishDevice (env : Environment) (userId deviceId : Id) (groups : List Id) : Service Unit := do
  let default ← linkDefaultAnswered env userId deviceId
  linkListed env default userId deviceId groups
  insertAuthority userId deviceId env.now
  ofExcept (env.answer .authority)

def newDevice (env : Environment) (userId : Id) (req : DeviceCreate) : Service Id := do
  let deviceId ← createDevice env userId req
  finishDevice env userId deviceId req.group
  return deviceId

end DeviceService

/-- The list of devices of a user is dropped from the cache, where no request
saves it. -/
def postDevice (env : Environment) (userId : Id) (req : DeviceCreate) : Service Unit :=
  if req.eui.isNone then throw (translated "messages.device.common.eui_missing")
  else
    transaction rollback do
      let _ ← DeviceService.newDevice env userId req
      ofExcept (env.answer .dropDevices)
      ofExcept (env.answer .commit)

end SnapEmu.Server
