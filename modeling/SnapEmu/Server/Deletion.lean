import SnapEmu.Server.Creation
import SnapEmu.Server.Token

/-! The deletion of a device by its owner, the deletion of an account with all
its devices, and the check of the credentials of a connection. -/
namespace SnapEmu.Server

open Device Management Semantics User Action

def modifyRows (change : Rows → Rows) : Service Unit :=
  Action.modify fun world => { world with rows := change world.rows }

namespace World

def unregisterSnap (world : World) (eui : Eui) : World :=
  { world with
    cache := { world.cache with
      snaps := Function.update world.cache.snaps eui fun _ => none } }

def unregisterGateway (world : World) (eui : Eui) : World :=
  { world with
    cache := { world.cache with
      gateways := Function.update world.cache.gateways eui fun _ => none } }

end World

def DataService.deleteByDeviceId (device : Id) : Service Unit :=
  modifyRows fun rows => { rows with data := rows.data.filter fun row => row.deviceId ≠ device }

def DataService.deleteByDeviceIdArray (devices : List Id) : Service Unit :=
  modifyRows fun rows => { rows with data := rows.data.filter fun row => row.deviceId ∉ devices }

/-- The record goes, the row stays. -/
def SnapDeviceService.delete (device : Id) : Service Unit := do
  let world ← get
  match world.rows.snaps.find? fun row => row.deviceId = device with
  | some model => Action.modify fun world => world.unregisterSnap model.eui
  | none => throw (.device device.value.toNat (.translated "messages.device.snap.eui_missing" []))

def MQTTService.delete (device : Id) : Service Unit :=
  modifyRows fun rows => { rows with mqtts := rows.mqtts.filter fun row => row.deviceId ≠ device }

def LoRaNodeService.deleteNode (deviceId : Id) : Service Unit :=
  onLora fun state => Management.deleteNode state deviceId

/-- One credential with the name of the gateway goes with it. -/
def LoRaGateService.deleteGateway (deviceId : Id) : Service Unit := do
  let world ← get
  match world.rows.loraGates.find? fun row => row.deviceId = deviceId with
  | none =>
      throw (.device deviceId.value.toNat (.translated "messages.device.lora.gate_missing" []))
  | some gate => do
      Action.modify fun world => world.unregisterGateway gate.eui
      let token := world.rows.integrations.find? fun row =>
        row.username = showEui gate.eui ∧ row.mqttType = .Gateway
      forEach (fun token : SnapIntegrationMqttModel => modifyRows fun rows =>
        { rows with integrations := rows.integrations.filter fun row => row.id ≠ token.id })
        token.toList
      modifyRows fun rows =>
        { rows with loraGates := rows.loraGates.filter fun row => row.id ≠ gate.id }

namespace DeviceService

def deleteTyped (device : DevicesModel) : Service Unit :=
  match device.deviceType with
  | .Snap => do
      SnapDeviceService.delete device.id
      DataService.deleteByDeviceId device.id
  | .MQTT => MQTTService.delete device.id
  | .LoRaNode => do
      LoRaNodeService.deleteNode device.id
      DataService.deleteByDeviceId device.id
  | .LoRaGate => LoRaGateService.deleteGateway device.id

def delete (deviceId userId : Id) : Service Unit := do
  let world ← get
  match queryOneWithAuth world userId deviceId with
  | .error _ => throw (.user (.plain "invalid device"))
  | .ok found =>
      if found.auth.owner then do
        DeviceGroupService.unlinkDeviceAll found.device.id
        deleteTyped found.device
        modifyRows fun rows =>
          { rows with devices := rows.devices.filter fun row => row.id ≠ found.device.id }
        modifyRows fun rows =>
          { rows with
            authorities := rows.authorities.filter fun row => row.deviceId ≠ deviceId }
      else throw (.user (.plain "not owner device"))

def deleteSnap (devices : List Id) : Service Unit :=
  modifyRows fun rows => { rows with snaps := rows.snaps.filter fun row => row.deviceId ∉ devices }

def deleteLoraNode (devices : List Id) : Service Unit :=
  modifyRows fun rows =>
    { rows with loraNodes := rows.loraNodes.filter fun row => row.deviceId ∉ devices }

def deleteLoraGateway (devices : List Id) : Service Unit :=
  modifyRows fun rows =>
    { rows with loraGates := rows.loraGates.filter fun row => row.deviceId ∉ devices }

def deleteList (devices : List Id) : Service Unit :=
  modifyRows fun rows => { rows with devices := rows.devices.filter fun row => row.id ∉ devices }

def deleteDeviceAuth (devices : List Id) : Service Unit :=
  modifyRows fun rows =>
    { rows with authorities := rows.authorities.filter fun row => row.deviceId ∉ devices }

/-- The devices a user owns. -/
def owned (world : World) (userId : Id) : List DevicesModel :=
  ((queryAllWithAuth world userId).filter fun found => found.auth.owner).map fun found =>
    found.device

def ids (devices : List DevicesModel) : List Id := devices.map fun device => device.id

def typed (devices : List DevicesModel) (deviceType : DeviceType) : List Id :=
  ids (devices.filter fun device => device.deviceType = deviceType)

/-- Devices of type Snap are deleted by the list of LoRa nodes, and MQTT devices
are not deleted at all. -/
def deleteByUserId (userId : Id) : Service Unit := do
  let world ← get
  let devices := owned world userId
  let canDelete := ids devices
  let loraNode := typed devices .LoRaNode
  let loraGate := typed devices .LoRaGate
  deleteSnap loraNode
  deleteLoraNode loraNode
  deleteLoraGateway loraGate
  DataService.deleteByDeviceIdArray canDelete
  deleteList canDelete
  deleteDeviceAuth canDelete

end DeviceService

def DecodeService.deleteUserScript (userId : Id) : Service Unit :=
  modifyRows fun rows => { rows with scripts := rows.scripts.filter fun row => row.owner ≠ userId }

/-- The request of an owner. -/
def deleteDevice (deviceId userId : Id) : Service Unit :=
  transaction rollback (DeviceService.delete deviceId userId)

def UserService.deleteLocalUser (userId : Id) : Service Unit :=
  transaction rollback do
    DecodeService.deleteUserScript userId
    DeviceService.deleteByUserId userId
    TokenService.deleteUserToken userId
    DeviceGroupService.deleteByUser userId
    modifyRows fun rows => { rows with users := rows.users.filter fun row => row.id ≠ userId }

structure MqttAuthRequest where
  username : String
  password : String

structure MqttAuth where
  id : Id
  username : String
  deriving DecidableEq

inductive LinkError where
  | InvalidAuth
  deriving DecidableEq

/-- The first credential of that name with that password. -/
def mqttAuthFn (rows : Rows) (request : MqttAuthRequest) : Except LinkError MqttAuth :=
  let tokens := rows.integrations.filter fun row => row.username = request.username
  match tokens.find? fun token => token.password = request.password with
  | some token => .ok ⟨token.userId, token.username⟩
  | none => .error .InvalidAuth

end SnapEmu.Server
