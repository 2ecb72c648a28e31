import SnapEmu.Management.State

/-! The requests of administrators and owners that read or change a LoRa node,
and the one that creates it. -/
namespace SnapEmu.Management

open Device User

def deviceNotFound : ApiError := .user (.plain "Device not found")

/-- A device with its cached record; a record missing under the EUI of the
device is registered from the rows. Other device types have caches of their
own. -/
def getDeviceInfo (state : State) (id : Id) :
    State × Except ApiError (DevicesModel × Option NodeInfo) :=
  match state.findDevice id with
  | none => (state, .error deviceNotFound)
  | some device =>
      match device.deviceType with
      | .LoRaNode =>
          match NodeInfo.loadByEui state.store device.eui with
          | .error error => (state, .error (redisError error))
          | .ok (some info) => (state, .ok (device, some info))
          | .ok none =>
              match state.findNode device.id with
              | none => (state, .error deviceNotFound)
              | some node =>
                  let (store, info) := NodeInfo.registerToRedis state.store node device
                  ({ state with store := store }, .ok (device, some info))
      | .LoRaGate | .Snap => (state, .ok (device, none))
      | .MQTT => (state, .error (.user (.plain "The device is not supported")))

/-- A text of a request, and what its `from_str` makes of it. -/
structure Text (α : Type) where
  text : String
  parsed : Option α

/-- The fields of a node that an administrator may change. -/
structure DeviceChangeBody where
  region : Option (Text LoRaRegion)
  joinType : Option (Text LoRaJoinType)
  appEui : Option (Text Eui)
  appKey : Option (Text Key)
  nwkSkey : Option (Text Key)
  appSkey : Option (Text Key)
  classB : Option Bool
  adr : Option Bool
  rx1Delay : Option Int16
  desRx1Delay : Option Int16
  rx1Dro : Option Int16
  desRx1Dro : Option Int16
  rx2Dr : Option Int16
  desRx2Dr : Option Int16
  rx2Freq : Option Int32
  desRx2Freq : Option Int32
  dRetry : Option Int16
  cRetry : Option Int16
  productType : Option ProductType
  dutycyle : Option Int32
  upConfirm : Option Bool
  upDr : Option Int16
  timeZone : Option Int32

/-- The change of a field that is given as text. -/
def parseField (name : String) (field : NodeField) (text : Option (Text field.Value)) :
    Except ApiError (List NodeChange) :=
  match text with
  | none => .ok []
  | some text =>
      match text.parsed with
      | some value => .ok [⟨field, value⟩]
      | none => .error (.user (.plain ("invalid " ++ name)))

/-- All texts are parsed before the first change. -/
def DeviceChangeBody.changes (info : DeviceChangeBody) : Except ApiError (List NodeChange) := do
  let region ← parseField "region" .region info.region
  let joinType ← parseField "join_type" .joinType info.joinType
  let appEui ← parseField "app_eui" .appEui info.appEui
  let appKey ← parseField "app_key" .appKey info.appKey
  let nwkSkey ← parseField "nwk_skey" .nwkSkey info.nwkSkey
  let appSkey ← parseField "app_skey" .appSkey info.appSkey
  return region ++ joinType ++ appEui ++ appKey ++ nwkSkey ++ appSkey ++
    change .classB info.classB ++ change .adr info.adr ++ change .rx1Delay info.rx1Delay ++
    change .desRx1Delay info.desRx1Delay ++ change .rx1Dro info.rx1Dro ++
    change .desRx1Dro info.desRx1Dro ++ change .rx2Dr info.rx2Dr ++
    change .desRx2Dr info.desRx2Dr ++ change .rx2Freq info.rx2Freq ++
    change .desRx2Freq info.desRx2Freq ++ change .dRetry info.dRetry ++
    change .cRetry info.cRetry ++ change .productType info.productType ++
    change .dutycyle info.dutycyle ++ change .upConfirm info.upConfirm ++
    change .upDr info.upDr ++ change .timeZone info.timeZone

/-- The record is found by the EUI of the node. -/
def putDeviceInfo (state : State) (id : Id) (info : DeviceChangeBody) :
    State × Except ApiError Unit :=
  match state.findDevice id with
  | none => (state, .error deviceNotFound)
  | some device =>
      match device.deviceType with
      | .LoRaNode =>
          match state.findNode device.id with
          | none => (state, .error (.user (.plain "invalid device")))
          | some node =>
              match info.changes with
              | .error error => (state, .error error)
              | .ok changes =>
                  ({ state with store := updateCache state.store node.devEui changes }.updateNode
                    (changes.foldl assign node), .ok ())
      | .LoRaGate | .MQTT | .Snap => (state, .ok ())

/-- What an owner may change. -/
structure DeviceModify where
  name : Option String
  description : Option String
  period : Option Int32
  script : Option Id
  resetScript : Option Bool
  region : Option LoRaRegion
  joinType : Option LoRaJoinType
  appEui : Option Eui
  appKey : Option Key
  nwkSkey : Option Key
  appSkey : Option Key
  classC : Option Bool
  productId : Option Id

/-- In the cache an application session key goes to the field of the
application key. -/
def DeviceModify.cacheChanges (info : DeviceModify) : List NodeChange :=
  change .region info.region ++ change .classC info.classC ++ change .joinType info.joinType ++
    change .appEui info.appEui ++ change .appKey info.appKey ++ change .nwkSkey info.nwkSkey ++
    change .appKey info.appSkey

def DeviceModify.rowChanges (info : DeviceModify) : List NodeChange :=
  change .region info.region ++ change .classC info.classC ++ change .joinType info.joinType ++
    change .appEui info.appEui ++ change .appKey info.appKey ++ change .nwkSkey info.nwkSkey ++
    change .appSkey info.appSkey

/-- A new decode script, which must exist. -/
def updateScript (state : State) (device active : DevicesModel) (info : DeviceModify) :
    Except ApiError (State × DevicesModel) :=
  match info.script with
  | none => .ok (state, active)
  | some scriptId =>
      if device.deviceType = .LoRaNode ∧ device.script ≠ info.script then
        if scriptId ∈ state.scripts then
          .ok ({ state with
            store := NodeInfo.updateByEui state.store device.eui .script (some scriptId) },
            { active with script := some scriptId })
        else .error (.user (.plain "invalid script"))
      else .ok (state, active)

def resetScript (state : State) (device active : DevicesModel) (info : DeviceModify) :
    State × DevicesModel :=
  if info.resetScript.isSome then
    ({ state with store := NodeInfo.resetByEui state.store device.eui .script },
      { active with script := none })
  else (state, active)

/-- The record is found by the EUI of the device. -/
def updateLoRaNode (state : State) (device active : DevicesModel) (info : DeviceModify) :
    State × Except ApiError Unit :=
  match state.findNode device.id with
  | none => (state, .error (.user (.plain "invalid device")))
  | some node =>
      let active := { active with
        name := info.name.getD active.name
        description := info.description.getD active.description }
      let state := { state with store := updateCache state.store device.eui info.cacheChanges }
      ((state.updateNode (info.rowChanges.foldl assign node)).updateDevice active, .ok ())

def updateInfo (state : State) (device : DevicesModel) (info : DeviceModify) :
    State × Except ApiError Unit :=
  let active := { device with
    productId := info.productId.or device.productId, period := info.period.getD device.period }
  match updateScript state device active info with
  | .error error => (state, .error error)
  | .ok (state, active) =>
      match resetScript state device active info with
      | (state, active) =>
          if device.deviceType = .LoRaGate ∧ device.id ∉ state.gates then
            (state, .error (.user (.plain "invalid device")))
          else if device.deviceType = .LoRaNode then updateLoRaNode state device active info
          else (state.updateDevice active, .ok ())

/-- A device the user has an authority for. -/
def queryOne (state : State) (userId deviceId : Id) : Except ApiError DevicesModel :=
  let missing : ApiError := .device deviceId.value.toNat
    (.translated "messages.device.common.device_missing" [("device_id", showId deviceId)])
  if (userId, deviceId) ∈ state.authority then
    match state.findDevice deviceId with
    | some device => .ok device
    | none => .error missing
  else .error missing

def putDevice (state : State) (userId deviceId : Id) (info : DeviceModify) :
    State × Except ApiError Unit :=
  match queryOne state userId deviceId with
  | .error error => (state, .error error)
  | .ok device => updateInfo state device info

end SnapEmu.Management
