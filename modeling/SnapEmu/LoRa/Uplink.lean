import SnapEmu.LoRa.DataCache

/-! Processing of an uplink frame: the node it belongs to, the switch to a
pending session, the counter, and the hand-over of the decrypted frame. -/
namespace SnapEmu.LoRa

open Device Semantics

inductive DeviceError where
  | redis (error : RedisError)
  | lorawan
  | empty
  | device (msg : String)
  deriving DecidableEq

/-- The keys of a join that waits for its first frame. -/
structure LoRaOTAANodeInfo where
  appSkey : Key
  nwkSkey : Key
  devNonce : UInt16
  appNonce : UInt32
  netId : UInt32
  deriving DecidableEq

/-- A node as a task holds it: a copy of the cached record. -/
structure LoRaNode where
  info : NodeInfo
  deriving DecidableEq

namespace LoRaNode

def updateUpCount (store : NodeStore) (node : LoRaNode) (upCount : UInt32) : NodeStore :=
  NodeInfo.updateByAddr store node.info.devAddr .upCount upCount

/-- Also the one counter update that reaches the copy. -/
def resetDownCount (store : NodeStore) (node : LoRaNode) : NodeStore × LoRaNode :=
  (NodeInfo.updateByAddr store node.info.devAddr .downCount (0 : UInt32),
    { node with info := { node.info with downCount := 0 } })

end LoRaNode

variable {Plain : Type}

/-- The full counter guessed for a frame, from the stored one and the 16 bits
on the wire. -/
def newUpCount (upCount : UInt32) (currentUpCount : UInt16) : UInt32 :=
  let preCount := upCount.toUInt16
  let upCountDiff := (currentUpCount - preCount).toUInt32
  if upCountDiff < (1 : UInt32) <<< 15 then upCount + upCountDiff
  else upCount + 0x10000 + upCountDiff

/-- Check and decrypt a frame. Where the guessed counter fails, the wire
counter itself is tried and both stored counters restart from it. -/
def payloadDecode (store : NodeStore) (node : LoRaNode) (payload : LoRaPayload Plain)
    (currentUpCount : UInt16) : Except DeviceError (Plain × NodeStore × LoRaNode) :=
  let upCount := newUpCount node.info.upCount currentUpCount
  match payload.decryptMic node.info.nwkSkey node.info.appSkey upCount with
  | some plain => .ok (plain, node.updateUpCount store upCount, node)
  | none =>
      -- ABP device reset
      match payload.decryptMic node.info.nwkSkey node.info.appSkey currentUpCount.toUInt32 with
      | some plain =>
          let store := node.updateUpCount store currentUpCount.toUInt32
          let (store, node) := node.resetDownCount store
          .ok (plain, store, node)
      | none => .error .lorawan

/-- The wire counter repeats the stored one, and is not one of the first. -/
def isRepetition (node : LoRaNode) (upCount : UInt16) : Bool :=
  let upCountPre := node.info.upCount.toUInt16
  upCountPre == upCount && !(upCount == 0 || upCountPre == 1)

/-- A frame handed to `decode_payload`, with the node copy and the cache of
that moment. -/
structure Delivery (Plain : Type) where
  item : DataItem Plain
  node : LoRaNode
  store : NodeStore

structure World (Plain : Type) where
  store : NodeStore
  otaa : LoRaAddr → Option LoRaOTAANodeInfo
  loraNodes : List DeviceLoraNodeModel
  devices : List DevicesModel
  queue : DataCache.Map Plain

/-- Check, decrypt and queue a frame; the winner of the queue hands over
what it finds there after the window. No other task runs in between. -/
def decodeNodePayload (world : World Plain) (payload : LoRaPayload Plain) (node : LoRaNode)
    (upCount : UInt16) (data : PushData) :
    World Plain × Except DeviceError (List (Delivery Plain)) :=
  if isRepetition node upCount then (world, .ok [])
  else
    match payloadDecode world.store node payload upCount with
    | .error error => (world, .error error)
    | .ok (plain, store, node) =>
        let (queue, first) := DataCache.insert world.queue node.info.devAddr data payload plain
        let world := { world with store := store, queue := queue }
        if first then
          let (queue, found) := DataCache.get world.queue node.info.devAddr
          let world := { world with queue := queue }
          match found with
          | some item => (world, .ok [⟨item, node, world.store⟩])
          | none => (world, .ok [])
        else (world, .ok [])

/-- The node of an address: from the cache, else from its rows. -/
def getNodeWithGateway (world : World Plain) (devAddr : LoRaAddr) :
    World Plain × Except DeviceError LoRaNode :=
  match NodeInfo.loadByAddr world.store devAddr with
  | .error error => (world, .error (.redis error))
  | .ok (some info) => (world, .ok ⟨info⟩)
  | .ok none =>
      match world.loraNodes.find? fun node => node.devAddr = devAddr with
      | none => (world, .error .empty)
      | some node =>
          match world.devices.find? fun device => device.id = node.deviceId with
          | none => (world, .error .empty)
          | some device =>
              let (store, info) := NodeInfo.registerToRedis world.store node device
              ({ world with store := store }, .ok ⟨info⟩)

/-- `GET` and `DEL` of the pending session. -/
def getOtaaInfo (world : World Plain) (node : LoRaNode) :
    World Plain × Option LoRaOTAANodeInfo :=
  ({ world with otaa := Function.update world.otaa node.info.devAddr none },
    world.otaa node.info.devAddr)

/-- The session data of a row, taken from a pending session. -/
def activateRow (row : DeviceLoraNodeModel) (otaaInfo : LoRaOTAANodeInfo) :
    DeviceLoraNodeModel :=
  { row with
    nwkSkey := otaaInfo.nwkSkey
    appSkey := otaaInfo.appSkey
    devNon := otaaInfo.devNonce.toUInt32.toInt32
    netId := otaaInfo.netId.toInt32
    appNon := otaaInfo.appNonce.toInt32 }

/-- The node copy on a session switch: keys and nonces, but no counters. -/
def LoRaNode.activate (node : LoRaNode) (otaaInfo : LoRaOTAANodeInfo) : LoRaNode :=
  { node with
    info :=
      { node.info with
        nwkSkey := otaaInfo.nwkSkey
        appSkey := otaaInfo.appSkey
        devNon := otaaInfo.devNonce.toUInt32.toInt32
        netId := otaaInfo.netId.toInt32
        appNon := otaaInfo.appNonce.toInt32 } }

/-- The hash on a session switch: keys, nonces and both counters. -/
def activateHash (hash : NodeHash) (info : NodeInfo) (upCount : UInt16) : NodeHash :=
  ((((((hash.set .nwkSkey info.nwkSkey).set .appSkey info.appSkey).set .devNon info.devNon).set
    .netId info.netId).set .appNon info.appNon).set .upCount upCount.toUInt32).set
    .downCount upCount.toUInt32

/-- Switch a node to a pending session. -/
def switchSession (world : World Plain) (node : LoRaNode) (otaaInfo : LoRaOTAANodeInfo)
    (devAddr : LoRaAddr) (upCount : UInt16) : World Plain × Except DeviceError LoRaNode :=
  match world.loraNodes.find? fun row => row.deviceId = node.info.deviceId with
  | none => (world, .error .empty)
  | some dbInfo =>
      let node := node.activate otaaInfo
      ({ world with
        loraNodes := world.loraNodes.map fun row =>
          if row.id = dbInfo.id then activateRow row otaaInfo else row
        store := world.store.setHash devAddr
          (activateHash (world.store.node devAddr) node.info upCount) }, .ok node)

/-- One received frame, from the node lookup to the hand-over. -/
def decodeEncPayload (world : World Plain) (payload : LoRaPayload Plain) (devAddr : LoRaAddr)
    (upCount : UInt16) (data : PushData) (now : Timestamp) :
    World Plain × Except DeviceError (List (Delivery Plain)) :=
  match getNodeWithGateway world devAddr with
  | (world, .error error) => (world, .error error)
  | (world, .ok node) =>
      let world :=
        { world with
          devices := world.devices.map fun device =>
            if device.id = node.info.deviceId then { device with activeTime := some now }
            else device }
      if upCount < 5 then
        match getOtaaInfo world node with
        | (world, none) => decodeNodePayload world payload node upCount data
        | (world, some otaaInfo) =>
            match payload.decryptMic otaaInfo.nwkSkey otaaInfo.appSkey upCount.toUInt32 with
            | none => (world, .error .empty)
            | some _ =>
                match switchSession world node otaaInfo devAddr upCount with
                | (world, .error error) => (world, .error error)
                | (world, .ok node) => decodeNodePayload world payload node upCount data
      else decodeNodePayload world payload node upCount data

end SnapEmu.LoRa
