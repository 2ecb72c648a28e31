import SnapEmu.Gateway.Udp
import SnapEmu.LoRa.Downlink
import SnapEmu.Semantics.Base64

/-! The messages in which the device manager reports what it sees, and the
events the server makes of them. A message travels as bytes next to the
number of its kind. -/
namespace SnapEmu.Event

open Device Semantics Gateway

inductive LogType where
  | LoRaGatewayStatus | LoRaNodeJoinRequest | LoRaNodeJoinAccept | LoRaNodeUplinkData
  | LoRaNodeDownLinkData
  deriving DecidableEq

namespace LogType

def toI32 : LogType → Int32
  | .LoRaGatewayStatus => 0
  | .LoRaNodeJoinRequest => 1
  | .LoRaNodeJoinAccept => 2
  | .LoRaNodeUplinkData => 3
  | .LoRaNodeDownLinkData => 4

def tryFrom (value : Int32) : Option LogType :=
  if value = 0 then some .LoRaGatewayStatus
  else if value = 1 then some .LoRaNodeJoinRequest
  else if value = 2 then some .LoRaNodeJoinAccept
  else if value = 3 then some .LoRaNodeUplinkData
  else if value = 4 then some .LoRaNodeDownLinkData
  else none

@[simp] theorem tryFrom_toI32 (logType : LogType) : tryFrom logType.toI32 = some logType := by
  cases logType <;> rfl

end LogType

structure LoRaNodeJoinRequest where
  appEui : UInt64
  devEui : UInt64
  time : Int64
  deriving DecidableEq

structure LoRaNodeJoinAccept where
  devAddr : UInt32
  time : Int64
  deriving DecidableEq

structure GatewayRxStatus where
  id : UInt64
  eui : UInt64
  time : Int64
  rssi : Int32
  snr : F32
  deriving DecidableEq

structure LoRaNodeUplinkData where
  devAddr : UInt32
  confirm : Bool
  fPort : Int32
  fCnt : Int32
  payload : Option String
  decodedPayload : Option String
  gateway : Option GatewayRxStatus
  time : Int64
  deriving DecidableEq

structure LoRaNodeDownLinkData where
  confirm : Bool
  fPort : Int32
  bytes : Option String
  time : Int64
  deriving DecidableEq

structure LoRaGatewayStatus where
  time : Option String
  lati : Option F32
  long : Option F32
  alti : Option Int32
  rxnb : Option UInt32
  rxok : Option UInt32
  rwfw : Option UInt32
  ackr : Option F32
  dwnb : Option UInt32
  txnb : Option UInt32
  deriving DecidableEq

/-- The length-delimited encoding of a message type. Bytes of another type may
well decode. -/
structure MessageCodec (Bytes Message : Type) where
  encode : Message → Bytes
  decode : Bytes → Option Message
  decode_encode : ∀ message, decode (encode message) = some message

structure Protobuf (Bytes : Type) where
  gatewayStatus : MessageCodec Bytes LoRaGatewayStatus
  joinRequest : MessageCodec Bytes LoRaNodeJoinRequest
  joinAccept : MessageCodec Bytes LoRaNodeJoinAccept
  uplinkData : MessageCodec Bytes LoRaNodeUplinkData
  downLinkData : MessageCodec Bytes LoRaNodeDownLinkData

/-- Bytes, by the message they encode. -/
inductive Payload where
  | gatewayStatus (message : LoRaGatewayStatus)
  | joinRequest (message : LoRaNodeJoinRequest)
  | joinAccept (message : LoRaNodeJoinAccept)
  | uplinkData (message : LoRaNodeUplinkData)
  | downLinkData (message : LoRaNodeDownLinkData)
  deriving DecidableEq

namespace Payload

/-- A downlink reads as a join-accept too: its first two fields are numbers
there as well, and the others are skipped. -/
def asJoinAccept : Payload → Option LoRaNodeJoinAccept
  | .joinAccept message => some message
  | .downLinkData message => some ⟨if message.confirm then 1 else 0, message.fPort.toInt64⟩
  | _ => none

def wire : Protobuf Payload where
  gatewayStatus :=
    { encode := .gatewayStatus
      decode := fun | .gatewayStatus message => some message | _ => none
      decode_encode := fun _ => rfl }
  joinRequest :=
    { encode := .joinRequest
      decode := fun | .joinRequest message => some message | _ => none
      decode_encode := fun _ => rfl }
  joinAccept := { encode := .joinAccept, decode := asJoinAccept, decode_encode := fun _ => rfl }
  uplinkData :=
    { encode := .uplinkData
      decode := fun | .uplinkData message => some message | _ => none
      decode_encode := fun _ => rfl }
  downLinkData :=
    { encode := .downLinkData
      decode := fun | .downLinkData message => some message | _ => none
      decode_encode := fun _ => rfl }

end Payload

structure DeviceIdentity where
  id : UInt64
  eui : UInt64
  deriving DecidableEq

structure LogResponse (Bytes : Type) where
  identity : Option DeviceIdentity
  logType : Int32
  payload : Bytes
  deriving DecidableEq

structure JoinRequest where
  appEui : UInt64
  devEui : UInt64
  time : Int64
  deriving DecidableEq

structure JoinAccept where
  devAddr : UInt32
  time : Int64
  deriving DecidableEq

structure UplinkData where
  devAddr : UInt32
  confirm : Bool
  fPort : Int32
  fCnt : Int32
  payload : Option String
  decodedPayload : Option String
  time : Int64
  deriving DecidableEq

structure DownLinkData where
  confirm : Bool
  fPort : Int32
  bytes : Option String
  time : Int64
  deriving DecidableEq

/-- What a gateway reports, as far as the server hears of it. -/
structure GatewayEvent where
  eui : Eui
  time : Timestamp
  status : GatewayStatus
  deriving DecidableEq

inductive DeviceEventType where
  | joinRequest (data : JoinRequest)
  | joinAccept (data : JoinAccept)
  | uplinkData (data : UplinkData)
  | downLinkData (data : DownLinkData)
  | gateway (data : GatewayEvent)
  deriving DecidableEq

structure DeviceEvent where
  device : Id
  event : DeviceEventType
  deriving DecidableEq

/-- What an uplink report takes from the received frame. -/
structure UplinkHeader where
  isConfirmed : Bool
  fPort : Option UInt8
  fcnt : UInt16
  bytes : List UInt8
  deriving DecidableEq

namespace DeviceEventSender

variable {Bytes : Type} (wire : Protobuf Bytes)

def loraGatewayStatus (id : Id) (eui : Eui) (state : GatewayEventType) :
    Option (LogResponse Bytes) :=
  match state with
  | .status st =>
      some
        { identity := some ⟨id.value, eui.value⟩
          logType := LogType.LoRaGatewayStatus.toI32
          payload := wire.gatewayStatus.encode ⟨st.time, st.lati, st.long, st.alti, st.rxnb,
            st.rxok, st.rwfw, st.ackr, st.dwnb, st.txnb⟩ }
  | _ => none

def loraNodeJoinRequest (now : Int64) (device : NodeInfo) : LogResponse Bytes where
  identity := some ⟨device.deviceId.value, device.devEui.value⟩
  logType := LogType.LoRaNodeJoinRequest.toI32
  payload := wire.joinRequest.encode ⟨device.appEui.value, device.devEui.value, now⟩

def loraNodeJoinAccept (now : Int64) (addr : LoRaAddr) (device : NodeInfo) :
    LogResponse Bytes where
  identity := some ⟨device.deviceId.value, device.devEui.value⟩
  logType := LogType.LoRaNodeJoinAccept.toI32
  payload := wire.joinAccept.encode ⟨addr.value, now⟩

def loraNodeUplinkData (now : Int64) (header : UplinkHeader) (device : NodeInfo)
    (gateway : PushData) (data : List UInt8) : LogResponse Bytes where
  identity := some ⟨device.deviceId.value, device.devEui.value⟩
  logType := LogType.LoRaNodeUplinkData.toI32
  payload := wire.uplinkData.encode
    { devAddr := device.devAddr.value
      confirm := header.isConfirmed
      fPort := Int32.ofNat (header.fPort.getD 0).toNat
      fCnt := Int32.ofNat header.fcnt.toNat
      payload := some (Base64.encode header.bytes)
      decodedPayload := some (Base64.encode data)
      gateway := some ⟨gateway.gateway.value, gateway.eui.value,
        Int64.ofInt (gateway.time.micros / 1000), gateway.pk.rssi, gateway.pk.lsnr⟩
      time := now }

def loraNodeDownlinkData (now : Int64) (device : NodeInfo) (down : Option LoRa.DownloadData) :
    LogResponse Bytes where
  identity := some ⟨device.deviceId.value, device.devEui.value⟩
  logType := LogType.LoRaNodeJoinAccept.toI32
  payload := wire.downLinkData.encode
    { confirm := false
      fPort := Int32.ofNat ((down.map LoRa.DownloadData.port).getD 2).toNat
      bytes := down.map fun i => Base64.encode i.bytes
      time := now }

end DeviceEventSender

/-- A call of one of the five emitters. -/
inductive Emission where
  | gatewayStatus (id : Id) (eui : Eui) (state : GatewayEventType)
  | joinRequest (device : NodeInfo)
  | joinAccept (addr : LoRaAddr) (device : NodeInfo)
  | uplinkData (header : UplinkHeader) (device : NodeInfo) (gateway : PushData)
      (data : List UInt8)
  | downlinkData (device : NodeInfo) (down : Option LoRa.DownloadData)

namespace Emission

/-- The message an emitter sends, if it sends one. -/
def send {Bytes : Type} (wire : Protobuf Bytes) (now : Int64) :
    Emission → Option (LogResponse Bytes)
  | .gatewayStatus id eui state => DeviceEventSender.loraGatewayStatus wire id eui state
  | .joinRequest device => some (DeviceEventSender.loraNodeJoinRequest wire now device)
  | .joinAccept addr device => some (DeviceEventSender.loraNodeJoinAccept wire now addr device)
  | .uplinkData header device gateway data =>
      some (DeviceEventSender.loraNodeUplinkData wire now header device gateway data)
  | .downlinkData device down =>
      some (DeviceEventSender.loraNodeDownlinkData wire now device down)

def device : Emission → Id
  | .gatewayStatus id _ _ => id
  | .joinRequest device | .joinAccept _ device | .uplinkData _ device _ _
  | .downlinkData device _ => device.deviceId

def isDownlink : Emission → Bool
  | .downlinkData _ _ => true
  | _ => false

/-- The event that subscribers are to get: of the emitter's kind, with the
emitted values. A gateway's event has the time of its arrival. -/
def expected (now : Int64) (received : Timestamp) : Emission → Option DeviceEvent
  | .gatewayStatus id eui (.status st) => some ⟨id, .gateway ⟨eui, received, st⟩⟩
  | .gatewayStatus _ _ _ => none
  | .joinRequest device =>
      some ⟨device.deviceId, .joinRequest ⟨device.appEui.value, device.devEui.value, now⟩⟩
  | .joinAccept addr device => some ⟨device.deviceId, .joinAccept ⟨addr.value, now⟩⟩
  | .uplinkData header device _ data =>
      some ⟨device.deviceId, .uplinkData
        { devAddr := device.devAddr.value
          confirm := header.isConfirmed
          fPort := Int32.ofNat (header.fPort.getD 0).toNat
          fCnt := Int32.ofNat header.fcnt.toNat
          payload := some (Base64.encode header.bytes)
          decodedPayload := some (Base64.encode data)
          time := now }⟩
  | .downlinkData device down =>
      some ⟨device.deviceId, .downLinkData
        { confirm := false
          fPort := Int32.ofNat ((down.map LoRa.DownloadData.port).getD 2).toNat
          bytes := down.map fun i => Base64.encode i.bytes
          time := now }⟩

end Emission
end SnapEmu.Event
