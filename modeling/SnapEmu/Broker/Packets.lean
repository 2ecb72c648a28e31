import SnapEmu.Mqtt.Network

/-! The packets of the broker, common to the versions of the protocol. -/
namespace SnapEmu.Broker

open Mqtt (Str QoS)

abbrev Bytes := List UInt8

abbrev Topic := Str

/-- The name of a filter in the router. -/
abbrev FilterName := Str

abbrev ClientId := Str

abbrev ConnectionId := Nat

abbrev FilterIdx := Nat

/-- Nanoseconds on the monotonic clock. -/
abbrev Instant := Nat

def qosNumber : QoS → Nat
  | .AtMostOnce => 0
  | .AtLeastOnce => 1
  | .ExactlyOnce => 2

def qos : Nat → Option QoS
  | 0 => some .AtMostOnce
  | 1 => some .AtLeastOnce
  | 2 => some .ExactlyOnce
  | _ => none

@[simp] theorem qos_qosNumber (level : QoS) : qos (qosNumber level) = some level := by
  cases level <;> rfl

structure Connect where
  keepAlive : UInt16
  clientId : Str
  cleanSession : Bool
  deriving DecidableEq

structure LastWill where
  topic : Bytes
  message : Bytes
  qos : QoS
  retain : Bool
  deriving DecidableEq

structure LastWillProperties where
  delayInterval : Option UInt32
  payloadFormatIndicator : Option UInt8
  messageExpiryInterval : Option UInt32
  contentType : Option Str
  responseTopic : Option Str
  correlationData : Option Bytes
  userProperties : List (Str × Str)
  deriving DecidableEq

structure Login where
  username : Str
  password : Str
  deriving DecidableEq

inductive ConnectReturnCode where
  | Success | RefusedProtocolVersion | ServiceUnavailable | UnspecifiedError | MalformedPacket
  | ProtocolError | ImplementationSpecificError | UnsupportedProtocolVersion
  | ClientIdentifierNotValid | BadUserNamePassword | NotAuthorized | ServerUnavailable
  | ServerBusy | Banned | BadAuthenticationMethod | TopicNameInvalid | PacketTooLarge
  | QuotaExceeded | PayloadFormatInvalid | RetainNotSupported | QoSNotSupported
  | UseAnotherServer | ServerMoved | ConnectionRateExceeded
  deriving DecidableEq

structure ConnAck where
  sessionPresent : Bool
  code : ConnectReturnCode
  deriving DecidableEq

structure Publish where
  dup : Bool
  qos : QoS
  pkid : UInt16
  retain : Bool
  topic : Bytes
  payload : Bytes
  deriving DecidableEq

/-- A message of a local link. -/
def Publish.new (topic payload : Bytes) (retain : Bool) : Publish where
  dup := false
  qos := .AtMostOnce
  pkid := 0
  retain := retain
  topic := topic
  payload := payload

structure PublishProperties where
  payloadFormatIndicator : Option UInt8
  messageExpiryInterval : Option UInt32
  topicAlias : Option UInt16
  responseTopic : Option Str
  correlationData : Option Bytes
  userProperties : List (Str × Str)
  subscriptionIdentifiers : List Nat
  contentType : Option Str
  deriving DecidableEq

/-- `PublishProperties::default()`. -/
def PublishProperties.default : PublishProperties where
  payloadFormatIndicator := none
  messageExpiryInterval := none
  topicAlias := none
  responseTopic := none
  correlationData := none
  userProperties := []
  subscriptionIdentifiers := []
  contentType := none

/-- A message and what goes with it. -/
abbrev PubWithProp := Publish × Option PublishProperties

inductive PubAckReason where
  | Success | NoMatchingSubscribers | UnspecifiedError | ImplementationSpecificError
  | NotAuthorized | TopicNameInvalid | PacketIdentifierInUse | QuotaExceeded
  | PayloadFormatInvalid
  deriving DecidableEq

structure PubAck where
  pkid : UInt16
  reason : PubAckReason
  deriving DecidableEq

inductive RetainForwardRule where
  | OnEverySubscribe | OnNewSubscribe | Never
  deriving DecidableEq

structure Filter where
  path : Str
  qos : QoS
  nolocal : Bool
  preserveRetain : Bool
  retainForwardRule : RetainForwardRule
  deriving DecidableEq

structure Subscribe where
  pkid : UInt16
  filters : List Filter
  deriving DecidableEq

structure SubscribeProperties where
  id : Option Nat
  userProperties : List (Str × Str)
  deriving DecidableEq

inductive SubscribeReasonCode where
  | QoS0 | QoS1 | QoS2
  | Success (qos : QoS)
  | Failure | Unspecified | ImplementationSpecific | NotAuthorized | TopicFilterInvalid
  | PkidInUse | QuotaExceeded | SharedSubscriptionsNotSupported | SubscriptionIdNotSupported
  | WildcardSubscriptionsNotSupported
  deriving DecidableEq

structure SubAck where
  pkid : UInt16
  returnCodes : List SubscribeReasonCode
  deriving DecidableEq

structure Unsubscribe where
  pkid : UInt16
  filters : List Str
  deriving DecidableEq

inductive UnsubAckReason where
  | Success | NoSubscriptionExisted | UnspecifiedError | ImplementationSpecificError
  | NotAuthorized | TopicFilterInvalid | PacketIdentifierInUse
  deriving DecidableEq

structure UnsubAck where
  pkid : UInt16
  reasons : List UnsubAckReason
  deriving DecidableEq

inductive PubRecReason where
  | Success | NoMatchingSubscribers | UnspecifiedError | ImplementationSpecificError
  | NotAuthorized | TopicNameInvalid | PacketIdentifierInUse | QuotaExceeded
  | PayloadFormatInvalid
  deriving DecidableEq

structure PubRec where
  pkid : UInt16
  reason : PubRecReason
  deriving DecidableEq

inductive PubRelReason where
  | Success | PacketIdentifierNotFound
  deriving DecidableEq

structure PubRel where
  pkid : UInt16
  reason : PubRelReason
  deriving DecidableEq

inductive PubCompReason where
  | Success | PacketIdentifierNotFound
  deriving DecidableEq

structure PubComp where
  pkid : UInt16
  reason : PubCompReason
  deriving DecidableEq

inductive DisconnectReasonCode where
  | NormalDisconnection | DisconnectWithWillMessage | UnspecifiedError | MalformedPacket
  | ProtocolError | ImplementationSpecificError | NotAuthorized | ServerBusy | ServerShuttingDown
  | KeepAliveTimeout | SessionTakenOver | TopicFilterInvalid | TopicNameInvalid
  | ReceiveMaximumExceeded | TopicAliasInvalid | PacketTooLarge | MessageRateTooHigh
  | QuotaExceeded | AdministrativeAction | PayloadFormatInvalid | RetainNotSupported
  | QoSNotSupported | UseAnotherServer | ServerMoved | SharedSubscriptionNotSupported
  | ConnectionRateExceeded | MaximumConnectTime | SubscriptionIdentifiersNotSupported
  | WildcardSubscriptionsNotSupported
  deriving DecidableEq

/-- The properties of an acknowledgement. -/
structure AckProperties where
  reasonString : Option Str
  userProperties : List (Str × Str)
  deriving DecidableEq

abbrev PubRelProperties := AckProperties

/-- The packets of clients and broker. Properties are those the router reads. -/
inductive Packet where
  | Connect (connect : Connect) (lastWill : Option LastWill)
      (lastWillProperties : Option LastWillProperties) (login : Option Login)
  | ConnAck (connack : ConnAck)
  | Publish (publish : Publish) (properties : Option PublishProperties)
  | PubAck (puback : PubAck)
  | PingReq
  | PingResp
  | Subscribe (subscribe : Subscribe) (properties : Option SubscribeProperties)
  | SubAck (suback : SubAck)
  | PubRec (pubrec : PubRec)
  | PubRel (pubrel : PubRel) (properties : Option PubRelProperties)
  | PubComp (pubcomp : PubComp)
  | Unsubscribe (unsubscribe : Unsubscribe)
  | UnsubAck (unsuback : UnsubAck)
  | Disconnect (reasonCode : DisconnectReasonCode)
  deriving DecidableEq

/-- A message in a log, with the time of its arrival. -/
structure PublishData where
  publish : Publish
  properties : Option PublishProperties
  timestamp : Instant
  deriving DecidableEq

/-- A message without properties. -/
def PublishData.plain (topic payload : Bytes) : PublishData where
  publish := Publish.new topic payload false
  properties := none
  timestamp := 0

/-- The size that counts for the segments of a log. -/
def PublishData.size (data : PublishData) : Nat :=
  4 + data.publish.topic.length + data.publish.payload.length

end SnapEmu.Broker
