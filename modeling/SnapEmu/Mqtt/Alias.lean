import SnapEmu.Mqtt.Network
import SnapEmu.Semantics.Run
import Mathlib.Logic.Function.Basic

/-! Topic aliases of a connection: the router looks at the topic of a packet
after the text of the user has been put in front of it. -/
namespace SnapEmu.Mqtt

open Device Semantics Exec Text Network

inductive DisconnectReasonCode where
  | MalformedPacket | ProtocolError | TopicAliasInvalid
  deriving DecidableEq

inductive RouterError where
  | nonUtf8Topic
  | disconnect (code : DisconnectReasonCode)
  deriving DecidableEq

/-- The topics by their aliases. -/
abbrev Aliases := UInt16 → Option Str

/-- A message and what goes with it. -/
abbrev Message := Publish × Option PublishProperties

def topicAliasMax : UInt16 := 4096

def validateAndSetTopicAlias (publish : Publish) (topicAliases : Aliases) (topicAlias : UInt16) :
    Except RouterError (Publish × Aliases) :=
  if topicAlias = 0 ∨ topicAliasMax < topicAlias then .error (.disconnect .TopicAliasInvalid)
  else if publish.topic = [] then
    match topicAliases topicAlias with
    | none => .error (.disconnect .ProtocolError)
    | some aliasTopic => .ok ({ publish with topic := aliasTopic }, topicAliases)
  else if isUtf8 publish.topic then
    .ok (publish, Function.update topicAliases topicAlias (some publish.topic))
  else .error .nonUtf8Topic

def hasSubscriptionIdentifiers (properties : Option PublishProperties) : Bool :=
  properties.any fun properties => !properties.subscriptionIdentifiers.isEmpty

/-- The aliases after a message, and what the logs of the filters that match
its topic receive. -/
def appendToCommitlog (topicAliases : Aliases) (publish : Publish)
    (properties : Option PublishProperties) : Except RouterError (Aliases × Message) :=
  let topicAlias := properties.bind PublishProperties.topicAlias
  let properties := properties.map fun properties => { properties with topicAlias := none }
  if hasSubscriptionIdentifiers properties then .error (.disconnect .MalformedPacket)
  else do
    let (publish, topicAliases) ← match topicAlias with
      | some topicAlias => validateAndSetTopicAlias publish topicAliases topicAlias
      | none => .ok (publish, topicAliases)
    if isUtf8 publish.topic then .ok (topicAliases, { publish with retain := false }, properties)
    else .error .nonUtf8Topic

/-- A connection: its aliases, messages that wait for their release, and the
messages appended so far. -/
structure Session where
  connected : Bool
  topicAliases : Aliases
  recorded : List Message
  appended : List Message

def Session.new : Session :=
  { connected := true, topicAliases := fun _ => none, recorded := [], appended := [] }

namespace Session

def disconnect (session : Session) : Session := { session with connected := false }

def append (session : Session) (publish : Publish) (properties : Option PublishProperties) :
    Session :=
  match appendToCommitlog session.topicAliases publish properties with
  | .error _ => session.disconnect
  | .ok (topicAliases, message) =>
      { session with topicAliases := topicAliases, appended := session.appended ++ [message] }

def handleDevicePayload (session : Session) : Packet → Session
  | .Publish publish properties =>
      match publish.qos with
      | .ExactlyOnce => { session with recorded := session.recorded ++ [(publish, properties)] }
      | .AtMostOnce => session.append publish properties
      | .AtLeastOnce => session.append publish properties
  | .PubRel _ =>
      match session.recorded with
      | [] => session.disconnect
      | (publish, properties) :: recorded =>
          { session with recorded := recorded }.append publish properties
  | _ => session

def step (network : Network) (session : Session) (packet : Packet) : Session :=
  if session.connected then
    match network.packTopic packet with
    | .ok packet => session.handleDevicePayload packet
    | _ => session.disconnect
  else session

end Session

/-- What the packets of a client mean: aliases of the topics as the client
names them, messages with the topics they name at the time they are sent. -/
structure Expected where
  connected : Bool
  bound : Aliases
  recorded : List (Except RouterError Message)
  appended : List Message

def Expected.new : Expected :=
  { connected := true, bound := fun _ => none, recorded := [], appended := [] }

/-- The message under the topic of the user. -/
def deliver (network : Network) (bound : Aliases) (publish : Publish)
    (properties : Option PublishProperties) (topic : Str) :
    Except RouterError (Aliases × Message) :=
  if isUtf8 (network.topicPrefix ++ topic) then
    .ok (bound, { publish with topic := network.topicPrefix ++ topic, retain := false },
      properties.map fun properties => { properties with topicAlias := none })
  else .error .nonUtf8Topic

/-- A message names its own topic if that is not empty, and otherwise the topic
bound to its alias. -/
def named (network : Network) (bound : Aliases) (publish : Publish)
    (properties : Option PublishProperties) : Except RouterError (Aliases × Message) :=
  if hasSubscriptionIdentifiers properties then .error (.disconnect .MalformedPacket)
  else match properties.bind PublishProperties.topicAlias with
    | none => deliver network bound publish properties publish.topic
    | some topicAlias =>
        if topicAlias = 0 ∨ topicAliasMax < topicAlias then .error (.disconnect .TopicAliasInvalid)
        else if publish.topic = [] then
          match bound topicAlias with
          | none => .error (.disconnect .ProtocolError)
          | some topic => deliver network bound publish properties topic
        else
          deliver network (Function.update bound topicAlias (some publish.topic)) publish properties
            publish.topic

namespace Expected

def disconnect (expected : Expected) : Expected := { expected with connected := false }

def append (expected : Expected) : Except RouterError Message → Expected
  | .error _ => expected.disconnect
  | .ok message => { expected with appended := expected.appended ++ [message] }

def bind (expected : Expected) : Except RouterError (Aliases × Message) → Expected
  | .error _ => expected
  | .ok (bound, _) => { expected with bound := bound }

def step (network : Network) (expected : Expected) (packet : Packet) : Expected :=
  if expected.connected then
    match packet with
    | .Publish publish properties =>
        let message := named network expected.bound publish properties
        let expected := expected.bind message
        match publish.qos with
        | .ExactlyOnce =>
            { expected with recorded := expected.recorded ++ [message.map Prod.snd] }
        | .AtMostOnce => expected.append (message.map Prod.snd)
        | .AtLeastOnce => expected.append (message.map Prod.snd)
    | .PubRel _ =>
        match expected.recorded with
        | [] => expected.disconnect
        | message :: recorded => { expected with recorded := recorded }.append message
    | .Subscribe subscribe =>
        if subscribe.filters.all fun filter => filter.path.head? = some 47 then expected
        else expected.disconnect
    | _ => expected
  else expected

end Expected
end SnapEmu.Mqtt
