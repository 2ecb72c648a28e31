import SnapEmu.Broker.Scheduler
import SnapEmu.Semantics.Slab

/-! Connections with the topic aliases the broker uses towards their clients,
what is kept of a session after its connection is gone, and
the forwarding of messages to a connection. -/
namespace SnapEmu.Broker

open Mqtt (Str)
open Semantics Exec

/-- The alias of each filter that has one, and the numbers in use. -/
structure BrokerAliases where
  brokerTopicAliases : FilterName → Option UInt16
  usedAliases : Slab Unit
  topicAliasMax : UInt16

namespace BrokerAliases

/-- Number 0 is taken, as it is not a valid alias. -/
def new (topicAliasMax : UInt16) : BrokerAliases where
  brokerTopicAliases := fun _ => none
  usedAliases := Slab.empty.insert ()
  topicAliasMax := topicAliasMax

def removeAlias (aliases : BrokerAliases) (topic : FilterName) : BrokerAliases :=
  match aliases.brokerTopicAliases topic with
  | none => aliases
  | some topicAlias =>
      { aliases with
        brokerTopicAliases := Function.update aliases.brokerTopicAliases topic none
        usedAliases := aliases.usedAliases.remove topicAlias.toNat }

def getAlias (aliases : BrokerAliases) (topic : FilterName) : Option UInt16 :=
  aliases.brokerTopicAliases topic

def setNewAlias (aliases : BrokerAliases) (topic : FilterName) : BrokerAliases × Option UInt16 :=
  let aliasToUse := aliases.usedAliases.nextKey
  let used := aliases.usedAliases.insert ()
  if aliases.topicAliasMax.toNat < aliasToUse then
    ({ aliases with usedAliases := used.remove aliasToUse }, none)
  else
    ({ aliases with
        brokerTopicAliases :=
          Function.update aliases.brokerTopicAliases topic (some (UInt16.ofNat aliasToUse))
        usedAliases := used },
      some (UInt16.ofNat aliasToUse))

end BrokerAliases

structure Connection where
  clientId : ClientId
  dynamicFilters : Bool
  clean : Bool
  subscriptions : List FilterName
  lastWill : Option LastWill
  lastWillProperties : Option LastWillProperties
  topicAliases : UInt16 → Option Topic
  brokerTopicAliases : Option BrokerAliases
  subscriptionIds : FilterName → Option Nat

def topicAliasMax : UInt16 := 4096

/-- What a link says about its client. -/
structure LinkBuilder where
  clientId : ClientId
  cleanSession : Bool
  lastWill : Option LastWill
  lastWillProperties : Option LastWillProperties
  dynamicFilters : Bool
  topicAliasMax : UInt16

/-- `Connection::new`, with the will and the limit for aliases. -/
def LinkBuilder.connection (builder : LinkBuilder) : Connection where
  clientId := builder.clientId
  dynamicFilters := builder.dynamicFilters
  clean := builder.cleanSession
  subscriptions := []
  lastWill := builder.lastWill
  lastWillProperties := builder.lastWillProperties
  topicAliases := fun _ => none
  brokerTopicAliases :=
    if 0 < builder.topicAliasMax then some (BrokerAliases.new builder.topicAliasMax) else none
  subscriptionIds := fun _ => none

structure SharedGroup where
  clients : List ClientId
  currentClientIndex : Nat
  cursor : Cursor
  strategy : Strategy
  deriving DecidableEq

namespace SharedGroup

def new (cursor : Cursor) (strategy : Strategy) : SharedGroup where
  clients := []
  currentClientIndex := 0
  cursor := cursor
  strategy := strategy

def currentClient (group : SharedGroup) : Option ClientId :=
  group.clients[group.currentClientIndex]?

def addClient (group : SharedGroup) (client : ClientId) : SharedGroup :=
  { group with clients := group.clients ++ [client] }

def removeClient (group : SharedGroup) (client : ClientId) : SharedGroup :=
  let clients := group.clients.filter (· ≠ client)
  { group with
    clients := clients
    currentClientIndex :=
      if clients = [] then group.currentClientIndex
      else group.currentClientIndex % clients.length }

/-- The next client; `draw` is the number drawn for a random one. -/
def updateNextClient (group : SharedGroup) (draw : Nat) : Exec Empty SharedGroup :=
  match group.strategy with
  | .RoundRobin =>
      if group.clients = [] then panic
      else ok { group with
        currentClientIndex := (group.currentClientIndex + 1) % group.clients.length }
  | .Random =>
      if group.clients = [] then panic
      else ok { group with currentClientIndex := draw % group.clients.length }
  | .Sticky => ok group

end SharedGroup

inductive RouterError where
  | nonUtf8Topic
  | disconnect (code : DisconnectReasonCode)
  deriving DecidableEq

def validateAndSetTopicAlias (publish : Publish) (connection : Connection) (topicAlias : UInt16) :
    Except RouterError (Publish × Connection) :=
  if topicAlias = 0 ∨ topicAliasMax < topicAlias then .error (.disconnect .TopicAliasInvalid)
  else if publish.topic = [] then
    match connection.topicAliases topicAlias with
    | none => .error (.disconnect .ProtocolError)
    | some aliasTopic => .ok ({ publish with topic := aliasTopic }, connection)
  else if Text.isUtf8 publish.topic then
    .ok (publish,
      { connection with
        topicAliases := Function.update connection.topicAliases topicAlias (some publish.topic) })
  else .error .nonUtf8Topic

/-- The message and its properties as they are appended, and the connection
with the alias the message sets. -/
def acceptPublish (connection : Connection) (publish : Publish)
    (properties : Option PublishProperties) :
    Except RouterError (Connection × Publish × Option PublishProperties) :=
  let topicAlias := properties.bind PublishProperties.topicAlias
  let properties := properties.map fun properties => { properties with topicAlias := none }
  if properties.any fun properties => properties.subscriptionIdentifiers ≠ [] then
    .error (.disconnect .MalformedPacket)
  else do
    let (publish, connection) ← match topicAlias with
      | some topicAlias => validateAndSetTopicAlias publish connection topicAlias
      | none => .ok (publish, connection)
    if Text.isUtf8 publish.topic then .ok (connection, publish, properties)
    else .error .nonUtf8Topic

/-- What is left of a session. -/
structure SessionState where
  tracker : Tracker
  subscriptions : List FilterName
  unackedPubrels : List UInt16
  deriving DecidableEq

inductive ConsumeStatus where
  | BufferFull | InflightFull | FilterCaughtup | PartialRead | SkipRequest
  deriving DecidableEq

/-- The outcome of a sweep for one request. -/
structure Forwarded where
  status : ConsumeStatus
  request : DataRequest
  datalog : DataLog
  outgoing : Outgoing
  connection : Connection
  sharedGroup : Option SharedGroup

/-- The alias for the messages of a filter, whether it is known to the client,
and the connection with a new alias. -/
def aliasFor (connection : Connection) (filter : FilterName) :
    Option UInt16 × Bool × Connection :=
  match connection.brokerTopicAliases with
  | none => (none, false, connection)
  | some aliases =>
      match aliases.getAlias filter with
      | some topicAlias => (some topicAlias, true, connection)
      | none =>
          let (aliases, topicAlias) := aliases.setNewAlias filter
          (topicAlias, false, { connection with brokerTopicAliases := some aliases })

/-- A message as it goes out. -/
def forwardOf (level : Mqtt.QoS) (topicAlias : Option UInt16) (aliasKnown : Bool)
    (subscriptionId : Option Nat) (entry : PubWithProp × Option Offset) : Forward :=
  let ((publish, properties), offset) := entry
  let properties := match topicAlias with
    | none => properties
    | some topicAlias =>
        some { properties.getD PublishProperties.default with topicAlias := some topicAlias }
  let properties := match subscriptionId with
    | none => properties
    | some subscriptionId =>
        let properties := properties.getD PublishProperties.default
        some
          { properties with
            subscriptionIdentifiers := properties.subscriptionIdentifiers ++ [subscriptionId] }
  { cursor := offset
    publish :=
      { publish with qos := level, topic := if aliasKnown then [] else publish.topic }
    properties := properties }

/-- The number of messages a sweep may forward, or none if the client has to
acknowledge first. -/
def inflightSlots (request : DataRequest) (datalog : DataLog) (outgoing : Outgoing)
    (sharedGroup : Option SharedGroup) : Exec Empty (Option Nat) :=
  (if request.qos ≠ 0 then
    outgoing.freeSlots >>= fun len => ok (if len = 0 then none else some len)
  else ok (some datalog.config.maxOutgoingPacketCount)) >>= fun slots =>
    ok (slots.map fun slots =>
      if sharedGroup.any fun group => group.strategy = .RoundRobin then 1 else slots)

/-- The retained messages that go out with the first sweep. -/
def readRetained (order : IterationOrder) (now : Instant) (request : DataRequest)
    (datalog : DataLog) (slots : Nat) : Exec Empty (DataLog × List PubWithProp) :=
  if request.forwardRetained then
    datalog.readRetainedMessages order request.filter now >>= fun result =>
      ok (result.1, result.2.take slots)
  else ok (datalog, [])

/-- The messages of a sweep go out, and the request goes on behind them. -/
def pushPublishes (draw : Nat) (request : DataRequest) (datalog : DataLog) (outgoing : Outgoing)
    (connection : Connection) (sharedGroup : Option SharedGroup) (caughtup : Bool)
    (publishes : List (PubWithProp × Option Offset)) : Exec Empty Forwarded :=
  match qos request.qos with
  | none => panic
  | some level =>
      let (topicAlias, aliasKnown, connection) := aliasFor connection request.filter
      let subscriptionId := connection.subscriptionIds request.filter
      let forwards := publishes.map (forwardOf level topicAlias aliasKnown subscriptionId)
      let (outgoing, len, _) := outgoing.pushForwards forwards request.qos request.filterIdx
      if maxChannelCapacity - 1 ≤ len then
        ok
          { status := .BufferFull
            request := request
            datalog := datalog
            outgoing := (outgoing.pushNotification .Unschedule).1
            connection := connection
            sharedGroup := sharedGroup }
      else
        (match sharedGroup with
          | none => ok none
          | some group => group.updateNextClient draw >>= fun group =>
              ok (some { group with cursor := request.cursor })) >>= fun sharedGroup =>
          ok
            { status := if caughtup then .FilterCaughtup else .PartialRead
              request := request
              datalog := datalog
              outgoing := outgoing
              connection := connection
              sharedGroup := sharedGroup }

def forwardDeviceData (order : IterationOrder) (now : Instant) (draw : Nat)
    (request : DataRequest) (datalog : DataLog) (outgoing : Outgoing) (connection : Connection)
    (sharedGroup : Option SharedGroup) : Exec Empty Forwarded :=
  let request := match sharedGroup with
    | none => request
    | some group => { request with cursor := group.cursor }
  inflightSlots request datalog outgoing sharedGroup >>= fun
    | none => ok ⟨.InflightFull, request, datalog, outgoing, connection, sharedGroup⟩
    | some slots =>
        readRetained order now request datalog slots >>= fun (datalog, retained) =>
          let request := { request with forwardRetained := false }
          datalog.nativeReadv request.filterIdx request.cursor (slots - retained.length) now >>=
            fun (position, read) =>
              let caughtup := position.caughtUp
              if sharedGroup.any fun group => some outgoing.clientId ≠ group.currentClient then
                ok
                  { status := if caughtup then .FilterCaughtup else .SkipRequest
                    request := request
                    datalog := datalog
                    outgoing := outgoing
                    connection := connection
                    sharedGroup := sharedGroup }
              else
                let publishes := retained.map (fun publish => (publish, none)) ++
                  read.map fun entry => (entry.1, some entry.2)
                let request :=
                  { request with
                    readCount := request.readCount + publishes.length
                    cursor := position.stop }
                if publishes = [] then
                  ok ⟨.FilterCaughtup, request, datalog, outgoing, connection, sharedGroup⟩
                else
                  pushPublishes draw request datalog outgoing connection sharedGroup caughtup
                    publishes

end SnapEmu.Broker
