import SnapEmu.Broker.Connection

/-! The router: it takes the packets of all connections, appends messages to
the logs, and forwards them to the connections that are ready for more. -/
namespace SnapEmu.Broker

open Mqtt (Str QoS)
open Semantics Exec

/-- What the router has of a connection. The source keeps the parts in tables
of their own, in which they always have the same key. -/
structure Client where
  connection : Connection
  outgoing : Outgoing
  acks : AckLog
  tracker : Tracker

structure Router where
  config : RouterConfig
  graveyard : ClientId → Option SessionState
  clients : Slab Client
  connectionMap : ClientId → Option ConnectionId
  subscriptionMap : List (FilterName × ConnectionId)
  datalog : DataLog
  readyqueue : List ConnectionId
  notifications : List Waiter
  sharedSubscriptions : List (Str × SharedGroup)
  lastWills : ClientId → Option (LastWill × Option LastWillProperties)

def maxScheduleIterations : Nat := 100

namespace Router

def new (config : RouterConfig) : Exec Empty Router :=
  DataLog.new config >>= fun datalog =>
    ok { config := config
         graveyard := fun _ => none
         clients := Slab.empty
         connectionMap := fun _ => none
         subscriptionMap := []
         datalog := datalog
         readyqueue := []
         notifications := []
         sharedSubscriptions := []
         lastWills := fun _ => none }

section Scheduler

def modifyClient (router : Router) (id : ConnectionId) (change : Client → Client) : Router :=
  { router with clients := router.clients.modify id change }

/-- The connection must be there. -/
def client (router : Router) (id : ConnectionId) : Exec Empty Client :=
  match router.clients.get? id with
  | none => panic
  | some client => ok client

def trackv (router : Router) (id : ConnectionId) (requests : List DataRequest) :
    Exec Empty Router :=
  router.client id >>= fun _ =>
    ok (router.modifyClient id fun client =>
      { client with
        tracker := { client.tracker with
          dataRequests := client.tracker.dataRequests ++ requests } })

def track (router : Router) (id : ConnectionId) (request : DataRequest) : Exec Empty Router :=
  router.client id >>= fun _ =>
    ok (router.modifyClient id fun client =>
      { client with tracker := client.tracker.registerDataRequest request })

def untrack (router : Router) (id : ConnectionId) (filter : FilterName) : Exec Empty Router :=
  router.client id >>= fun _ =>
    ok (router.modifyClient id fun client =>
      { client with tracker := client.tracker.unregisterDataRequest filter })

def reschedule (router : Router) (id : ConnectionId) (reason : ScheduleReason) :
    Exec Empty Router :=
  router.client id >>= fun client =>
    match client.tracker.tryReady reason with
    | (_, none) => ok router
    | (tracker, some _) =>
        ok { router.modifyClient id fun client => { client with tracker := tracker } with
          readyqueue := router.readyqueue ++ [id] }

/-- The connection was put back into the queue last. -/
def pause (router : Router) (id : ConnectionId) (reason : PauseReason) : Exec Empty Router :=
  if router.readyqueue.getLast? = some id then
    router.client id >>= fun _ =>
      ok { router.modifyClient id fun client =>
            { client with tracker := client.tracker.pause reason } with
        readyqueue := router.readyqueue.dropLast }
  else panic

/-- The next connection that is ready and its requests. The connection is put
back into the queue. -/
def poll (router : Router) : Router × Option (ConnectionId × List DataRequest) :=
  match router.readyqueue with
  | [] => (router, none)
  | id :: rest =>
      match router.clients.get? id with
      | none => ({ router with readyqueue := rest }, none)
      | some client =>
          ({ router.modifyClient id fun client =>
              { client with tracker := { client.tracker with dataRequests := [] } } with
            readyqueue := rest ++ [id] },
          some (id, client.tracker.dataRequests))

end Scheduler

section Connections

/-- `"+$#/".chars().any(|c| client_id.contains(c))`. -/
def validClientId (clientId : ClientId) : Bool :=
  !(clientId.any fun byte => byte = 43 || byte = 36 || byte = 35 || byte = 47)

/-- A request of a session starts again with the oldest message in flight, as
does its group. -/
def resetRequest (retransmissions : FilterIdx → Option Cursor)
    (groups : List (Str × SharedGroup)) (request : DataRequest) :
    Exec Empty (List (Str × SharedGroup) × DataRequest) :=
  match retransmissions request.filterIdx with
  | none => ok (groups, request)
  | some cursor =>
      match request.group with
      | none => ok (groups, { request with cursor := cursor })
      | some name =>
          match groups.lookup name with
          | none => panic
          | some group =>
              ok (insertKey groups name { group with cursor := cursor },
                { request with cursor := cursor })

def resetRequests (retransmissions : FilterIdx → Option Cursor) :
    List (Str × SharedGroup) → List DataRequest →
      Exec Empty (List (Str × SharedGroup) × List DataRequest)
  | groups, [] => ok (groups, [])
  | groups, request :: requests =>
      resetRequest retransmissions groups request >>= fun (groups, request) =>
        resetRequests retransmissions groups requests >>= fun (groups, requests) =>
          ok (groups, request :: requests)

def removeFromGroups (groups : List (Str × SharedGroup)) (clientId : ClientId) :
    List (Str × SharedGroup) :=
  (groups.map fun entry => (entry.1, entry.2.removeClient clientId)).filter
    fun entry => entry.2.clients ≠ []

def leaveMap (map : List (FilterName × ConnectionId)) (id : ConnectionId)
    (subscriptions : List FilterName) : List (FilterName × ConnectionId) :=
  map.filter fun entry => ¬(entry.2 = id ∧ entry.1 ∈ subscriptions)

/-- What the graveyard keeps of a connection. -/
def buried (client : Client) (inflight : List DataRequest) (groups : List (Str × SharedGroup)) :
    Exec Empty (List (Str × SharedGroup) × Option SessionState) :=
  if client.connection.clean then ok (groups, none)
  else
    resetRequests client.outgoing.retransmissionMap groups
      (client.tracker.dataRequests ++ inflight) >>= fun (groups, requests) =>
      ok (groups, some
        { tracker := { client.tracker with dataRequests := requests }.pause .Busy
          subscriptions := client.connection.subscriptions
          unackedPubrels := client.outgoing.unackedPubrels })

def handleDisconnection (router : Router) (id : ConnectionId) : Exec Empty Router :=
  match router.clients.get? id with
  | none => ok router
  | some client =>
      let clientId := client.outgoing.clientId
      let (datalog, inflight) := router.datalog.clean id
      buried client inflight (removeFromGroups router.sharedSubscriptions clientId) >>=
        fun (groups, saved) =>
          ok { router with
            clients := router.clients.remove id
            connectionMap := Function.update router.connectionMap clientId none
            datalog := datalog
            sharedSubscriptions := groups
            subscriptionMap := leaveMap router.subscriptionMap id client.connection.subscriptions
            graveyard := Function.update router.graveyard client.tracker.id saved }

/-- The parts of a new connection, with what is restored of its session. -/
def newClient (connection : Connection) (saved : Option SessionState) (id : ConnectionId) :
    Client :=
  let session := if connection.clean then none else saved
  let ack : ConnAck :=
    { sessionPresent := !connection.clean && saved.isSome
      code := .Success }
  let pendingAcks := (session.map SessionState.unackedPubrels).getD []
  let acks := AckLog.new.connack id ack (some Broker.topicAliasMax)
  let acks := pendingAcks.foldl
    (fun acks pkid => acks.pubrel { pkid := pkid, reason := .Success }) acks
  { connection :=
      { connection with
        subscriptions := (session.map SessionState.subscriptions).getD connection.subscriptions
        lastWill := none
        lastWillProperties := if connection.lastWill.isSome then none
          else connection.lastWillProperties }
    outgoing := { Outgoing.new connection.clientId with unackedPubrels := pendingAcks }
    acks := acks
    tracker := (session.map SessionState.tracker).getD (Tracker.new connection.clientId) }

def handleNewConnection (router : Router) (connection : Connection) : Exec Empty Router :=
  let clientId := connection.clientId
  if !validClientId clientId then ok router
  else
    (match router.connectionMap clientId with
      | none => ok router
      | some id => router.handleDisconnection id) >>= fun router =>
      if router.config.maxConnections ≤ router.clients.count then ok router
      else
        let id := router.clients.nextKey
        let lastWills := match connection.lastWill with
          | none => router.lastWills
          | some will =>
              Function.update router.lastWills clientId (some (will, connection.lastWillProperties))
        { router with
          graveyard := Function.update router.graveyard clientId none
          lastWills := lastWills
          clients := router.clients.insert (newClient connection (router.graveyard clientId) id)
          connectionMap := Function.update router.connectionMap clientId (some id) }.reschedule
            id .Init

end Connections

section Payload

/-- The flags of a batch of packets. -/
structure Batch where
  forceAck : Bool
  newData : Bool
  disconnect : Bool
  disconnectReason : Option DisconnectReasonCode
  deriving DecidableEq

def Batch.new : Batch := ⟨false, false, false, none⟩

/-- The router and the flags after a packet, and whether the packets behind it
are dropped. -/
abbrev Outcome := Router × Batch × Bool

def appendToCommitlog (order : IterationOrder) (now : Instant) (router : Router)
    (id : ConnectionId) (publish : Publish) (properties : Option PublishProperties) :
    Exec Empty (Except RouterError Router) :=
  router.client id >>= fun client =>
    match acceptPublish client.connection publish properties with
    | .error error => ok (.error error)
    | .ok (connection, publish, properties) =>
        router.datalog.record order router.notifications publish properties publish.topic now >>=
          fun (datalog, notifications, _) =>
            ok (.ok
              { router.modifyClient id fun client => { client with connection := connection } with
                datalog := datalog
                notifications := notifications })

def modifyAcks (router : Router) (id : ConnectionId) (change : AckLog → AckLog) : Router :=
  router.modifyClient id fun client => { client with acks := change client.acks }

def handlePublish (order : IterationOrder) (now : Instant) (router : Router) (id : ConnectionId)
    (batch : Batch) (publish : Publish) (properties : Option PublishProperties) :
    Exec Empty Outcome :=
  match publish.qos with
  | .ExactlyOnce =>
      let pubrec : PubRec := { pkid := publish.pkid, reason := .Success }
      ok (router.modifyAcks id fun acks => acks.pubrec publish properties pubrec,
        { batch with forceAck := true }, false)
  | level =>
      let acknowledged := level = .AtLeastOnce
      let puback : PubAck := { pkid := publish.pkid, reason := .Success }
      let router := if acknowledged then router.modifyAcks id fun acks => acks.puback puback
        else router
      let batch := { batch with forceAck := batch.forceAck || acknowledged }
      appendToCommitlog order now router id publish properties >>= fun
        | .ok router => ok (router, { batch with newData := true }, false)
        | .error .nonUtf8Topic => ok (router, { batch with disconnect := true }, true)
        | .error (.disconnect code) =>
            ok (router, { batch with disconnect := true, disconnectReason := some code }, true)

/-- The text behind a prefix. -/
def stripPrefix (text front : Str) : Option Str :=
  if text.take front.length = front then some (text.drop front.length) else none

def extractGroup (filter : Str) : Option (Str × Str) :=
  (stripPrefix filter (Text.ascii "$share/")).bind fun rest => Text.splitOnce [47] rest

/-- A filter of the broker's own topics that is not shared. -/
def invalidFilter (path : Str) : Bool :=
  path.head? = some 36 && (stripPrefix path (Text.ascii "$share")).isNone

def addToGroup (router : Router) (name : Str) (clientId : ClientId) (cursor : Cursor) :
    List (Str × SharedGroup) :=
  let group := (router.sharedSubscriptions.lookup name).getD
    (SharedGroup.new cursor router.config.sharedSubscriptionsStrategy)
  insertKey router.sharedSubscriptions name (group.addClient clientId)

/-- The connection with a subscription. -/
def subscribed (path : FilterName) (subscriptionId : Option Nat) (client : Client) : Client :=
  { client with
    connection :=
      { client.connection with
        subscriptions :=
          if path ∈ client.connection.subscriptions then client.connection.subscriptions
          else client.connection.subscriptions ++ [path]
        subscriptionIds := match subscriptionId with
          | none => client.connection.subscriptionIds
          | some subscriptionId =>
              Function.update client.connection.subscriptionIds path (some subscriptionId) } }

/-- A new subscription gets a request. -/
def prepareFilter (router : Router) (id : ConnectionId) (cursor : Offset) (filterIdx : FilterIdx)
    (filter : Filter) (group : Option Str) (subscriptionId : Option Nat) : Exec Empty Router :=
  router.client id >>= fun client =>
    let path := filter.path
    let router :=
      { router.modifyClient id (subscribed path subscriptionId) with
        subscriptionMap :=
          if (path, id) ∈ router.subscriptionMap then router.subscriptionMap
          else router.subscriptionMap ++ [(path, id)]
        sharedSubscriptions := match group with
          | none => router.sharedSubscriptions
          | some name => router.addToGroup name client.connection.clientId cursor }
    if path ∈ client.connection.subscriptions then ok router
    else
      let request : DataRequest :=
        { filter := path
          filterIdx := filterIdx
          qos := qosNumber filter.qos
          cursor := cursor
          readCount := 0
          forwardRetained := group.isNone
          group := group }
      router.track id request >>= fun router => router.reschedule id .NewFilter

def returnCode : QoS → SubscribeReasonCode
  | .AtMostOnce => .QoS0
  | .AtLeastOnce => .QoS1
  | .ExactlyOnce => .QoS2

/-- The filters of a subscription, up to the first that is refused. -/
def subscribeFilters (id : ConnectionId) (subscriptionId : Option Nat) :
    List Filter → Router → Batch → List SubscribeReasonCode →
      Exec Empty (Router × Batch × List SubscribeReasonCode)
  | [], router, batch, codes => ok (router, batch, codes)
  | filter :: filters, router, batch, codes =>
      if invalidFilter filter.path then ok (router, { batch with disconnect := true }, codes)
      else if subscriptionId = some 0 then
        ok (router,
          { batch with disconnect := true, disconnectReason := some .ProtocolError }, codes)
      else
        let (group, path) := match extractGroup filter.path with
          | some (group, path) => (some group, path)
          | none => (none, filter.path)
        router.datalog.nextNativeOffset path >>= fun (datalog, filterIdx, cursor) =>
          { router with datalog := datalog }.prepareFilter id cursor filterIdx filter group
              subscriptionId >>= fun router =>
            subscribeFilters id subscriptionId filters router batch
              (codes ++ [returnCode filter.qos])

def handleSubscribe (router : Router) (id : ConnectionId) (batch : Batch) (subscribe : Subscribe)
    (properties : Option SubscribeProperties) : Exec Empty Outcome :=
  subscribeFilters id (properties.bind SubscribeProperties.id) subscribe.filters router batch [] >>=
    fun (router, batch, codes) =>
      let suback : SubAck := { pkid := subscribe.pkid, returnCodes := codes }
      ok (router.modifyAcks id fun acks => acks.suback suback, { batch with forceAck := true },
        false)

/-- The connection without a subscription. -/
def unsubscribed (filter : FilterName) (pkid : UInt16) (client : Client) : Client :=
  let unsuback : UnsubAck := { pkid := pkid, reasons := [.Success] }
  { client with
    connection :=
      { client.connection with
        subscriptions := client.connection.subscriptions.filter (· ≠ filter)
        brokerTopicAliases := client.connection.brokerTopicAliases.map (·.removeAlias filter)
        subscriptionIds := Function.update client.connection.subscriptionIds filter none }
    acks := client.acks.unsuback unsuback }

/-- A filter is given up, if the connection is known to have it. -/
def unsubscribeFilter (router : Router) (id : ConnectionId) (batch : Batch) (pkid : UInt16)
    (filter : Str) : Exec Empty (Router × Batch) :=
  router.client id >>= fun client =>
    if (filter, id) ∉ router.subscriptionMap then ok (router, batch)
    else
      let router :=
        { router with subscriptionMap := router.subscriptionMap.filter (· ≠ (filter, id)) }
      if filter ∉ client.connection.subscriptions then ok (router, batch)
      else
        let router :=
          { router.modifyClient id (unsubscribed filter pkid) with
            sharedSubscriptions :=
              removeFromGroups router.sharedSubscriptions client.outgoing.clientId }
        router.untrack id filter >>= fun router =>
          router.datalog.removeWaitersForId id filter >>= fun datalog =>
            ok ({ router with datalog := datalog }, { batch with forceAck := true })

def unsubscribeFilters (id : ConnectionId) (pkid : UInt16) :
    List Str → Router → Batch → Exec Empty (Router × Batch)
  | [], router, batch => ok (router, batch)
  | filter :: filters, router, batch =>
      router.unsubscribeFilter id batch pkid filter >>= fun (router, batch) =>
        unsubscribeFilters id pkid filters router batch

/-- The oldest message in flight is acknowledged, and an acknowledgement of
another one ends the connection. -/
def takeAck (router : Router) (id : ConnectionId) (batch : Batch) (pkid : UInt16)
    (change : Client → Client) : Exec Empty Outcome :=
  router.client id >>= fun client =>
    let (outgoing, acknowledged) := client.outgoing.registerAck pkid
    let router := router.modifyClient id fun client => { client with outgoing := outgoing }
    match acknowledged with
    | none => ok (router, { batch with disconnect := true }, true)
    | some () =>
        (router.modifyClient id change).reschedule id .IncomingAck >>= fun router =>
          ok (router, batch, false)

def handlePubAck (router : Router) (id : ConnectionId) (batch : Batch) (puback : PubAck) :
    Exec Empty Outcome :=
  router.takeAck id batch puback.pkid fun client => client

def handlePubRec (router : Router) (id : ConnectionId) (batch : Batch) (pubrec : PubRec) :
    Exec Empty Outcome :=
  router.takeAck id batch pubrec.pkid fun client =>
    { client with
      outgoing := client.outgoing.registerPubrec pubrec.pkid
      acks := client.acks.pubrel { pkid := pubrec.pkid, reason := .Success } }

/-- The oldest message of quality of service 2 is released, whichever the
packet names. -/
def handlePubRel (order : IterationOrder) (now : Instant) (router : Router) (id : ConnectionId)
    (batch : Batch) (pubrel : PubRel) : Exec Empty Outcome :=
  router.client id >>= fun client =>
    let (acks, released) := client.acks.pubcomp { pkid := pubrel.pkid, reason := .Success }
    let router := router.modifyAcks id fun _ => acks
    match released with
    | none => ok (router, { batch with disconnect := true }, true)
    | some (publish, properties) =>
        appendToCommitlog order now router id publish properties >>= fun
          | .error _ => ok (router, { batch with disconnect := true }, true)
          | .ok router =>
              router.reschedule id .IncomingAck >>= fun router =>
                ok (router, { batch with newData := true }, false)

def handlePubComp (router : Router) (id : ConnectionId) (batch : Batch) (pubcomp : PubComp) :
    Exec Empty Outcome :=
  router.client id >>= fun client =>
    let (outgoing, completed) := client.outgoing.registerPubcomp pubcomp.pkid
    let router := router.modifyClient id fun client => { client with outgoing := outgoing }
    match completed with
    | none => ok (router, { batch with disconnect := true }, true)
    | some () => ok (router, batch, false)

def handlePacket (order : IterationOrder) (now : Instant) (id : ConnectionId) (router : Router)
    (batch : Batch) : Packet → Exec Empty Outcome
  | .Publish publish properties => router.handlePublish order now id batch publish properties
  | .Subscribe subscribe properties => router.handleSubscribe id batch subscribe properties
  | .Unsubscribe unsubscribe =>
      unsubscribeFilters id unsubscribe.pkid unsubscribe.filters router batch >>=
        fun (router, batch) => ok (router, batch, false)
  | .PubAck puback => router.handlePubAck id batch puback
  | .PubRec pubrec => router.handlePubRec id batch pubrec
  | .PubRel pubrel none => router.handlePubRel order now id batch pubrel
  | .PubComp pubcomp => router.handlePubComp id batch pubcomp
  | .PingReq =>
      ok (router.modifyAcks id AckLog.pingresp, { batch with forceAck := true }, false)
  | .Disconnect _ =>
      router.client id >>= fun client =>
        ok ({ router with
            lastWills := Function.update router.lastWills client.outgoing.clientId none },
          { batch with disconnect := true }, true)
  | _ => ok (router, batch, false)

def handlePackets (order : IterationOrder) (now : Instant) (id : ConnectionId) :
    List Packet → Router → Batch → Exec Empty (Router × Batch)
  | [], router, batch => ok (router, batch)
  | packet :: packets, router, batch =>
      handlePacket order now id router batch packet >>= fun (router, batch, stop) =>
        if stop then ok (router, batch) else handlePackets order now id packets router batch

/-- The connections that wait for new messages go on. -/
def wake : List Waiter → Router → Exec Empty Router
  | [], router => ok router
  | (id, request) :: waiters, router =>
      router.track id request >>= fun router =>
        router.reschedule id .FreshData >>= fun router => wake waiters router

def wakeAll (router : Router) : Exec Empty Router :=
  wake router.notifications { router with notifications := [] }

def handleDevicePayload (order : IterationOrder) (now : Instant) (router : Router)
    (id : ConnectionId) (packets : List Packet) : Exec Empty Router :=
  match router.clients.get? id with
  | none => ok router
  | some _ =>
      handlePackets order now id packets router Batch.new >>= fun (router, batch) =>
        (if batch.forceAck then router.reschedule id .FreshData else ok router) >>= fun router =>
          (if batch.newData then router.wakeAll else ok router) >>= fun router =>
            if batch.disconnect then router.handleDisconnection id else ok router

/-- The message of a will, and its properties. -/
def willMessage (will : LastWill) (properties : Option LastWillProperties) :
    Publish × Option PublishProperties :=
  ({ dup := false
     qos := will.qos
     pkid := 0
     retain := will.retain
     topic := will.topic
     payload := will.message },
    properties.map fun properties =>
      { PublishProperties.default with
        payloadFormatIndicator := properties.payloadFormatIndicator
        messageExpiryInterval := properties.messageExpiryInterval
        responseTopic := properties.responseTopic
        correlationData := properties.correlationData
        userProperties := properties.userProperties
        contentType := properties.contentType })

def handleLastWill (order : IterationOrder) (now : Instant) (router : Router)
    (clientId : ClientId) : Exec Empty Router :=
  match router.lastWills clientId with
  | none => ok router
  | some (will, properties) =>
      let router := { router with lastWills := Function.update router.lastWills clientId none }
      let (publish, properties) := willMessage will properties
      if Text.isUtf8 publish.topic then
        router.datalog.record order router.notifications publish properties publish.topic now >>=
          fun (datalog, notifications, _) =>
            { router with datalog := datalog, notifications := notifications }.wakeAll
      else ok router

end Payload

section Consume

/-- All acknowledgements go out, however many there are. -/
def ackDeviceData (router : Router) (id : ConnectionId) : Router :=
  router.modifyClient id fun client =>
    { client with
      outgoing :=
        { client.outgoing with
          dataBuffer := client.outgoing.dataBuffer ++
            client.acks.committed.map Notification.DeviceAck }
      acks := { client.acks with committed := [] } }

/-- The sweep for one request. -/
def forward (order : IterationOrder) (now : Instant) (draw : Nat) (router : Router)
    (id : ConnectionId) (request : DataRequest) :
    Exec Empty (ConsumeStatus × DataRequest × Router) :=
  router.client id >>= fun client =>
    let sharedGroup := request.group.bind fun name => router.sharedSubscriptions.lookup name
    forwardDeviceData order now draw request router.datalog client.outgoing client.connection
        sharedGroup >>= fun forwarded =>
      ok (forwarded.status, forwarded.request,
        { router.modifyClient id fun client =>
            { client with outgoing := forwarded.outgoing, connection := forwarded.connection } with
          datalog := forwarded.datalog
          sharedSubscriptions := match request.group, forwarded.sharedGroup with
            | some name, some group => insertKey router.sharedSubscriptions name group
            | _, _ => router.sharedSubscriptions })

/-- The loop over the requests of a connection, and those it skipped. -/
def consumeRequests (order : IterationOrder) (now : Instant) (draw : Nat) (id : ConnectionId) :
    Nat → Router → List DataRequest → List DataRequest → Exec Empty Router
  | 0, router, requests, skipped => router.trackv id (requests ++ skipped)
  | _ + 1, router, [], skipped =>
      (if skipped = [] then router.pause id .Caughtup else ok router) >>= fun router =>
        router.trackv id skipped
  | iterations + 1, router, request :: requests, skipped =>
      router.forward order now draw id request >>= fun
        | (.BufferFull, request, router) =>
            router.pause id .Busy >>= fun router =>
              router.trackv id (requests ++ [request] ++ skipped)
        | (.InflightFull, request, router) =>
            router.pause id .InflightFull >>= fun router =>
              router.trackv id (requests ++ [request] ++ skipped)
        | (.FilterCaughtup, request, router) =>
            router.datalog.park id request >>= fun datalog =>
              consumeRequests order now draw id iterations { router with datalog := datalog }
                requests skipped
        | (.PartialRead, request, router) =>
            consumeRequests order now draw id iterations router (requests ++ [request]) skipped
        | (.SkipRequest, request, router) =>
            consumeRequests order now draw id iterations router requests (skipped ++ [request])

def consume (order : IterationOrder) (now : Instant) (draw : Nat) (router : Router) :
    Exec Empty Router :=
  match router.poll with
  | (router, none) => ok router
  | (router, some (id, requests)) =>
      consumeRequests order now draw id maxScheduleIterations (router.ackDeviceData id) requests []

end Consume

/-- What the router gets to do: events, and turns of the connections in the
queue. A link takes what has gone out to it. -/
inductive Input where
  | connect (builder : LinkBuilder)
  | deviceData (id : ConnectionId) (packets : List Packet)
  | disconnect (id : ConnectionId)
  | ready (id : ConnectionId)
  | shadow (id : ConnectionId) (filter : FilterName)
  | publishWill (clientId : ClientId)
  | printConnection (clientId : ClientId)
  | consume (draw : Nat)
  | exchange (id : ConnectionId)

def retrieveShadow (router : Router) (id : ConnectionId) (filter : FilterName) :
    Exec Empty Router :=
  router.client id >>= fun client =>
    match router.datalog.shadow filter with
    | none => ok router
    | some (publish, _) =>
        let reply := Notification.Shadow { topic := publish.topic, payload := publish.payload }
        let (outgoing, len) := client.outgoing.pushNotification reply
        let outgoing := if maxChannelCapacity - 1 ≤ len then
            (outgoing.pushNotification .Unschedule).1
          else outgoing
        ok (router.modifyClient id fun client => { client with outgoing := outgoing })

/-- Printing the state of a connection that is gone takes it out of the
graveyard. -/
def printConnection (router : Router) (clientId : ClientId) : Router :=
  match router.connectionMap clientId with
  | some _ => router
  | none => { router with graveyard := Function.update router.graveyard clientId none }

def step (order : IterationOrder) (router : Router) (input : Instant × Input) :
    Exec Empty Router :=
  match input.2 with
  | .connect builder => router.handleNewConnection builder.connection
  | .deviceData id packets => router.handleDevicePayload order input.1 id packets
  | .disconnect id => router.handleDisconnection id
  | .ready id => router.reschedule id .Ready
  | .shadow id filter => router.retrieveShadow id filter
  | .publishWill clientId => router.handleLastWill order input.1 clientId
  | .printConnection clientId => ok (router.printConnection clientId)
  | .consume draw => router.consume order input.1 draw
  | .exchange id =>
      ok (router.modifyClient id fun client =>
        { client with outgoing := { client.outgoing with dataBuffer := [] } })

end Router
end SnapEmu.Broker
