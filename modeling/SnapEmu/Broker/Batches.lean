import SnapEmu.Broker.Handling

/-! The packets a connection sends in one batch. Each leaves the subscriptions
with their requests, and a connection that is flagged goes at the end. -/
namespace SnapEmu.Broker

open Mqtt (Str QoS)
open Semantics Exec

/-- The connection that is flagged, if any. -/
def Router.Batch.spared (batch : Router.Batch) (id : ConnectionId) : Option ConnectionId :=
  if batch.disconnect then some id else none

/-- What holds between the packets of a batch. -/
structure Handled (tidy : Prop) (owed : List ConnectionId) (id : ConnectionId) (router : Router)
    (batch : Router.Batch) : Prop where
  inv : router.Inv tidy owed [] (batch.spared id)
  there : ∃ client, router.clients.get? id = some client
  fresh : batch.newData = false → router.notifications = []

namespace Handled

open Router

variable {tidy : Prop} {owed : List ConnectionId} {id : ConnectionId} {router router' : Router}
  {batch batch' : Batch} {client client' : Client}

/-- The flags for acknowledgements and the reason to disconnect are not looked at. -/
theorem congr (h : Handled tidy owed id router batch)
    (hDisconnect : batch'.disconnect = batch.disconnect)
    (hNewData : batch'.newData = batch.newData) : Handled tidy owed id router batch' := by
  refine ⟨?_, h.there, fun hFresh => h.fresh (hNewData ▸ hFresh)⟩
  rw [Batch.spared, hDisconnect]
  exact h.inv

/-- A batch that is to be disconnected has handled the same packets. -/
theorem flag (h : Handled tidy owed id router batch) (code : Option DisconnectReasonCode) :
    Handled tidy owed id router { batch with disconnect := true, disconnectReason := code } := by
  refine ⟨h.inv.spare ?_, h.there, h.fresh⟩
  rw [Batch.spared]
  split_ifs
  · exact .inr rfl
  · exact .inl rfl

/-- A change of the connection that leaves what it asks for. -/
theorem modifyClient (h : Handled tidy owed id router batch)
    (hClient : router.clients.get? id = some client) (change : Client → Client)
    (hTouched : client.Touched (change client))
    (hStatus : (change client).tracker.status = client.tracker.status) :
    Handled tidy owed id (router.modifyClient id change) batch := by
  obtain ⟨hInv, hChanged⟩ := h.inv.modifyClient hClient hTouched hStatus
  exact ⟨hInv, ⟨_, hChanged⟩, h.fresh⟩

/-- A change of one client that keeps its status keeps what has been handled. -/
theorem touch (h : Handled tidy owed id router batch) (change : Client → Client)
    (hTouched : ∀ client : Client, client.Touched (change client))
    (hStatus : ∀ client, (change client).tracker.status = client.tracker.status) :
    Handled tidy owed id (router.modifyClient id change) batch := by
  obtain ⟨client, hClient⟩ := h.there
  exact h.modifyClient hClient change (hTouched client) (hStatus client)

/-- An acknowledgement that is not to be recorded. -/
theorem modifyAcks (h : Handled tidy owed id router batch) (change : AckLog → AckLog)
    (hRecorded : ∀ acks, (change acks).recorded = acks.recorded) :
    Handled tidy owed id (router.modifyAcks id change) batch := by
  refine h.touch _ (fun client => ⟨rfl, rfl, rfl, rfl, rfl, rfl, rfl, List.Subset.refl _,
    fun _ _ => .inl, fun entry hEntry => .inl ?_⟩) fun _ => rfl
  rw [← hRecorded]
  exact hEntry

/-- A message of the batch is appended to the logs of its filters. -/
theorem appendToCommitlog (h : Handled tidy owed id router batch) (order : IterationOrder)
    (now : Instant) {publish : Publish} (hTopic : Cuttable publish.topic)
    (properties : Option PublishProperties) :
    ∃ result, router.appendToCommitlog order now id publish properties = ok result ∧
      ∀ router', result = .ok router' →
        Handled tidy owed id router' { batch with newData := true } := by
  obtain ⟨client, hClient⟩ := h.there
  obtain ⟨result, hResult, hOk⟩ := h.inv.appendToCommitlog order now hClient hTopic properties
  refine ⟨result, hResult, fun router' hRouter => ?_⟩
  obtain ⟨hInv, hThere⟩ := hOk router' hRouter
  exact ⟨hInv, hThere, nofun⟩

/-- A client that is woken within a batch keeps what has been handled. -/
theorem reschedule (h : Handled tidy owed id router batch) (reason : ScheduleReason) :
    ∃ router', router.reschedule id reason = ok router' ∧ Handled tidy owed id router' batch := by
  obtain ⟨client, hClient⟩ := h.there
  obtain ⟨router', client', hResult, hInv, hOne, _⟩ := h.inv.reschedule hClient reason
  exact ⟨router', hResult, hInv, ⟨client', hOne.get?_self⟩,
    fun hFresh => hOne.notifications.trans (h.fresh hFresh)⟩

/-- A message that is not appended ends the batch. -/
theorem append (h : Handled tidy owed id router batch) (order : IterationOrder) (now : Instant)
    {publish : Publish} (hTopic : Cuttable publish.topic) (properties : Option PublishProperties) :
    ∃ router' batch' stop, (router.appendToCommitlog order now id publish properties >>= fun
        | .ok router => ok (router, { batch with newData := true }, false)
        | .error .nonUtf8Topic => ok (router, { batch with disconnect := true }, true)
        | .error (.disconnect code) =>
            ok (router, { batch with disconnect := true, disconnectReason := some code }, true)) =
        ok (router', batch', stop) ∧ Handled tidy owed id router' batch' := by
  obtain ⟨result, hResult, hOk⟩ := h.appendToCommitlog order now hTopic properties
  rw [hResult, ok_bind]
  cases result with
  | ok router' => exact ⟨_, _, _, rfl, hOk router' rfl⟩
  | error error =>
      cases error with
      | nonUtf8Topic => exact ⟨_, _, _, rfl, h.flag batch.disconnectReason⟩
      | disconnect code => exact ⟨_, _, _, rfl, h.flag (some code)⟩

/-- A message that is published keeps what has been handled. -/
theorem handlePublish (h : Handled tidy owed id router batch) (order : IterationOrder)
    (now : Instant) {publish : Publish} (hTopic : Cuttable publish.topic)
    (properties : Option PublishProperties) :
    ∃ router' batch' stop, router.handlePublish order now id batch publish properties =
        ok (router', batch', stop) ∧ Handled tidy owed id router' batch' := by
  rw [Router.handlePublish]
  cases publish.qos with
  | AtMostOnce =>
      have hSame : Handled tidy owed id router { batch with forceAck := batch.forceAck || false } :=
        h.congr rfl rfl
      exact hSame.append order now hTopic properties
  | AtLeastOnce =>
      have hAcked : Handled tidy owed id
          (router.modifyAcks id fun acks =>
            acks.puback { pkid := publish.pkid, reason := .Success })
          { batch with forceAck := batch.forceAck || true } :=
        (h.modifyAcks (fun acks => acks.puback _) fun _ => rfl).congr rfl rfl
      exact hAcked.append order now hTopic properties
  | ExactlyOnce =>
      refine ⟨_, _, _, rfl, Handled.congr (h.touch (fun client =>
        { client with acks := client.acks.pubrec publish properties _ }) ?_ fun _ => rfl) rfl rfl⟩
      intro client
      refine ⟨rfl, rfl, rfl, rfl, rfl, rfl, rfl, List.Subset.refl _, fun _ _ => .inl,
        fun entry hEntry => ?_⟩
      rcases List.mem_append.mp hEntry with hOld | hNew
      · exact .inl hOld
      · rw [List.mem_singleton.mp hNew]
        exact .inr hTopic

/-- Filters are subscribed one after another. -/
theorem subscribeFilters (h : Handled tidy owed id router batch) (subscriptionId : Option Nat)
    {filters : List Filter} (hFilters : ∀ filter ∈ filters, Plain filter.path)
    (codes : List SubscribeReasonCode) :
    ∃ router' batch' codes', Router.subscribeFilters id subscriptionId filters router batch codes =
        ok (router', batch', codes') ∧ Handled tidy owed id router' batch' ∧
      batch'.newData = batch.newData := by
  induction filters generalizing router codes with
  | nil => exact ⟨router, batch, codes, rfl, h, rfl⟩
  | cons filter filters ih =>
      obtain ⟨hCuttable, hAlone⟩ := hFilters filter List.mem_cons_self
      rw [Router.subscribeFilters]
      split_ifs with hInvalid hZero
      · exact ⟨_, _, _, rfl, h.flag batch.disconnectReason, rfl⟩
      · exact ⟨_, _, _, rfl, h.flag (some .ProtocolError), rfl⟩
      · obtain ⟨⟨histories, hSound⟩, hScheduled⟩ := h.inv
        obtain ⟨client, hClient⟩ := h.there
        obtain ⟨datalog, idx, cursor, hNext, hSteady, hGrows, hKnown, hPlaced, hLast, hWaiters⟩ :=
          hSound.datalog.nextNativeOffset hCuttable
        have hLogs : { router with datalog := datalog }.Sound tidy histories [] :=
          hSound.grow hSteady hGrows
            (fun waiter hWaiter => (hSound.requests waiter hWaiter).mono hGrows)
            (by rw [hWaiters]; exact List.Perm.refl _)
        obtain ⟨router', hPrepare, hInv, hSame, hThere⟩ :=
          hLogs.prepareFilter filter hScheduled hClient hKnown hPlaced hLast subscriptionId
        have hHandled : Handled tidy owed id router' batch :=
          ⟨hInv, hThere, fun hFresh => hSame.trans (h.fresh hFresh)⟩
        obtain ⟨last, batch', codes', hRest, hKept, hFlags⟩ := ih hHandled
          (fun other hOther => hFilters other (List.mem_cons_of_mem _ hOther))
          (codes ++ [returnCode filter.qos])
        refine ⟨last, batch', codes', ?_, hKept, hFlags⟩
        rw [hAlone]
        dsimp only
        rw [hNext, ok_bind]
        dsimp only
        rw [hPrepare, ok_bind, hRest]

/-- A subscription keeps what has been handled. -/
theorem handleSubscribe (h : Handled tidy owed id router batch) {subscribe : Subscribe}
    (hFilters : ∀ filter ∈ subscribe.filters, Plain filter.path)
    (properties : Option SubscribeProperties) :
    ∃ router' batch' stop, router.handleSubscribe id batch subscribe properties =
        ok (router', batch', stop) ∧ Handled tidy owed id router' batch' ∧
      batch'.newData = batch.newData := by
  obtain ⟨next, batch', codes, hAll, hNext, hSame⟩ :=
    h.subscribeFilters (properties.bind SubscribeProperties.id) hFilters []
  rw [Router.handleSubscribe, hAll, ok_bind]
  exact ⟨_, _, _, rfl,
    (hNext.modifyAcks (fun acks => acks.suback _) fun _ => rfl).congr rfl rfl, hSame⟩

/-- Filters are given up one after another. -/
theorem unsubscribeFilters (h : Handled tidy owed id router batch) (pkid : UInt16)
    (filters : List Str) (hFresh : tidy → batch.newData = false) :
    ∃ router' batch',
      Router.unsubscribeFilters id pkid filters router batch = ok (router', batch') ∧
      Handled tidy owed id router' batch' ∧ batch'.newData = batch.newData := by
  induction filters generalizing router batch with
  | nil => exact ⟨router, batch, rfl, h, rfl⟩
  | cons filter filters ih =>
      obtain ⟨client, hClient⟩ := h.there
      obtain ⟨next, batch', hFirst, hInv, hSame, hThere, hDisconnect, hNewData⟩ :=
        h.inv.unsubscribeFilter hClient batch pkid filter fun hTidy => h.fresh (hFresh hTidy)
      have hNext : Handled tidy owed id next batch' := by
        refine ⟨?_, hThere, fun hNone => hSame.trans (h.fresh (hNewData ▸ hNone))⟩
        rw [Batch.spared, hDisconnect]
        exact hInv
      obtain ⟨router', last, hRest, hKept, hFlags⟩ := ih hNext fun hTidy => hNewData ▸ hFresh hTidy
      refine ⟨router', last, ?_, hKept, hFlags.trans hNewData⟩
      rw [Router.unsubscribeFilters, hFirst, ok_bind]
      exact hRest

/-- The other connections are scheduled whether the batch is flagged or not. -/
theorem others (h : Handled tidy owed id router batch) (key : ConnectionId) (client : Client)
    (hKey : router.clients.get? key = some client) (hOther : key ≠ id) :
    client.Scheduled (key ∈ router.readyqueue) (key ∈ owed) := by
  refine h.inv.2 key client hKey fun hSpared => hOther ?_
  rw [Batch.spared] at hSpared
  split_ifs at hSpared
  exact (Option.some.inj hSpared).symm

/-- An acknowledgement of the oldest message lets the connection go on. -/
theorem takeAck (h : Handled tidy owed id router batch) (pkid : UInt16) (change : Client → Client)
    (hTouched : ∀ client : Client, client.Touched (change client))
    (hStatus : ∀ client, (change client).tracker.status = client.tracker.status) :
    ∃ router' batch' stop, router.takeAck id batch pkid change = ok (router', batch', stop) ∧
      Handled tidy owed id router' batch' ∧ batch'.newData = batch.newData := by
  obtain ⟨client, hClient⟩ := h.there
  obtain ⟨histories, hSound⟩ := h.inv.1
  rw [Router.takeAck, client_eq hClient, ok_bind]
  obtain ⟨_, hBuffer, _⟩ := registerAck_kept client.outgoing pkid
  cases hAck : client.outgoing.registerAck pkid with
  | mk outgoing acknowledged =>
      have hOutgoing : (client.outgoing.registerAck pkid).1 = outgoing := by rw [hAck]
      have hOne := oneChanged hClient (fun client => { client with outgoing := outgoing })
        router.readyqueue router.subscriptionMap router.sharedSubscriptions
      have hTaken :
          (router.modifyClient id fun client => { client with outgoing := outgoing }).Sound
          tidy histories [] := hSound.registerAck hClient pkid (hOutgoing ▸ hOne)
      have hOthers : ∀ key other, (router.modifyClient id fun client =>
          { client with outgoing := outgoing }).clients.get? key = some other → key ≠ id →
          other.Scheduled (key ∈ router.readyqueue) (key ∈ owed) := fun key other hKey hId =>
        h.others key other (((hOne.get? key).trans (if_neg hId)) ▸ hKey) hId
      dsimp only
      cases acknowledged with
      | none =>
          refine ⟨_, _, _, rfl, ⟨⟨⟨histories, hTaken⟩, ?_⟩, ⟨_, hOne.get?_self⟩, h.fresh⟩, rfl⟩
          exact fun key other hKey hSpared => hOthers key other hKey
            fun hId => hSpared (congrArg some hId.symm)
      | some acknowledged =>
          have hNext := oneChanged hOne.get?_self change router.readyqueue router.subscriptionMap
            router.sharedSubscriptions
          have hKeep := hTouched { client with outgoing := outgoing }
          have hWake : batch.spared id ≠ some id →
              Wakeable (change { client with outgoing := outgoing }) .IncomingAck
                (id ∈ router.readyqueue) (id ∈ owed) := by
            intro hSpared
            have hWas := h.inv.2 id client hClient hSpared
            have hSame := hStatus { client with outgoing := outgoing }
            refine ⟨fun hReady => hWas.ready (hSame.symm.trans hReady), fun _ => .inl rfl,
              fun hBusy => .inr ?_⟩
            refine (hWas.busy (hSame.symm.trans hBusy)).imp_left fun hMem => hKeep.dataBuffer ?_
            rw [← hOutgoing, hBuffer]
            exact hMem
          obtain ⟨router', client', hResult, hInv, hLast, _⟩ := reschedule_inv
            (hTaken.touch hOne.get?_self hNext hKeep)
            (fun key other hKey hId _ => hOthers key other
              (((hNext.get? key).trans (if_neg hId)) ▸ hKey) hId)
            hNext.get?_self .IncomingAck hWake
          exact ⟨router', batch, false, congrArg (· >>= _) hResult,
            ⟨hInv, ⟨client', hLast.get?_self⟩,
              fun hNone => hLast.notifications.trans (h.fresh hNone)⟩, rfl⟩

/-- The first acknowledgement of QoS 2 keeps what has been handled. -/
theorem handlePubRec (h : Handled tidy owed id router batch) (pubrec : PubRec) :
    ∃ router' batch' stop, router.handlePubRec id batch pubrec = ok (router', batch', stop) ∧
      Handled tidy owed id router' batch' ∧ batch'.newData = batch.newData :=
  h.takeAck pubrec.pkid _ (fun _ => ⟨rfl, rfl, rfl, rfl, rfl, rfl, rfl, List.Subset.refl _,
    fun _ _ => .inl, fun _ => .inl⟩) fun _ => rfl

/-- The message that is released was accepted before. -/
theorem handlePubRel (h : Handled tidy owed id router batch) (order : IterationOrder)
    (now : Instant) (pubrel : PubRel) :
    ∃ router' batch' stop, router.handlePubRel order now id batch pubrel =
        ok (router', batch', stop) ∧ Handled tidy owed id router' batch' := by
  obtain ⟨client, hClient⟩ := h.there
  obtain ⟨histories, hSound⟩ := h.inv.1
  have hRecorded := (hSound.clients id client hClient).recorded
  rw [Router.handlePubRel, client_eq hClient, ok_bind]
  cases hAcks : client.acks.pubcomp { pkid := pubrel.pkid, reason := .Success } with
  | mk acks released =>
      have hTail : acks.recorded = client.acks.recorded.tail := (Prod.mk.inj hAcks).1 ▸ rfl
      have hHead : released = client.acks.recorded.head? := (Prod.mk.inj hAcks).2.symm
      have hTaken : Handled tidy owed id (router.modifyAcks id fun _ => acks) batch := by
        refine h.modifyClient hClient _ ⟨rfl, rfl, rfl, rfl, rfl, rfl, rfl, List.Subset.refl _,
          fun _ _ => .inl, fun entry hEntry => .inl (List.mem_of_mem_tail ?_)⟩ rfl
        exact hTail ▸ hEntry
      dsimp only
      cases released with
      | none => exact ⟨_, _, _, rfl, hTaken.flag batch.disconnectReason⟩
      | some entry =>
          obtain ⟨publish, properties⟩ := entry
          have hTopic : Cuttable publish.topic := hRecorded _ (List.mem_of_head? hHead.symm)
          obtain ⟨result, hResult, hOk⟩ := hTaken.appendToCommitlog order now hTopic properties
          dsimp only
          rw [hResult, ok_bind]
          cases result with
          | error error => exact ⟨_, _, _, rfl, hTaken.flag batch.disconnectReason⟩
          | ok next =>
              obtain ⟨router', hReschedule, hNext⟩ := (hOk next rfl).reschedule .IncomingAck
              exact ⟨router', _, false, congrArg (· >>= _) hReschedule, hNext⟩

/-- The last acknowledgement of QoS 2 keeps what has been handled. -/
theorem handlePubComp (h : Handled tidy owed id router batch) (pubcomp : PubComp) :
    ∃ router' batch' stop, router.handlePubComp id batch pubcomp = ok (router', batch', stop) ∧
      Handled tidy owed id router' batch' ∧ batch'.newData = batch.newData := by
  obtain ⟨client, hClient⟩ := h.there
  rw [Router.handlePubComp, client_eq hClient, ok_bind]
  have hKept :
      (client.outgoing.registerPubcomp pubcomp.pkid).1.clientId = client.outgoing.clientId ∧
      (client.outgoing.registerPubcomp pubcomp.pkid).1.dataBuffer = client.outgoing.dataBuffer ∧
      (client.outgoing.registerPubcomp pubcomp.pkid).1.inflightBuffer =
        client.outgoing.inflightBuffer ∧
      (client.outgoing.registerPubcomp pubcomp.pkid).1.lastPkid = client.outgoing.lastPkid := by
    unfold Outgoing.registerPubcomp
    split <;> exact ⟨rfl, rfl, rfl, rfl⟩
  cases hComp : client.outgoing.registerPubcomp pubcomp.pkid with
  | mk outgoing completed =>
      rw [hComp] at hKept
      obtain ⟨hOwner, hBuffer, hInflight, hLast⟩ := hKept
      have hTaken : Handled tidy owed id
          (router.modifyClient id fun client => { client with outgoing := outgoing }) batch :=
        h.modifyClient hClient _ ⟨rfl, rfl, rfl, rfl, hOwner, hInflight, hLast, hBuffer ▸
          List.Subset.refl _, fun _ _ => .inl, fun _ => .inl⟩ rfl
      dsimp only
      cases completed with
      | none => exact ⟨_, _, _, rfl, hTaken.flag batch.disconnectReason, rfl⟩
      | some completed => exact ⟨_, _, _, rfl, hTaken, rfl⟩

end Handled

/-- The topics and filters of a packet can be matched, and no filter is one of
a group. -/
def Packet.Plain : Packet → Prop
  | .Publish publish _ => Cuttable publish.topic
  | .Subscribe subscribe _ => ∀ filter ∈ subscribe.filters, Router.Plain filter.path
  | _ => True

/-- The packet may put a message into the logs. -/
def Packet.appends : Packet → Prop
  | .Publish _ _ => True
  | .PubRel _ _ => True
  | _ => False

def Packet.givesUp : Packet → Prop
  | .Unsubscribe _ => True
  | _ => False

/-- No filter is given up behind a message of the same batch. -/
def Tidy (packets : List Packet) : Prop :=
  packets.Pairwise fun first second => first.appends → ¬second.givesUp

namespace Handled

open Router

variable {tidy : Prop} {owed : List ConnectionId} {id : ConnectionId} {router router' : Router}
  {batch batch' : Batch} {client client' : Client}

/-- Each packet of a batch keeps what has been handled. -/
theorem handlePacket (h : Handled tidy owed id router batch) (order : IterationOrder)
    (now : Instant) {packet : Packet} (hPlain : packet.Plain)
    (hFresh : tidy → packet.givesUp → batch.newData = false) :
    ∃ router' batch' stop, Router.handlePacket order now id router batch packet =
        ok (router', batch', stop) ∧ Handled tidy owed id router' batch' ∧
      (batch'.newData = true → batch.newData = true ∨ packet.appends) := by
  cases packet with
  | Publish publish properties =>
      obtain ⟨router', batch', stop, hResult, hKept⟩ := h.handlePublish order now hPlain properties
      exact ⟨router', batch', stop, hResult, hKept, fun _ => .inr trivial⟩
  | Subscribe subscribe properties =>
      obtain ⟨router', batch', stop, hResult, hKept, hSame⟩ := h.handleSubscribe hPlain properties
      exact ⟨router', batch', stop, hResult, hKept, fun hNew => .inl (hSame ▸ hNew)⟩
  | Unsubscribe unsubscribe =>
      obtain ⟨router', batch', hResult, hKept, hSame⟩ := h.unsubscribeFilters unsubscribe.pkid
        unsubscribe.filters fun hTidy => hFresh hTidy trivial
      exact ⟨router', batch', false, congrArg (· >>= _) hResult, hKept,
        fun hNew => .inl (hSame ▸ hNew)⟩
  | PubAck puback =>
      obtain ⟨router', batch', stop, hResult, hKept, hSame⟩ :=
        h.takeAck puback.pkid (fun client => client) Client.Touched.refl fun _ => rfl
      exact ⟨router', batch', stop, hResult, hKept, fun hNew => .inl (hSame ▸ hNew)⟩
  | PubRec pubrec =>
      obtain ⟨router', batch', stop, hResult, hKept, hSame⟩ := h.handlePubRec pubrec
      exact ⟨router', batch', stop, hResult, hKept, fun hNew => .inl (hSame ▸ hNew)⟩
  | PubRel pubrel properties =>
      cases properties with
      | none =>
          obtain ⟨router', batch', stop, hResult, hKept⟩ := h.handlePubRel order now pubrel
          exact ⟨router', batch', stop, hResult, hKept, fun _ => .inr trivial⟩
      | some properties => exact ⟨router, batch, false, rfl, h, .inl⟩
  | PubComp pubcomp =>
      obtain ⟨router', batch', stop, hResult, hKept, hSame⟩ := h.handlePubComp pubcomp
      exact ⟨router', batch', stop, hResult, hKept, fun hNew => .inl (hSame ▸ hNew)⟩
  | PingReq =>
      exact ⟨_, _, _, rfl, (h.modifyAcks AckLog.pingresp fun _ => rfl).congr rfl rfl, .inl⟩
  | Disconnect reasonCode =>
      obtain ⟨client, hClient⟩ := h.there
      rw [Router.handlePacket, client_eq hClient, ok_bind]
      have hWithout := h.inv.withoutWill client.outgoing.clientId
      have hHandled : Handled tidy owed id { router with
          lastWills := Function.update router.lastWills client.outgoing.clientId none } batch :=
        ⟨hWithout, h.there, h.fresh⟩
      exact ⟨_, _, _, rfl, hHandled.flag batch.disconnectReason, .inl⟩
  | _ => exact ⟨router, batch, false, rfl, h, .inl⟩

/-- The packets of a batch, up to one that ends it. -/
theorem handlePackets (h : Handled tidy owed id router batch) (order : IterationOrder)
    (now : Instant) {packets : List Packet} (hPlain : ∀ packet ∈ packets, packet.Plain)
    (hTidy : tidy → Tidy packets)
    (hFresh : tidy → batch.newData = true → ∀ packet ∈ packets, ¬packet.givesUp) :
    ∃ router' batch', Router.handlePackets order now id packets router batch =
        ok (router', batch') ∧ Handled tidy owed id router' batch' := by
  induction packets generalizing router batch with
  | nil => exact ⟨router, batch, rfl, h⟩
  | cons packet packets ih =>
      obtain ⟨next, batch', stop, hFirst, hNext, hFlags⟩ :=
        h.handlePacket order now (hPlain packet List.mem_cons_self) fun hIs hGivesUp =>
          Bool.eq_false_iff.mpr fun hNew => hFresh hIs hNew packet List.mem_cons_self hGivesUp
      rw [Router.handlePackets, hFirst, ok_bind]
      cases stop with
      | true => exact ⟨next, batch', rfl, hNext⟩
      | false =>
          refine ih hNext (fun other hOther => hPlain other (List.mem_cons_of_mem _ hOther))
            (fun hIs => (List.pairwise_cons.mp (hTidy hIs)).2) fun hIs hNew other hOther => ?_
          rcases hFlags hNew with hOld | hAppends
          · exact hFresh hIs hOld other (List.mem_cons_of_mem _ hOther)
          · exact (List.pairwise_cons.mp (hTidy hIs)).1 other hOther hAppends

end Handled
end SnapEmu.Broker
