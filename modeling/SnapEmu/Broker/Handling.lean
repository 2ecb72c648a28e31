import SnapEmu.Broker.Sweep

/-! What the packets of a connection do. A message puts the requests it is for
in the hands of the router, and a filter that is given up takes its request
along. -/
namespace SnapEmu.Broker

open Mqtt (Str QoS)
open Semantics Exec

section Publish

variable {connection connection' : Connection} {publish publish' : Publish}
  {properties properties' : Option PublishProperties}

/-- A message is appended under its own topic or under one an alias stands for. -/
theorem acceptPublish_ok
    (h : acceptPublish connection publish properties = .ok (connection', publish', properties'))
    (hTopic : Cuttable publish.topic)
    (hAliases : ∀ topicAlias topic, connection.topicAliases topicAlias = some topic →
      Cuttable topic) :
    Cuttable publish'.topic ∧ connection'.clientId = connection.clientId ∧
      connection'.subscriptions = connection.subscriptions ∧
      ∀ topicAlias topic, connection'.topicAliases topicAlias = some topic → Cuttable topic := by
  rcases acceptPublish_cases h with ⟨rfl, rfl⟩ | ⟨topicAlias, topic, hKnown, rfl, rfl⟩ |
    ⟨topicAlias, rfl, rfl⟩
  · exact ⟨hTopic, rfl, rfl, hAliases⟩
  · exact ⟨hAliases topicAlias topic hKnown, rfl, rfl, hAliases⟩
  · refine ⟨hTopic, rfl, rfl, fun known topic hKnown => ?_⟩
    dsimp only at hKnown
    rw [Function.update_apply] at hKnown
    split_ifs at hKnown with hHere
    · cases hKnown
      exact hTopic
    · exact hAliases known topic hKnown

end Publish

namespace Router

variable {tidy : Prop} {router router' : Router} {id : ConnectionId} {client client' : Client}
  {histories : FilterIdx → List PublishData} {held : List Waiter}
  {owed : List ConnectionId} {spared : Option ConnectionId}

/-- A message in the logs puts the requests it is for in the hands of the router. -/
theorem Inv.record (h : router.Inv tidy owed held spared) (order : IterationOrder) (now : Instant)
    (publish : Publish) (properties : Option PublishProperties) {topic : Topic}
    (hTopic : Cuttable topic) :
    ∃ datalog notifications offset,
      router.datalog.record order router.notifications publish properties topic now =
        ok (datalog, notifications, offset) ∧
      { router with datalog := datalog, notifications := notifications }.Inv tidy owed held
        spared := by
  obtain ⟨⟨histories, hSound⟩, hScheduled⟩ := h
  obtain ⟨datalog, histories', moved, offset, hRecord, hSteady, hGrows, hMoved, hPerm⟩ :=
    hSound.datalog.record order router.notifications publish properties hTopic now
  refine ⟨datalog, _, offset, hRecord, ⟨histories', hSound.grow hSteady hGrows ?_ ?_⟩, hScheduled⟩
  · intro waiter hWaiter
    rw [List.append_assoc] at hWaiter
    rcases List.mem_append.mp hWaiter with hOld | hNew
    · exact (hSound.requests waiter (List.mem_append_left _ hOld)).mono hGrows
    · rcases List.mem_append.mp hNew with hTaken | hHeld
      · exact hMoved waiter hTaken
      · exact (hSound.requests waiter (List.mem_append_right _ hHeld)).mono hGrows
  · refine List.Perm.append_right held ?_
    refine (List.perm_append_comm.trans ?_).trans List.perm_append_comm
    rw [List.append_assoc]
    exact hPerm.append_left _

/-- A message that is appended keeps the invariant, with its waiters notified. -/
theorem Inv.appendToCommitlog (h : router.Inv tidy owed held spared) (order : IterationOrder)
    (now : Instant) (hClient : router.clients.get? id = some client) {publish : Publish}
    (hTopic : Cuttable publish.topic) (properties : Option PublishProperties) :
    ∃ result, router.appendToCommitlog order now id publish properties = ok result ∧
      ∀ router', result = .ok router' → router'.Inv tidy owed held spared ∧
        ∃ client', router'.clients.get? id = some client' := by
  obtain ⟨histories, hSound⟩ := h.1
  have hAliases := (hSound.clients id client hClient).aliases
  rw [Router.appendToCommitlog, client_eq hClient, ok_bind]
  cases hAccept : acceptPublish client.connection publish properties with
  | error error => exact ⟨_, rfl, nofun⟩
  | ok accepted =>
      obtain ⟨connection, accepted, properties⟩ := accepted
      obtain ⟨hAccepted, hName, hSubscriptions, hKnown⟩ := acceptPublish_ok hAccept hTopic hAliases
      obtain ⟨datalog, notifications, offset, hRecord, hInv⟩ :=
        h.record order now accepted properties hAccepted
      dsimp only
      rw [hRecord, ok_bind]
      refine ⟨_, rfl, fun router' hOk => ?_⟩
      cases hOk
      have hTouched : client.Touched { client with connection := connection } :=
        ⟨rfl, rfl, hName, hSubscriptions, rfl, rfl, rfl, List.Subset.refl _,
          fun topicAlias topic hTopic => .inr (hKnown topicAlias topic hTopic), fun _ => .inl⟩
      have hHere : { router with
          datalog := datalog, notifications := notifications }.clients.get? id = some client :=
        hClient
      have hOne := oneChanged hHere
        (fun client => { client with connection := connection }) router.readyqueue
        router.subscriptionMap router.sharedSubscriptions
      exact ⟨hInv.touch hHere hOne rfl hTouched rfl, _, hOne.get?_self⟩

/-- Wills whose topics may be cut keep the invariant. -/
theorem Inv.withWills (h : router.Inv tidy owed held spared)
    {lastWills : ClientId → Option (LastWill × Option LastWillProperties)}
    (hWills : ∀ clientId will, lastWills clientId = some will → Cuttable will.1.topic) :
    { router with lastWills := lastWills }.Inv tidy owed held spared := by
  obtain ⟨⟨histories, hSound⟩, hScheduled⟩ := h
  exact ⟨⟨histories, hSound.datalog, hSound.clients, hSound.requests, hSound.live, hSound.served,
    hSound.behind, hSound.directory, hSound.saved, hWills⟩, hScheduled⟩

/-- A will that is given up keeps the invariant. -/
theorem Inv.withoutWill (h : router.Inv tidy owed held spared) (clientId : ClientId) :
    { router with lastWills := Function.update router.lastWills clientId none }.Inv tidy owed held
      spared := by
  obtain ⟨histories, hSound⟩ := h.1
  refine h.withWills fun other will hWill => ?_
  rw [Function.update_apply] at hWill
  split_ifs at hWill
  exact hSound.wills other will hWill

/-- A connection that is flagged does not have to be scheduled. -/
theorem Inv.spare (h : router.Inv tidy owed held spared)
    (hSpared : spared = none ∨ spared = some id) :
    router.Inv tidy owed held (some id) := by
  refine ⟨h.1, fun key client hKey hOther => h.2 key client hKey fun hFlagged => ?_⟩
  rcases hSpared with rfl | rfl
  · cases hFlagged
  · exact hOther hFlagged

section Subscriptions

/-- A filter that can be matched and is not one of a group. -/
structure Plain (filter : FilterName) : Prop where
  cuttable : Cuttable filter
  alone : extractGroup filter = none

theorem qosNumber_le (level : QoS) : qosNumber level ≤ 2 := by cases level <;> decide

/-- The request of a new subscription is the only one for its filter. -/
theorem served_subscribed {request : DataRequest} {path : FilterName}
    {pending pending' : List Waiter} (h : client.Served tidy id pending)
    (hFilter : request.filter = path) (hMember : path ∉ client.connection.subscriptions)
    (subscriptionId : Option Nat) (hPerm : pending'.Perm ((id, request) :: pending)) :
    (subscribed path subscriptionId client).Served tidy id pending' := by
  intro other
  have hWas := h other
  have hTally : (subscribed path subscriptionId client).tally id other pending' =
      client.tally id other pending + if path = other then 1 else 0 := by
    have hTracker : (subscribed path subscriptionId client).tracker = client.tracker := rfl
    rw [Client.tally, Client.tally, hTracker, countFor_perm id other hPerm]
    simp only [countFor_cons, hFilter, true_and]
    omega
  have hMem : other ∈ (subscribed path subscriptionId client).connection.subscriptions ↔
      other ∈ client.connection.subscriptions ∨ other = path := by
    have hSubscriptions : (subscribed path subscriptionId client).connection.subscriptions =
        client.connection.subscriptions ++ [path] := if_neg hMember
    rw [hSubscriptions, List.mem_append, List.mem_singleton]
  rw [hTally]
  by_cases hHere : path = other
  · subst hHere
    rw [if_pos rfl]
    refine ⟨fun _ => Nat.le_add_left _ _, fun hTidy => ⟨?_, fun hNot => ?_⟩⟩
    · have hNone := (hWas.2 hTidy).2 hMember
      omega
    · exact absurd (hMem.mpr (.inr rfl)) hNot
  · rw [if_neg hHere, Nat.add_zero]
    refine ⟨fun hOther => hWas.1 ((hMem.mp hOther).resolve_right (Ne.symm hHere)),
      fun hTidy => ⟨(hWas.2 hTidy).1, fun hNot => (hWas.2 hTidy).2 fun hOld => ?_⟩⟩
    exact hNot (hMem.mpr (.inl hOld))

/-- A new subscription has a request behind all messages there are. -/
theorem Sound.prepareFilter (h : router.Sound tidy histories held) (filter : Filter)
    (hScheduled : router.Scheduled owed spared) (hClient : router.clients.get? id = some client)
    {cursor : Offset} {filterIdx : FilterIdx}
    (hKnown : (filter.path, filterIdx) ∈ router.datalog.filterIndexes)
    (hPlaced : router.datalog.Placed histories filterIdx cursor)
    (hLast : cursor.2 = (histories filterIdx).length) (subscriptionId : Option Nat) :
    ∃ router', router.prepareFilter id cursor filterIdx filter none subscriptionId = ok router' ∧
      router'.Inv tidy owed held spared ∧ router'.notifications = router.notifications ∧
      ∃ client', router'.clients.get? id = some client' := by
  rw [Router.prepareFilter, client_eq hClient, ok_bind]
  dsimp only
  obtain ⟨subscriptionMap, hMap⟩ : ∃ map : List (FilterName × ConnectionId),
      (if (filter.path, id) ∈ router.subscriptionMap then router.subscriptionMap
      else router.subscriptionMap ++ [(filter.path, id)]) = map := ⟨_, rfl⟩
  rw [hMap]
  have hOne := oneChanged hClient (subscribed filter.path subscriptionId) router.readyqueue
    subscriptionMap router.sharedSubscriptions
  have hOld := h.clients id client hClient
  by_cases hMember : filter.path ∈ client.connection.subscriptions
  · rw [if_pos hMember]
    have hTouched : client.Touched (subscribed filter.path subscriptionId client) :=
      ⟨rfl, rfl, rfl, if_pos hMember, rfl, rfl, rfl, List.Subset.refl _, fun _ _ => .inl,
        fun _ => .inl⟩
    exact ⟨_, rfl, ⟨⟨histories, h.touch hClient hOne hTouched⟩,
      hScheduled.touch hClient hOne rfl hTouched rfl⟩, rfl, _, hOne.get?_self⟩
  · rw [if_neg hMember]
    obtain ⟨request, hRequest⟩ : ∃ request : DataRequest,
        { filter := filter.path, filterIdx := filterIdx, qos := qosNumber filter.qos,
          cursor := cursor, readCount := 0, forwardRetained := true, group := none } = request :=
      ⟨_, rfl⟩
    have hNew : request.Sound router.datalog histories := by
      rw [← hRequest]
      exact ⟨rfl, qosNumber_le filter.qos, hKnown, hPlaced⟩
    have hServed : (subscribed filter.path subscriptionId client).Served tidy id
        (router.pending ((id, request) :: held)) :=
      served_subscribed (h.served id client hClient) (hRequest ▸ rfl) hMember subscriptionId
        List.perm_middle
    have hHeld : { router.modifyClient id (subscribed filter.path subscriptionId) with
        subscriptionMap := subscriptionMap }.Sound tidy histories ((id, request) :: held) := by
      refine h.change hClient hOne { hOld with } rfl (fun waiter hWaiter => ?_)
        (fun other hOther path => by simp [hOther.symm]) hServed fun hTidy other hMem => ?_
      · rcases List.mem_cons.mp hWaiter with rfl | hHeld
        · exact .inr ⟨rfl, hNew⟩
        · exact .inl hHeld
      · have hCases : other = request ∨ other ∈ client.tracker.dataRequests ∨
            (id, other) ∈ router.pending held := by
          rcases hMem with hMine | hPending
          · exact .inr (.inl hMine)
          · rcases List.mem_cons.mp (List.perm_middle.mem_iff.mp hPending) with hSelf | hRest
            · exact .inl (Prod.mk.inj hSelf).2
            · exact .inr (.inr hRest)
        rcases hCases with rfl | hOther
        · -- what is in flight is in the log, and the request is at its end
          intro entry hEntry place hLog hPlace
          have hLess := (hOld.inflight entry hEntry place hPlace).2
          rw [hLog] at hLess
          rw [← hRequest] at hLess ⊢
          exact hLast.symm ▸ hLess
        · exact h.behind hTidy id client hClient other hOther
    have hNext : Router.Scheduled _ owed spared :=
      Scheduled.change (fun key other hKey _ hSpared => hScheduled key other hKey hSpared) hOne
        (fun _ _ hReady => hReady) fun hSpared => by
          have hWas := hScheduled id client hClient hSpared
          exact ⟨hWas.ready, hWas.caughtup, hWas.full, hWas.busy⟩
    have hInv : Router.Inv tidy owed _ ((id, request) :: held) spared := ⟨⟨histories, hHeld⟩, hNext⟩
    obtain ⟨router', client', hTrack, hKept, hThere, hSame, _⟩ := hInv.track .NewFilter
    subst hRequest
    exact ⟨router', hTrack, hKept, hSame, client', hThere⟩

/-- Two changes of one client are one. -/
theorem OneChanged.trans {between last : Router} {changed : Client}
    (h : router.OneChanged between id changed) (h' : between.OneChanged last id client') :
    router.OneChanged last id client' where
  get? key := by
    rw [h'.get?, h.get?]
    split_ifs <;> rfl
  count := h'.count.trans h.count
  datalog := h'.datalog.trans h.datalog
  notifications := h'.notifications.trans h.notifications
  connectionMap := h'.connectionMap.trans h.connectionMap
  graveyard := h'.graveyard.trans h.graveyard
  lastWills := h'.lastWills.trans h.lastWills
  config := h'.config.trans h.config

/-- The connection behind its last request for a filter. -/
def given (filter : FilterName) (pkid : UInt16) (client : Client) : Client :=
  { unsubscribed filter pkid client with
    tracker := client.tracker.unregisterDataRequest filter }

/-- The requests for a filter that is given up go, and the others stay. -/
theorem served_given {filter : FilterName} (pkid : UInt16) {pending removed : List Waiter}
    (h : client.Served tidy id (removed ++ pending))
    (hRemoved : ∀ waiter ∈ removed, waiter.2.filter = filter)
    (hGone : tidy → countFor id filter pending = 0) :
    (given filter pkid client).Served tidy id pending := by
  intro path
  have hSubscriptions : path ∈ (given filter pkid client).connection.subscriptions ↔
      path ∈ client.connection.subscriptions ∧ path ≠ filter := by
    refine List.mem_filter.trans (and_congr_right' ?_)
    exact decide_eq_true_iff
  by_cases hHere : path = filter
  · subst hHere
    refine ⟨fun hMem => absurd rfl (hSubscriptions.mp hMem).2, fun hTidy => ?_⟩
    have hNone : (given path pkid client).tracker.dataRequests.countP
        (fun request => request.filter = path) = 0 := by
      refine List.countP_eq_zero.mpr fun request hRequest => ?_
      simpa using (List.mem_filter.mp hRequest).2
    rw [Client.tally, hNone, hGone hTidy]
    exact ⟨Nat.zero_le _, fun _ => rfl⟩
  · have hTally : (given filter pkid client).tally id path pending =
        client.tally id path (removed ++ pending) := by
      have hTracker : (given filter pkid client).tracker.dataRequests.countP
            (fun request => request.filter = path) =
          client.tracker.dataRequests.countP fun request => request.filter = path := by
        refine List.countP_filter.trans (List.countP_congr fun request _ => ?_)
        by_cases hPath : request.filter = path <;> simp [hPath, hHere]
      have hNone : countFor id path removed = 0 := by
        refine List.countP_eq_zero.mpr fun waiter hWaiter => ?_
        simp [hRemoved waiter hWaiter, Ne.symm hHere]
      rw [Client.tally, Client.tally, hTracker, countFor_append, hNone, Nat.zero_add]
    rw [hTally]
    refine ⟨fun hMem => (h path).1 (hSubscriptions.mp hMem).1, fun hTidy => ?_⟩
    obtain ⟨hMost, hNone⟩ := (h path).2 hTidy
    exact ⟨hMost, fun hNot => hNone fun hOld => hNot (hSubscriptions.mpr ⟨hOld, hHere⟩)⟩

/-- A connection that gives up a filter has no request for it left. -/
theorem Inv.give (h : router.Inv tidy owed [] spared)
    (hClient : router.clients.get? id = some client) (pkid : UInt16) (filter : FilterName)
    (hFresh : tidy → router.notifications = []) :
    ∃ datalog, router.datalog.removeWaitersForId id filter = ok datalog ∧
      ∀ router',
        { router with datalog := datalog }.OneChanged router' id (given filter pkid client) →
        router'.readyqueue = router.readyqueue → router'.Inv tidy owed [] spared := by
  obtain ⟨⟨histories, hSound⟩, hScheduled⟩ := h
  obtain ⟨datalog, removed, hRemove, hSteady, hGrows, hPerm, hRemoved, hNone⟩ :=
    hSound.datalog.removeWaitersForId id filter
  refine ⟨datalog, hRemove, fun router' hOne hQueue => ?_⟩
  have hPending :
      (datalog.allWaiters ++ router.notifications ++ removed).Perm (router.pending []) := by
    rw [Router.pending, List.append_nil]
    refine List.perm_append_comm.trans ?_
    rw [← List.append_assoc]
    exact hPerm.append_right _
  have hHeld : { router with datalog := datalog }.Sound tidy histories removed := by
    refine hSound.grow hSteady hGrows (fun waiter hWaiter => ?_) hPending
    rcases List.mem_append.mp hWaiter with hFresh | hMem
    · exact (hSound.requests waiter (List.mem_append_left _ hFresh)).mono hGrows
    · obtain ⟨idx, hAt⟩ :=
        DataLog.mem_allWaiters.mp (hPerm.mem_iff.mp (List.mem_append_left _ hMem))
      exact (hSound.datalog.waiting idx waiter hAt).2.1.mono hGrows
  have hHere : { router with datalog := datalog }.clients.get? id = some client := hClient
  have hOld := hHeld.clients id client hHere
  have hAll : Router.pending { router with datalog := datalog } [] =
      datalog.allWaiters ++ router.notifications := List.append_nil _
  have hServed : client.Served tidy id (removed ++ (datalog.allWaiters ++ router.notifications)) :=
    (hHeld.served id client hHere).perm List.perm_append_comm
  have hGone : tidy → countFor id filter (datalog.allWaiters ++ router.notifications) = 0 := by
    intro hTidy
    rw [hFresh hTidy, List.append_nil]
    cases hList : removed with
    | nil =>
        rw [hList] at hPerm
        refine List.countP_eq_zero.mpr fun waiter hWaiter => ?_
        have hOther := hNone hList waiter (hPerm.mem_iff.mp hWaiter)
        simpa using hOther
    | cons waiter others =>
        -- the request that goes was the only one
        have hOnly := ((hServed filter).2 hTidy).1
        obtain ⟨hId, hFilter⟩ := hRemoved waiter (hList ▸ List.mem_cons_self)
        rw [hList, hFresh hTidy, List.append_nil, List.cons_append, Client.tally, countFor_cons,
          if_pos ⟨hId, hFilter⟩, countFor_append] at hOnly
        omega
  have hKept : ∀ waiter ∈ Router.pending { router with datalog := datalog } [],
      waiter ∈ Router.pending { router with datalog := datalog } removed := by
    intro waiter hWaiter
    rw [hAll] at hWaiter
    exact List.mem_append_left _ hWaiter
  refine ⟨⟨histories, hHeld.change hHere hOne
    { hOld with requests := fun request hRequest => hOld.requests request ?_ } rfl
    (fun waiter hWaiter => absurd hWaiter List.not_mem_nil)
    (fun other hOther path => ?_) ?_ fun hTidy request hRequest => ?_⟩, ?_⟩
  · exact List.mem_of_mem_filter hRequest
  · refine (countFor_eq_zero fun waiter hWaiter => ?_).symm
    rw [(hRemoved waiter hWaiter).1]
    exact Ne.symm hOther
  · rw [hAll]
    exact served_given pkid hServed (fun waiter hWaiter => (hRemoved waiter hWaiter).2) hGone
  · exact hHeld.behind hTidy id client hHere request
      (hRequest.imp List.mem_of_mem_filter (hKept (id, request)))
  · have hOthers : Router.Scheduled { router with datalog := datalog } owed spared := hScheduled
    refine Scheduled.change (fun key other hKey _ hSpared => hOthers key other hKey hSpared) hOne
      (fun key _ hReady => hQueue.symm ▸ hReady) fun hSpared => ?_
    have hWas := hScheduled id client hClient hSpared
    rw [hQueue]
    refine ⟨hWas.ready, fun hCaughtup => ?_, hWas.full, hWas.busy⟩
    change client.tracker.dataRequests.filter _ = []
    rw [hWas.caughtup hCaughtup, List.filter_nil]

/-- The request for a filter is dropped from the tracker. -/
theorem untrack_eq (client : Client) (filter : FilterName)
    (hClient : router.clients.get? id = some client) :
    router.untrack id filter = ok (router.modifyClient id fun client =>
      { client with tracker := client.tracker.unregisterDataRequest filter }) := by
  rw [Router.untrack, client_eq hClient, ok_bind]

/-- A filter that is given up keeps the invariant. -/
theorem Inv.unsubscribeFilter (h : router.Inv tidy owed [] spared)
    (hClient : router.clients.get? id = some client) (batch : Batch) (pkid : UInt16)
    (filter : FilterName) (hFresh : tidy → router.notifications = []) :
    ∃ router' batch', router.unsubscribeFilter id batch pkid filter = ok (router', batch') ∧
      router'.Inv tidy owed [] spared ∧ router'.notifications = router.notifications ∧
      (∃ client', router'.clients.get? id = some client') ∧
      batch'.disconnect = batch.disconnect ∧ batch'.newData = batch.newData := by
  rw [Router.unsubscribeFilter, client_eq hClient, ok_bind]
  by_cases hMap : (filter, id) ∉ router.subscriptionMap
  · rw [if_pos hMap]
    exact ⟨router, batch, rfl, h, rfl, ⟨client, hClient⟩, rfl, rfl⟩
  rw [if_neg hMap]
  dsimp only
  by_cases hMember : filter ∉ client.connection.subscriptions
  · rw [if_pos hMember]
    have hSame : router.OneChanged { router with
        subscriptionMap := router.subscriptionMap.filter (· ≠ (filter, id)) } id client :=
      { oneChanged_refl hClient with }
    exact ⟨_, batch, rfl, h.touch hClient hSame rfl (.refl _) rfl, rfl, ⟨client, hClient⟩, rfl, rfl⟩
  rw [if_neg hMember]
  obtain ⟨datalog, hRemove, hGive⟩ := h.give hClient pkid filter hFresh
  have hHere : { router with datalog := datalog }.clients.get? id = some client := hClient
  have hFirst := oneChanged hHere (unsubscribed filter pkid) router.readyqueue
    (router.subscriptionMap.filter (· ≠ (filter, id)))
    (removeFromGroups router.sharedSubscriptions client.outgoing.clientId)
  have hOne := hFirst.trans (oneChanged hFirst.get?_self
    (fun client => { client with tracker := client.tracker.unregisterDataRequest filter })
    router.readyqueue (router.subscriptionMap.filter (· ≠ (filter, id)))
    (removeFromGroups router.sharedSubscriptions client.outgoing.clientId))
  refine ⟨_, { batch with forceAck := true }, ?_, hGive _ hOne rfl, rfl, ⟨_, hOne.get?_self⟩, rfl,
    rfl⟩
  rw [untrack_eq (unsubscribed filter pkid client) filter, ok_bind]
  · exact congrArg (· >>= _) hRemove
  · exact hFirst.get?_self

end Subscriptions

section Acknowledgements

variable {outgoing : Outgoing}

/-- An acknowledgement takes the oldest message only. -/
theorem registerAck_kept (outgoing : Outgoing) (pkid : UInt16) :
    (outgoing.registerAck pkid).1.clientId = outgoing.clientId ∧
      (outgoing.registerAck pkid).1.dataBuffer = outgoing.dataBuffer ∧
      (outgoing.registerAck pkid).1.inflightBuffer.Sublist outgoing.inflightBuffer := by
  unfold Outgoing.registerAck
  split
  · exact ⟨rfl, rfl, .refl _⟩
  · rename_i hBuffer
    exact ⟨rfl, rfl, hBuffer ▸ List.sublist_cons_self _ _⟩

/-- A message that is no longer in flight. -/
theorem Sound.registerAck (h : router.Sound tidy histories held)
    (hClient : router.clients.get? id = some client) (pkid : UInt16)
    (hOne : router.OneChanged router' id
      { client with outgoing := (client.outgoing.registerAck pkid).1 }) :
    router'.Sound tidy histories held := by
  have hOld := h.clients id client hClient
  obtain ⟨hOwner, _, hSublist⟩ := registerAck_kept client.outgoing pkid
  refine h.change hClient hOne { hOld with
      named := hOwner.trans hOld.named
      window := ?_
      inflight := fun entry hEntry => hOld.inflight entry (hSublist.subset hEntry)
      ordered := fun hTidy => (hOld.ordered hTidy).sublist hSublist } rfl (fun _ => .inl)
    (fun _ _ _ => rfl) (h.served id client hClient) fun hTidy request hRequest entry hEntry => ?_
  · obtain ⟨sent, hWindow⟩ := hOld.window
    exact ⟨sent, hWindow.registerAck pkid⟩
  · exact h.behind hTidy id client hClient request hRequest entry (hSublist.subset hEntry)

end Acknowledgements

end Router
end SnapEmu.Broker
