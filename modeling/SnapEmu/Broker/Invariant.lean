import SnapEmu.Broker.Directory
import SnapEmu.Broker.Requests

/-! What the steps of the router keep. Every subscription has a request: with
its connection, among those that wait for new messages, or in the hands of the
router. A connection that is not in the queue is woken by something that is
still to come. -/
namespace SnapEmu.Broker

open Mqtt (Str)
open Semantics Exec

/-- The messages in flight from a log are in the order of the log. -/
def Outgoing.Ordered (outgoing : Outgoing) : Prop :=
  outgoing.inflightBuffer.Pairwise fun first second => ∀ cursor cursor', first.2.1 = second.2.1 →
    first.2.2 = some cursor → second.2.2 = some cursor' → cursor.2 < cursor'.2

/-- The request goes on behind the messages in flight from its log. -/
def Outgoing.Behind (outgoing : Outgoing) (request : DataRequest) : Prop :=
  ∀ entry ∈ outgoing.inflightBuffer, ∀ cursor, entry.2.1 = request.filterIdx →
    entry.2.2 = some cursor → cursor.2 < request.cursor.2

/-- The number of requests of a connection for a filter. -/
def countFor (id : ConnectionId) (path : FilterName) (waiters : List Waiter) : Nat :=
  waiters.countP fun waiter => waiter.1 = id ∧ waiter.2.filter = path

@[simp] theorem countFor_nil (id : ConnectionId) (path : FilterName) : countFor id path [] = 0 :=
  rfl

@[simp] theorem countFor_cons (id : ConnectionId) (path : FilterName) (waiter : Waiter)
    (waiters : List Waiter) : countFor id path (waiter :: waiters) =
      countFor id path waiters + if waiter.1 = id ∧ waiter.2.filter = path then 1 else 0 := by
  rw [countFor, List.countP_cons]
  simp [countFor]

@[simp] theorem countFor_append (id : ConnectionId) (path : FilterName)
    (first second : List Waiter) :
    countFor id path (first ++ second) = countFor id path first + countFor id path second :=
  List.countP_append

theorem countFor_perm (id : ConnectionId) (path : FilterName) {first second : List Waiter}
    (h : first.Perm second) : countFor id path first = countFor id path second := h.countP_eq _

/-- A client that does not wait counts for nothing. -/
theorem countFor_eq_zero {id : ConnectionId} {path : FilterName} {waiters : List Waiter}
    (h : ∀ waiter ∈ waiters, waiter.1 ≠ id) : countFor id path waiters = 0 := by
  refine List.countP_eq_zero.mpr fun waiter hWaiter => ?_
  simp [h waiter hWaiter]

/-- The requests of a connection itself are counted by their filter. -/
theorem countFor_own (id : ConnectionId) (path : FilterName) (requests : List DataRequest) :
    countFor id path (requests.map fun request => (id, request)) =
      requests.countP fun request => request.filter = path := by
  rw [countFor, List.countP_map]
  exact List.countP_congr fun request _ => by simp

namespace Client

/-- The number of requests for a filter, with those outside of the connection. -/
def tally (client : Client) (id : ConnectionId) (path : FilterName) (pending : List Waiter) : Nat :=
  client.tracker.dataRequests.countP (fun request => request.filter = path) +
    countFor id path pending

/-- Each filter has a request. If no filter is given up behind a message of the
same batch, it has one only, and there are no others. -/
def Served (tidy : Prop) (client : Client) (id : ConnectionId) (pending : List Waiter) : Prop :=
  ∀ path, (path ∈ client.connection.subscriptions → 1 ≤ client.tally id path pending) ∧
    (tidy → client.tally id path pending ≤ 1 ∧
      (path ∉ client.connection.subscriptions → client.tally id path pending = 0))

/-- The parts of a connection fit together and to the logs. -/
structure Sound (tidy : Prop) (client : Client) (datalog : DataLog)
    (histories : FilterIdx → List PublishData) : Prop where
  named : client.outgoing.clientId = client.connection.clientId
  tracked : client.tracker.id = client.connection.clientId
  window : ∃ sent, client.outgoing.Window sent
  requests : ∀ request ∈ client.tracker.dataRequests, request.Sound datalog histories
  inflight : ∀ entry ∈ client.outgoing.inflightBuffer, ∀ cursor, entry.2.2 = some cursor →
    datalog.Placed histories entry.2.1 cursor ∧ cursor.2 < (histories entry.2.1).length
  ordered : tidy → client.outgoing.Ordered
  aliases : ∀ topicAlias topic, client.connection.topicAliases topicAlias = some topic →
    Cuttable topic
  recorded : ∀ entry ∈ client.acks.recorded, Cuttable entry.1.topic

/-- A connection that is ready is in the queue. One that is not has nothing to
ask for, or as many messages in flight as it may have, or its link has been told
to ask for more. -/
structure Scheduled (client : Client) (queued owed : Prop) : Prop where
  ready : client.tracker.status = .Ready → queued
  caughtup : client.tracker.status = .Paused .Caughtup → client.tracker.dataRequests = []
  full : client.tracker.status = .Paused .InflightFull →
    client.outgoing.inflightBuffer.length = maxInflight
  busy : client.tracker.status = .Paused .Busy →
    Notification.Unschedule ∈ client.outgoing.dataBuffer ∨ owed

variable {tidy : Prop} {client client' : Client} {datalog datalog' : DataLog}
  {histories histories' : FilterIdx → List PublishData}

/-- A client stays sound while the logs grow. -/
theorem Sound.mono (h : client.Sound tidy datalog histories)
    (hGrows : datalog.Grows histories datalog' histories') :
    client.Sound tidy datalog' histories' where
  named := h.named
  tracked := h.tracked
  window := h.window
  requests request hRequest := (h.requests request hRequest).mono hGrows
  inflight entry hEntry cursor hCursor := by
    obtain ⟨hPlaced, hLess⟩ := h.inflight entry hEntry cursor hCursor
    exact ⟨hGrows.placed _ _ hPlaced, hLess.trans_le (hGrows.length _)⟩
  ordered := h.ordered
  aliases := h.aliases
  recorded := h.recorded

/-- Whether a client is served is a matter of its subscriptions and its tally. -/
theorem Served.congr {id : ConnectionId} {pending pending' : List Waiter}
    (h : client.Served tidy id pending)
    (hSame : client'.connection.subscriptions = client.connection.subscriptions)
    (hTally : ∀ path, client'.tally id path pending' = client.tally id path pending) :
    client'.Served tidy id pending' := by
  intro path
  rw [hTally, hSame]
  exact h path

/-- The order of the waiters does not matter to whether a client is served. -/
theorem Served.perm {id : ConnectionId} {pending pending' : List Waiter}
    (h : client.Served tidy id pending) (hPerm : pending'.Perm pending) :
    client.Served tidy id pending' :=
  h.congr rfl fun path => by rw [tally, tally, countFor_perm id path hPerm]

end Client

/-- What is kept of a session can be taken up again. -/
structure SessionState.Sound (tidy : Prop) (session : SessionState) (clientId : ClientId)
    (datalog : DataLog) (histories : FilterIdx → List PublishData) : Prop where
  tracked : session.tracker.id = clientId
  paused : session.tracker.status = .Paused .Busy
  requests : ∀ request ∈ session.tracker.dataRequests, request.Sound datalog histories
  served : ∀ path, (path ∈ session.subscriptions →
      1 ≤ session.tracker.dataRequests.countP fun request => request.filter = path) ∧
    (tidy → (session.tracker.dataRequests.countP fun request => request.filter = path) ≤ 1 ∧
      (path ∉ session.subscriptions →
        (session.tracker.dataRequests.countP fun request => request.filter = path) = 0))

/-- A session stays sound while the logs grow. -/
theorem SessionState.Sound.mono {tidy : Prop} {session : SessionState} {clientId : ClientId}
    {datalog datalog' : DataLog} {histories histories' : FilterIdx → List PublishData}
    (h : session.Sound tidy clientId datalog histories)
    (hGrows : datalog.Grows histories datalog' histories') :
    session.Sound tidy clientId datalog' histories' :=
  ⟨h.tracked, h.paused, fun request hRequest => (h.requests request hRequest).mono hGrows, h.served⟩

namespace Router

/-- The requests that wait, and those in the hands of the router. -/
def pending (router : Router) (held : List Waiter) : List Waiter :=
  router.datalog.allWaiters ++ router.notifications ++ held

structure Sound (tidy : Prop) (router : Router) (histories : FilterIdx → List PublishData)
    (held : List Waiter) : Prop where
  datalog : router.datalog.Steady histories
  clients : ∀ id client, router.clients.get? id = some client →
    client.Sound tidy router.datalog histories
  requests : ∀ waiter ∈ router.notifications ++ held, waiter.2.Sound router.datalog histories
  live : ∀ waiter ∈ router.pending held, ∃ client, router.clients.get? waiter.1 = some client
  served : ∀ id client, router.clients.get? id = some client →
    client.Served tidy id (router.pending held)
  behind : tidy → ∀ id client, router.clients.get? id = some client → ∀ request,
    request ∈ client.tracker.dataRequests ∨ (id, request) ∈ router.pending held →
      client.outgoing.Behind request
  directory : Directory router.clients router.connectionMap router.config.maxConnections
  saved : ∀ clientId session, router.graveyard clientId = some session →
    session.Sound tidy clientId router.datalog histories
  wills : ∀ clientId will, router.lastWills clientId = some will → Cuttable will.1.topic

/-- The connections but one are scheduled; `owed` are those whose link is to
ask for more. -/
def Scheduled (router : Router) (owed : List ConnectionId) (spared : Option ConnectionId) : Prop :=
  ∀ id client, router.clients.get? id = some client → spared ≠ some id →
    client.Scheduled (id ∈ router.readyqueue) (id ∈ owed)

/-- What holds of the router while it has some requests in its hands. -/
def Inv (tidy : Prop) (owed : List ConnectionId) (router : Router) (held : List Waiter)
    (spared : Option ConnectionId) : Prop :=
  (∃ histories, router.Sound tidy histories held) ∧ router.Scheduled owed spared

section Change

/-- One connection changed, and nothing else but the queue and what is known
about groups and subscriptions. -/
structure OneChanged (router router' : Router) (id : ConnectionId) (client' : Client) : Prop where
  get? : ∀ key, router'.clients.get? key =
    if key = id then some client' else router.clients.get? key
  count : router'.clients.count = router.clients.count
  datalog : router'.datalog = router.datalog
  notifications : router'.notifications = router.notifications
  connectionMap : router'.connectionMap = router.connectionMap
  graveyard : router'.graveyard = router.graveyard
  lastWills : router'.lastWills = router.lastWills
  config : router'.config = router.config

variable {tidy : Prop} {router router' : Router} {id : ConnectionId} {client client' : Client}
  {histories : FilterIdx → List PublishData} {held held' : List Waiter}
  {owed : List ConnectionId} {spared : Option ConnectionId}

theorem client_eq (h : router.clients.get? id = some client) : router.client id = ok client := by
  rw [Router.client, h]

/-- A change of one client leaves the others. -/
theorem oneChanged (h : router.clients.get? id = some client) (change : Client → Client)
    (queue : List ConnectionId) (subscriptions : List (FilterName × ConnectionId))
    (groups : List (Str × SharedGroup)) :
    router.OneChanged
      { router.modifyClient id change with
        readyqueue := queue
        subscriptionMap := subscriptions
        sharedSubscriptions := groups } id (change client) where
  get? key := by
    refine (Slab.get?_modify _ _ _ _).trans ?_
    by_cases hHere : key = id
    · rw [if_pos hHere, if_pos hHere, hHere, h, Option.map_some]
    · rw [if_neg hHere, if_neg hHere]
  count := Slab.count_modify _ _ _
  datalog := rfl
  notifications := rfl
  connectionMap := rfl
  graveyard := rfl
  lastWills := rfl
  config := rfl

/-- The same connections are there. -/
def SameKeys (router router' : Router) : Prop :=
  ∀ key, (router'.clients.get? key).isSome = (router.clients.get? key).isSome

theorem SameKeys.trans {first second third : Router} (h : first.SameKeys second)
    (h' : second.SameKeys third) : first.SameKeys third := fun key => (h' key).trans (h key)

/-- A client from before is there. -/
theorem SameKeys.live (h : router.SameKeys router')
    (hClient : router.clients.get? id = some client) :
    ∃ client', router'.clients.get? id = some client' := by
  refine Option.isSome_iff_exists.mp ?_
  rw [h, hClient]
  rfl

/-- A change of one client keeps all clients. -/
theorem OneChanged.sameKeys (h : router.OneChanged router' id client')
    (hClient : router.clients.get? id = some client) : router.SameKeys router' := by
  intro key
  rw [h.get?]
  split_ifs with hHere
  · rw [hHere, hClient]
    rfl
  · rfl

theorem OneChanged.get?_self (h : router.OneChanged router' id client') :
    router'.clients.get? id = some client' := (h.get? id).trans (if_pos rfl)

theorem OneChanged.pending (h : router.OneChanged router' id client') (held : List Waiter) :
    router'.pending held = router.pending held := by
  rw [Router.pending, Router.pending, h.datalog, h.notifications]

/-- A change of one connection and of the requests held for it. -/
theorem Sound.change (h : router.Sound tidy histories held)
    (hClient : router.clients.get? id = some client) (hOne : router.OneChanged router' id client')
    (hSound : client'.Sound tidy router.datalog histories)
    (hName : client'.connection.clientId = client.connection.clientId)
    (hHeld : ∀ waiter ∈ held', waiter ∈ held ∨
      waiter.1 = id ∧ waiter.2.Sound router.datalog histories)
    (hOthers : ∀ other, other ≠ id → ∀ path, countFor other path held' = countFor other path held)
    (hServed : client'.Served tidy id (router.pending held'))
    (hBehind : tidy → ∀ request, request ∈ client'.tracker.dataRequests ∨
      (id, request) ∈ router.pending held' → client'.outgoing.Behind request) :
    router'.Sound tidy histories held' := by
  have hOther : ∀ key, key ≠ id → router'.clients.get? key = router.clients.get? key :=
    fun key hKey => (hOne.get? key).trans (if_neg hKey)
  have hSelf : router'.clients.get? id = some client' := (hOne.get? id).trans (if_pos rfl)
  have hOld : ∀ waiter ∈ router.pending held', waiter ∈ router.pending held ∨ waiter.1 = id := by
    intro waiter hWaiter
    rcases List.mem_append.mp hWaiter with hHere | hHeld'
    · exact .inl (List.mem_append_left _ hHere)
    · exact (hHeld waiter hHeld').imp (List.mem_append_right _) And.left
  have hData := hOne.datalog
  refine ⟨hData ▸ h.datalog, fun key other hKey => ?_, fun waiter hWaiter => ?_,
    fun waiter hWaiter => ?_, fun key other hKey => ?_,
    fun hTidy key other hKey request hRequest => ?_, ?_,
    fun clientId session hSession => ?_, fun clientId will hWill => ?_⟩
  · rw [hData]
    by_cases hHere : key = id
    · rw [hHere, hSelf, Option.some.injEq] at hKey
      exact hKey ▸ hSound
    · exact h.clients key other (hOther key hHere ▸ hKey)
  · rw [hData]
    rw [hOne.notifications] at hWaiter
    rcases List.mem_append.mp hWaiter with hHere | hHeld'
    · exact h.requests waiter (List.mem_append_left _ hHere)
    · rcases hHeld waiter hHeld' with hOldHeld | ⟨_, hNew⟩
      · exact h.requests waiter (List.mem_append_right _ hOldHeld)
      · exact hNew
  · rw [hOne.pending] at hWaiter
    by_cases hHere : waiter.1 = id
    · exact ⟨client', hHere ▸ hSelf⟩
    · obtain ⟨other, hKey⟩ := h.live waiter ((hOld waiter hWaiter).resolve_right hHere)
      exact ⟨other, (hOther _ hHere).trans hKey⟩
  · rw [hOne.pending]
    by_cases hHere : key = id
    · subst hHere
      rw [hSelf, Option.some.injEq] at hKey
      exact hKey ▸ hServed
    · refine (h.served key other (hOther key hHere ▸ hKey)).congr rfl fun path => ?_
      unfold Client.tally Router.pending
      simp only [countFor_append, hOthers key hHere]
  · rw [hOne.pending] at hRequest
    by_cases hHere : key = id
    · subst hHere
      rw [hSelf, Option.some.injEq] at hKey
      exact hKey ▸ hBehind hTidy request (hKey ▸ hRequest)
    · refine h.behind hTidy key other (hOther key hHere ▸ hKey) request (hRequest.imp_right ?_)
      exact fun hWaiter => (hOld _ hWaiter).resolve_right hHere
  · rw [hOne.connectionMap, hOne.config]
    refine h.directory.congr (fun key => ?_) hOne.count
    by_cases hHere : key = id
    · rw [hHere, hSelf, hClient, Option.map_some, Option.map_some, hName]
    · rw [hOther key hHere]
  · rw [hData]
    exact h.saved clientId session (hOne.graveyard ▸ hSession)
  · exact h.wills clientId will (hOne.lastWills ▸ hWill)

/-- The other connections stay scheduled if they stay in the queue. -/
theorem Scheduled.change
    (h : ∀ key client, router.clients.get? key = some client → key ≠ id → spared ≠ some key →
      client.Scheduled (key ∈ router.readyqueue) (key ∈ owed))
    (hOne : router.OneChanged router' id client')
    (hQueue : ∀ key ≠ id, key ∈ router.readyqueue → key ∈ router'.readyqueue)
    (hHere : spared ≠ some id → client'.Scheduled (id ∈ router'.readyqueue) (id ∈ owed)) :
    router'.Scheduled owed spared := by
  intro key other hKey hSpared
  by_cases hId : key = id
  · subst hId
    have hSelf := (hOne.get? key).trans (if_pos rfl)
    rw [hSelf, Option.some.injEq] at hKey
    exact hKey ▸ hHere hSpared
  · have hOther := (hOne.get? key).trans (if_neg hId)
    have hOld := h key other (hOther ▸ hKey) hId hSpared
    exact { hOld with ready := fun hReady => hQueue key hId (hOld.ready hReady) }

end Change
end Router

/-- A change that leaves requests, messages in flight and subscriptions. -/
structure Client.Touched (client client' : Client) : Prop where
  trackerId : client'.tracker.id = client.tracker.id
  requests : client'.tracker.dataRequests = client.tracker.dataRequests
  clientId : client'.connection.clientId = client.connection.clientId
  subscriptions : client'.connection.subscriptions = client.connection.subscriptions
  owner : client'.outgoing.clientId = client.outgoing.clientId
  inflight : client'.outgoing.inflightBuffer = client.outgoing.inflightBuffer
  lastPkid : client'.outgoing.lastPkid = client.outgoing.lastPkid
  dataBuffer : client.outgoing.dataBuffer ⊆ client'.outgoing.dataBuffer
  aliases : ∀ topicAlias topic, client'.connection.topicAliases topicAlias = some topic →
    client.connection.topicAliases topicAlias = some topic ∨ Cuttable topic
  recorded : ∀ entry ∈ client'.acks.recorded, entry ∈ client.acks.recorded ∨ Cuttable entry.1.topic

/-- The window is about the messages in flight and the last packet identifier. -/
theorem Outgoing.Window.congr {outgoing outgoing' : Outgoing} {sent : Nat}
    (h : outgoing.Window sent) (hInflight : outgoing'.inflightBuffer = outgoing.inflightBuffer)
    (hLast : outgoing'.lastPkid = outgoing.lastPkid) : outgoing'.Window sent :=
  ⟨hLast ▸ h.last, hInflight ▸ h.length, hInflight ▸ h.pkids, hInflight ▸ h.bound⟩

namespace Client

variable {tidy : Prop} {client client' : Client} {datalog : DataLog}
  {histories : FilterIdx → List PublishData} {queued owed : Prop}

/-- A client that is touched stays sound. -/
theorem Touched.sound (h : client.Touched client') (hSound : client.Sound tidy datalog histories) :
    client'.Sound tidy datalog histories where
  named := h.owner.trans (hSound.named.trans h.clientId.symm)
  tracked := by rw [h.trackerId, h.clientId, hSound.tracked]
  window := by
    obtain ⟨sent, hWindow⟩ := hSound.window
    exact ⟨sent, hWindow.congr h.inflight h.lastPkid⟩
  requests := h.requests ▸ hSound.requests
  inflight := h.inflight ▸ hSound.inflight
  ordered hTidy := by
    have hOrdered := hSound.ordered hTidy
    rw [Outgoing.Ordered] at hOrdered ⊢
    rw [h.inflight]
    exact hOrdered
  aliases topicAlias topic hTopic :=
    (h.aliases topicAlias topic hTopic).elim (hSound.aliases topicAlias topic) id
  recorded entry hEntry := (h.recorded entry hEntry).elim (hSound.recorded entry) id

/-- A client that is touched stays scheduled. -/
theorem Touched.scheduled (h : client.Touched client') (hScheduled : client.Scheduled queued owed)
    (hStatus : client'.tracker.status = client.tracker.status) :
    client'.Scheduled queued owed where
  ready hReady := hScheduled.ready (hStatus ▸ hReady)
  caughtup hCaughtup := h.requests.symm ▸ hScheduled.caughtup (hStatus ▸ hCaughtup)
  full hFull := h.inflight.symm ▸ hScheduled.full (hStatus ▸ hFull)
  busy hBusy := (hScheduled.busy (hStatus ▸ hBusy)).imp_left fun hMem => h.dataBuffer hMem

/-- What is in flight stays behind the request of a client that is touched. -/
theorem Touched.behind (h : client.Touched client') {request : DataRequest}
    (hBehind : client.outgoing.Behind request) : client'.outgoing.Behind request := by
  unfold Outgoing.Behind
  rw [h.inflight]
  exact hBehind

theorem Touched.refl (client : Client) : client.Touched client :=
  ⟨rfl, rfl, rfl, rfl, rfl, rfl, rfl, List.Subset.refl _, fun _ _ => .inl, fun _ => .inl⟩

end Client

namespace Router

variable {tidy : Prop} {router router' : Router} {id : ConnectionId} {client client' : Client}
  {histories : FilterIdx → List PublishData} {held held' : List Waiter}
  {request : DataRequest} {requests : List DataRequest} {owed : List ConnectionId}
  {spared : Option ConnectionId}

/-- A router with a client that is touched stays sound. -/
theorem Sound.touch (h : router.Sound tidy histories held)
    (hClient : router.clients.get? id = some client) (hOne : router.OneChanged router' id client')
    (hTouched : client.Touched client') : router'.Sound tidy histories held := by
  refine h.change hClient hOne (hTouched.sound (h.clients id client hClient)) hTouched.clientId
    (fun _ => .inl) (fun _ _ _ => rfl) ?_ fun hTidy request hRequest => ?_
  · refine (h.served id client hClient).congr hTouched.subscriptions fun path => ?_
    unfold Client.tally
    rw [hTouched.requests]
  · rw [hTouched.requests] at hRequest
    exact hTouched.behind (h.behind hTidy id client hClient request hRequest)

/-- A router with a client that is touched stays scheduled. -/
theorem Scheduled.touch (h : router.Scheduled owed spared)
    (hClient : router.clients.get? id = some client) (hOne : router.OneChanged router' id client')
    (hQueue : router'.readyqueue = router.readyqueue) (hTouched : client.Touched client')
    (hStatus : client'.tracker.status = client.tracker.status) : router'.Scheduled owed spared := by
  refine Scheduled.change (fun key other hKey _ hSpared => h key other hKey hSpared) hOne
    (fun key _ hReady => hQueue.symm ▸ hReady) fun hSpared => ?_
  rw [hQueue]
  exact hTouched.scheduled (h id client hClient hSpared) hStatus

/-- A change that leaves requests, messages in flight and subscriptions. -/
theorem Inv.touch (h : router.Inv tidy owed held spared)
    (hClient : router.clients.get? id = some client) (hOne : router.OneChanged router' id client')
    (hQueue : router'.readyqueue = router.readyqueue) (hTouched : client.Touched client')
    (hStatus : client'.tracker.status = client.tracker.status) :
    router'.Inv tidy owed held spared := by
  obtain ⟨⟨histories, hSound⟩, hScheduled⟩ := h
  exact ⟨⟨histories, hSound.touch hClient hOne hTouched⟩,
    hScheduled.touch hClient hOne hQueue hTouched hStatus⟩

/-- A change of the acknowledgements and the like. -/
theorem Inv.modifyClient (h : router.Inv tidy owed held spared)
    (hClient : router.clients.get? id = some client) {change : Client → Client}
    (hTouched : client.Touched (change client))
    (hStatus : (change client).tracker.status = client.tracker.status) :
    (router.modifyClient id change).Inv tidy owed held spared ∧
      (router.modifyClient id change).clients.get? id = some (change client) := by
  have hOne := oneChanged hClient change router.readyqueue router.subscriptionMap
    router.sharedSubscriptions
  exact ⟨h.touch hClient hOne rfl hTouched hStatus, (hOne.get? id).trans (if_pos rfl)⟩

section Schedule

/-- What the reason is enough to schedule. -/
structure Wakeable (client : Client) (reason : ScheduleReason) (queued owed : Prop) : Prop where
  ready : client.tracker.status = .Ready → queued
  full : client.tracker.status = .Paused .InflightFull → Tracker.wakes reason .InflightFull = true ∨
    client.outgoing.inflightBuffer.length = maxInflight
  busy : client.tracker.status = .Paused .Busy → Tracker.wakes reason .Busy = true ∨
    Notification.Unschedule ∈ client.outgoing.dataBuffer ∨ owed

theorem wakes_caughtup (reason : ScheduleReason) : Tracker.wakes reason .Caughtup = true := by
  cases reason <;> rfl

theorem wakeable_of_scheduled {queued owed : Prop} (h : client.Scheduled queued owed)
    (reason : ScheduleReason) : Wakeable client reason queued owed :=
  ⟨h.ready, fun hFull => .inr (h.full hFull), fun hBusy => .inr (h.busy hBusy)⟩

theorem oneChanged_refl (h : router.clients.get? id = some client) :
    router.OneChanged router id client where
  get? key := by
    split_ifs with hHere
    · rw [hHere, h]
    · rfl
  count := rfl
  datalog := rfl
  notifications := rfl
  connectionMap := rfl
  graveyard := rfl
  lastWills := rfl
  config := rfl

/-- What keeps a connection from going on is ended by the reason, or is still
there. -/
theorem reschedule_eq (owed : List ConnectionId) (hClient : router.clients.get? id = some client)
    (reason : ScheduleReason) :
    ∃ router' client', router.reschedule id reason = ok router' ∧
      router.OneChanged router' id client' ∧ client.Touched client' ∧
      router.readyqueue ⊆ router'.readyqueue ∧
      (Wakeable client reason (id ∈ router.readyqueue) (id ∈ owed) →
        client'.Scheduled (id ∈ router'.readyqueue) (id ∈ owed)) := by
  rw [reschedule, client_eq hClient, ok_bind]
  cases hStatus : client.tracker.status with
  | Ready =>
      rw [Tracker.tryReady, hStatus]
      refine ⟨router, client, rfl, oneChanged_refl hClient, .refl _, List.Subset.refl _,
        fun hWake => ⟨hWake.ready, ?_, ?_, ?_⟩⟩
      all_goals
        intro hOther
        rw [hStatus] at hOther
        cases hOther
  | Paused previous =>
      rw [Tracker.tryReady, hStatus]
      dsimp only
      cases hWakes : Tracker.wakes reason previous with
      | true =>
          rw [if_pos rfl]
          refine ⟨_, _, rfl, oneChanged hClient _ (router.readyqueue ++ [id]) _ _,
            ⟨rfl, rfl, rfl, rfl, rfl, rfl, rfl, List.Subset.refl _, fun _ _ => .inl,
              fun _ => .inl⟩, List.subset_append_left _ _, fun _ => ⟨?_, ?_, ?_, ?_⟩⟩
          · exact fun _ => List.mem_append_right _ List.mem_cons_self
          all_goals
            intro hOther
            cases hOther
      | false =>
          rw [if_neg Bool.false_ne_true]
          refine ⟨router, client, rfl, oneChanged_refl hClient, .refl _, List.Subset.refl _,
            fun hWake => ⟨hWake.ready, fun hCaughtup => ?_, fun hFull => ?_, fun hBusy => ?_⟩⟩
          · rw [hStatus] at hCaughtup
            cases hCaughtup
            rw [wakes_caughtup] at hWakes
            cases hWakes
          · refine (hWake.full hFull).resolve_left ?_
            rw [hStatus] at hFull
            cases hFull
            rw [hWakes]
            exact Bool.false_ne_true
          · refine (hWake.busy hBusy).resolve_left ?_
            rw [hStatus] at hBusy
            cases hBusy
            rw [hWakes]
            exact Bool.false_ne_true

/-- A connection is scheduled behind a reason to go on. -/
theorem reschedule_inv (hSound : router.Sound tidy histories held)
    (hOthers : ∀ key client, router.clients.get? key = some client → key ≠ id → spared ≠ some key →
      client.Scheduled (key ∈ router.readyqueue) (key ∈ owed))
    (hClient : router.clients.get? id = some client) (reason : ScheduleReason)
    (hWake : spared ≠ some id → Wakeable client reason (id ∈ router.readyqueue) (id ∈ owed)) :
    ∃ router' client', router.reschedule id reason = ok router' ∧
      router'.Inv tidy owed held spared ∧ router.OneChanged router' id client' ∧
      client.Touched client' := by
  obtain ⟨router', client', hResult, hOne, hTouched, hQueue, hHere⟩ :=
    reschedule_eq owed hClient reason
  exact ⟨router', client', hResult, ⟨⟨histories, hSound.touch hClient hOne hTouched⟩,
    Scheduled.change hOthers hOne (fun key _ hKey => hQueue hKey)
      fun hSpared => hHere (hWake hSpared)⟩, hOne, hTouched⟩

/-- The same if the connection is scheduled already. -/
theorem Inv.reschedule (h : router.Inv tidy owed held spared)
    (hClient : router.clients.get? id = some client) (reason : ScheduleReason) :
    ∃ router' client', router.reschedule id reason = ok router' ∧
      router'.Inv tidy owed held spared ∧ router.OneChanged router' id client' ∧
      client.Touched client' := by
  obtain ⟨⟨histories, hSound⟩, hScheduled⟩ := h
  exact reschedule_inv hSound (fun key other hKey _ hSpared => hScheduled key other hKey hSpared)
    hClient reason fun hSpared =>
      wakeable_of_scheduled (hScheduled id client hClient hSpared) reason

end Schedule

section Requests

/-- Requests go from the router to their connection and back. -/
theorem Sound.move (h : router.Sound tidy histories held)
    (hClient : router.clients.get? id = some client) {requests : List DataRequest}
    {status : Status} (hOne : router.OneChanged router' id
      { client with
        tracker := { id := client.tracker.id, dataRequests := requests, status := status } })
    (hPerm : (requests.map (fun request => (id, request)) ++ held').Perm
      (client.tracker.dataRequests.map (fun request => (id, request)) ++ held)) :
    router'.Sound tidy histories held' := by
  have hOld := h.clients id client hClient
  have hFrom : ∀ waiter ∈ held ++ client.tracker.dataRequests.map (fun request => (id, request)),
      waiter.2.Sound router.datalog histories := by
    intro waiter hWaiter
    rcases List.mem_append.mp hWaiter with hHeld | hMine
    · exact h.requests waiter (List.mem_append_right _ hHeld)
    · obtain ⟨request, hRequest, rfl⟩ := List.mem_map.mp hMine
      exact hOld.requests request hRequest
  have hMem : ∀ waiter, waiter ∈ requests.map (fun request => (id, request)) ∨ waiter ∈ held' →
      waiter ∈ client.tracker.dataRequests.map (fun request => (id, request)) ∨ waiter ∈ held := by
    intro waiter hWaiter
    exact List.mem_append.mp (hPerm.mem_iff.mp (List.mem_append.mpr hWaiter))
  refine h.change hClient hOne { hOld with requests := fun request hRequest => ?_ } rfl
    (fun waiter hWaiter => ?_) (fun other hOther path => ?_) ?_ fun hTidy request hRequest => ?_
  · have hNew := hMem (id, request) (.inl (List.mem_map_of_mem hRequest))
    exact hFrom _ (List.mem_append.mpr hNew.symm)
  · rcases hMem waiter (.inr hWaiter) with hMine | hHeld
    · refine .inr ⟨?_, hFrom waiter (List.mem_append_right _ hMine)⟩
      obtain ⟨_, _, rfl⟩ := List.mem_map.mp hMine
      rfl
    · exact .inl hHeld
  · have hNone : ∀ requests : List DataRequest,
        countFor other path (requests.map fun request => (id, request)) = 0 := by
      intro requests
      refine countFor_eq_zero fun waiter hWaiter => ?_
      obtain ⟨_, _, rfl⟩ := List.mem_map.mp hWaiter
      exact Ne.symm hOther
    have hCount := countFor_perm other path hPerm
    rwa [countFor_append, countFor_append, hNone, hNone, Nat.zero_add, Nat.zero_add] at hCount
  · refine (h.served id client hClient).congr rfl fun path => ?_
    have hCount := countFor_perm id path hPerm
    rw [countFor_append, countFor_append, countFor_own, countFor_own] at hCount
    unfold Client.tally Router.pending
    simp only [countFor_append]
    omega
  · refine h.behind hTidy id client hClient request ?_
    have hHere : (id, request) ∈ requests.map (fun request => (id, request)) ∨
        (id, request) ∈ held' ∨
          (id, request) ∈ router.datalog.allWaiters ++ router.notifications := by
      rcases hRequest with hMine | hPending
      · exact .inl (List.mem_map_of_mem hMine)
      · exact .inr (List.mem_append.mp hPending).symm
    rcases hHere with hMine | hHeld | hWaits
    · refine (hMem _ (.inl hMine)).imp (fun hMem => ?_) (List.mem_append_right _)
      obtain ⟨_, hRequest, hSame⟩ := List.mem_map.mp hMem
      exact (Prod.mk.inj hSame).2 ▸ hRequest
    · refine (hMem _ (.inr hHeld)).imp (fun hMem => ?_) (List.mem_append_right _)
      obtain ⟨_, hRequest, hSame⟩ := List.mem_map.mp hMem
      exact (Prod.mk.inj hSame).2 ▸ hRequest
    · exact .inr (List.mem_append_left _ hWaits)

/-- What holds of the other connections after a change of one. -/
theorem Scheduled.others (h : router.Scheduled owed spared)
    (hOne : router.OneChanged router' id client')
    (hQueue : router'.readyqueue = router.readyqueue) :
    ∀ key client, router'.clients.get? key = some client → key ≠ id → spared ≠ some key →
      client.Scheduled (key ∈ router'.readyqueue) (key ∈ owed) := by
  intro key other hKey hId hSpared
  rw [hQueue]
  exact h key other (((hOne.get? key).trans (if_neg hId)) ▸ hKey) hSpared

/-- A request in the hands of the router goes to its connection, which goes on. -/
theorem Inv.track (h : router.Inv tidy owed ((id, request) :: held) spared)
    (reason : ScheduleReason) :
    ∃ router' client', (router.track id request >>= fun router => router.reschedule id reason) =
        ok router' ∧ router'.Inv tidy owed held spared ∧ router'.clients.get? id = some client' ∧
      router'.notifications = router.notifications ∧ router.SameKeys router' := by
  obtain ⟨⟨histories, hSound⟩, hScheduled⟩ := h
  have hPending : (id, request) ∈ router.pending ((id, request) :: held) :=
    List.mem_append_right _ List.mem_cons_self
  obtain ⟨client, hClient⟩ := hSound.live _ hPending
  have hOne := oneChanged hClient
    (fun client => { client with tracker := client.tracker.registerDataRequest request })
    router.readyqueue router.subscriptionMap router.sharedSubscriptions
  have hTracked : (router.modifyClient id fun client =>
      { client with tracker := client.tracker.registerDataRequest request }).Sound tidy histories
        held := by
    refine hSound.move hClient hOne ?_
    rw [List.map_append, List.append_assoc]
    exact List.Perm.refl _
  obtain ⟨router', client', hResult, hInv, hOne', _⟩ := reschedule_inv hTracked
    (hScheduled.others hOne rfl) hOne.get?_self reason fun hSpared => by
      have hOld := hScheduled id client hClient hSpared
      exact ⟨hOld.ready, fun hFull => .inr (hOld.full hFull), fun hBusy => .inr (hOld.busy hBusy)⟩
  refine ⟨router', client', ?_, hInv, hOne'.get?_self, hOne'.notifications,
    (hOne.sameKeys hClient).trans (hOne'.sameKeys hOne.get?_self)⟩
  rw [Router.track, client_eq hClient, ok_bind, ok_bind, hResult]

/-- The logs grow, and requests go from hand to hand. -/
theorem Sound.grow (h : router.Sound tidy histories held) {datalog : DataLog}
    {histories' : FilterIdx → List PublishData} {notifications : List Waiter}
    (hSteady : datalog.Steady histories')
    (hGrows : router.datalog.Grows histories datalog histories')
    (hRequests : ∀ waiter ∈ notifications ++ held', waiter.2.Sound datalog histories')
    (hPerm : (datalog.allWaiters ++ notifications ++ held').Perm (router.pending held)) :
    { router with datalog := datalog, notifications := notifications }.Sound tidy histories'
      held' where
  datalog := hSteady
  clients key other hKey := (h.clients key other hKey).mono hGrows
  requests := hRequests
  live waiter hWaiter := h.live waiter (hPerm.mem_iff.mp hWaiter)
  served key other hKey := by
    refine (h.served key other hKey).congr rfl fun path => ?_
    have hCount := countFor_perm key path hPerm
    unfold Client.tally
    exact congrArg _ hCount
  behind hTidy key other hKey request hRequest :=
    h.behind hTidy key other hKey request (hRequest.imp_right hPerm.mem_iff.mp)
  directory := h.directory
  saved clientId session hSession := (h.saved clientId session hSession).mono hGrows
  wills := h.wills

/-- Waiters may be moved between those held and those notified. -/
theorem Inv.regroup (h : router.Inv tidy owed held spared) {notifications : List Waiter}
    (hPerm : (notifications ++ held').Perm (router.notifications ++ held)) :
    { router with notifications := notifications }.Inv tidy owed held' spared := by
  obtain ⟨⟨histories, hSound⟩, hScheduled⟩ := h
  refine ⟨⟨histories, hSound.grow hSound.datalog (.refl _ _) (fun waiter hWaiter => ?_) ?_⟩,
    hScheduled⟩
  · exact hSound.requests waiter (hPerm.mem_iff.mp hWaiter)
  · rw [Router.pending, List.append_assoc, List.append_assoc]
    exact hPerm.append_left _

/-- Waking those who are held keeps the invariant. -/
theorem Inv.wake {waiters : List Waiter} (h : router.Inv tidy owed (waiters ++ held) spared) :
    ∃ router', Router.wake waiters router = ok router' ∧ router'.Inv tidy owed held spared ∧
      router'.notifications = router.notifications ∧ router.SameKeys router' := by
  induction waiters generalizing router with
  | nil => exact ⟨router, rfl, h, rfl, fun _ => rfl⟩
  | cons waiter waiters ih =>
      obtain ⟨next, _, hTrack, hNext, _, hNotifications, hKeys⟩ := h.track .FreshData
      obtain ⟨router', hWake, hInv, hSame, hKeys'⟩ := ih hNext
      refine ⟨router', ?_, hInv, hSame.trans hNotifications, hKeys.trans hKeys'⟩
      obtain ⟨tracked, hTracked, hReschedule⟩ := bind_eq_ok.mp hTrack
      rw [Router.wake, hTracked, ok_bind, hReschedule, ok_bind, hWake]

/-- All that waited for new messages goes on. -/
theorem Inv.wakeAll (h : router.Inv tidy owed held spared) :
    ∃ router', router.wakeAll = ok router' ∧ router'.Inv tidy owed held spared ∧
      router'.notifications = [] ∧ router.SameKeys router' :=
  have hRegrouped : { router with notifications := [] }.Inv tidy owed (router.notifications ++ held)
      spared := h.regroup (.refl _)
  hRegrouped.wake

/-- The requests of a sweep go back to their connection. -/
theorem Inv.trackv (h : router.Inv tidy owed
      (requests.map (fun request => (id, request)) ++ held) spared)
    (hClient : router.clients.get? id = some client)
    (hCaughtup : client.tracker.status = .Paused .Caughtup → requests = []) :
    ∃ router', router.trackv id requests = ok router' ∧ router'.Inv tidy owed held spared ∧
      router'.notifications = router.notifications ∧ router.SameKeys router' := by
  obtain ⟨⟨histories, hSound⟩, hScheduled⟩ := h
  have hOne := oneChanged hClient
    (fun client => { client with
      tracker := { client.tracker with
        dataRequests := client.tracker.dataRequests ++ requests } })
    router.readyqueue router.subscriptionMap router.sharedSubscriptions
  refine ⟨_, ?_, ⟨⟨histories, hSound.move hClient hOne ?_⟩, ?_⟩, hOne.notifications,
    hOne.sameKeys hClient⟩
  · rw [Router.trackv, client_eq hClient, ok_bind]
    rfl
  · rw [List.map_append, List.append_assoc]
  · refine Scheduled.change (fun key other hKey _ hSpared => hScheduled key other hKey hSpared) hOne
      (fun _ _ hKey => hKey) fun hSpared => ?_
    have hOld := hScheduled id client hClient hSpared
    refine ⟨hOld.ready, fun hStatus => ?_, hOld.full, hOld.busy⟩
    change client.tracker.dataRequests ++ requests = []
    rw [hOld.caughtup hStatus, hCaughtup hStatus]
    rfl

end Requests
end Router
end SnapEmu.Broker
