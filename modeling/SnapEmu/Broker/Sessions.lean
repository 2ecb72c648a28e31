import SnapEmu.Broker.Batches

/-! Connections that come and go. What a session leaves behind starts again with
the oldest message that is still in flight. -/
namespace SnapEmu.Broker

open Mqtt (Str)
open Semantics Exec

namespace Router

variable {tidy : Prop} {router router' : Router} {id : ConnectionId} {client client' : Client}
  {histories : FilterIdx → List PublishData} {held : List Waiter}
  {owed : List ConnectionId} {spared : Option ConnectionId}

section Leaving

/-- A request that starts again with the oldest message in flight, if any. -/
def restarted (retransmissions : FilterIdx → Option Cursor) (request : DataRequest) :
    DataRequest :=
  { request with cursor := (retransmissions request.filterIdx).getD request.cursor }

/-- Requests of no group are reset each for itself. -/
theorem resetRequests_eq (retransmissions : FilterIdx → Option Cursor)
    (groups : List (Str × SharedGroup)) {requests : List DataRequest}
    (hAlone : ∀ request ∈ requests, request.group = none) :
    resetRequests retransmissions groups requests =
      ok (groups, requests.map (restarted retransmissions)) := by
  induction requests with
  | nil => rfl
  | cons request requests ih =>
      have hFirst : resetRequest retransmissions groups request =
          ok (groups, restarted retransmissions request) := by
        rw [resetRequest, restarted]
        cases retransmissions request.filterIdx with
        | none => rfl
        | some cursor => rw [hAlone request List.mem_cons_self]; rfl
      have hRest := ih fun other hOther => hAlone other (List.mem_cons_of_mem _ hOther)
      rw [resetRequests, hFirst, ok_bind]
      exact congrArg (· >>= _) hRest

/-- What is retransmitted first of a log is in flight. -/
theorem mem_of_retransmissionMap {outgoing : Outgoing} {idx : FilterIdx} {cursor : Cursor}
    (h : outgoing.retransmissionMap idx = some cursor) :
    ∃ entry ∈ outgoing.inflightBuffer, entry.2.1 = idx ∧ entry.2.2 = some cursor := by
  rw [Outgoing.retransmissionMap_eq] at h
  obtain ⟨entry, hEntry, hSome⟩ := List.exists_of_findSome?_eq_some h
  split_ifs at hSome with hLog
  exact ⟨entry, hEntry, hLog, hSome⟩

/-- A request that starts again from what is in flight is sound. -/
theorem restarted_sound {datalog : DataLog} {request : DataRequest}
    (h : request.Sound datalog histories) (hClient : client.Sound tidy datalog histories) :
    (restarted client.outgoing.retransmissionMap request).Sound datalog histories := by
  refine ⟨h.group, h.level, h.known, ?_⟩
  rw [restarted]
  cases hCursor : client.outgoing.retransmissionMap request.filterIdx with
  | none => exact h.placed
  | some cursor =>
      obtain ⟨entry, hEntry, hLog, hSome⟩ := mem_of_retransmissionMap hCursor
      have hPlaced := (hClient.inflight entry hEntry cursor hSome).1
      rw [hLog] at hPlaced
      exact hPlaced

/-- The first message in flight from a log is the oldest. -/
theorem retransmissionMap_le {outgoing : Outgoing} (hOrdered : outgoing.Ordered) {entry : Inflight}
    (hEntry : entry ∈ outgoing.inflightBuffer) {cursor : Cursor}
    (hCursor : entry.2.2 = some cursor) :
    ∃ first, outgoing.retransmissionMap entry.2.1 = some first ∧ first.2 ≤ cursor.2 := by
  rw [Outgoing.retransmissionMap_eq]
  rw [Outgoing.Ordered] at hOrdered
  revert hOrdered hEntry
  generalize outgoing.inflightBuffer = entries
  intro hOrdered hEntry
  induction entries with
  | nil => cases hEntry
  | cons head entries ih =>
      obtain ⟨hHead, hRest⟩ := List.pairwise_cons.mp hOrdered
      rw [List.findSome?_cons]
      by_cases hLog : head.2.1 = entry.2.1
      · rw [if_pos hLog]
        cases hFirst : head.2.2 with
        | some first =>
            refine ⟨first, rfl, ?_⟩
            rcases List.mem_cons.mp hEntry with rfl | hLater
            · rw [hFirst, Option.some.injEq] at hCursor
              rw [hCursor]
            · exact (hHead entry hLater first cursor hLog hFirst hCursor).le
        | none =>
            refine ih hRest ((List.mem_cons.mp hEntry).resolve_left fun hSame => ?_)
            rw [hSame, hFirst] at hCursor
            cases hCursor
      · rw [if_neg hLog]
        refine ih hRest ((List.mem_cons.mp hEntry).resolve_left fun hSame => ?_)
        exact hLog (congrArg (fun known : Inflight => known.2.1) hSame.symm)

/-- No message in flight lies before the place a request starts again from. -/
theorem restarted_le {outgoing : Outgoing} {request : DataRequest} (hOrdered : outgoing.Ordered)
    {entry : Inflight} (hEntry : entry ∈ outgoing.inflightBuffer) {cursor : Cursor}
    (hLog : entry.2.1 = request.filterIdx) (hCursor : entry.2.2 = some cursor) :
    (restarted outgoing.retransmissionMap request).cursor.2 ≤ cursor.2 := by
  obtain ⟨first, hFirst, hLe⟩ := retransmissionMap_le hOrdered hEntry hCursor
  rw [restarted, ← hLog, hFirst]
  exact hLe

/-- A request never starts again after the place it has reached. -/
theorem restarted_le_self {outgoing : Outgoing} {request : DataRequest}
    (hBehind : outgoing.Behind request) :
    (restarted outgoing.retransmissionMap request).cursor.2 ≤ request.cursor.2 := by
  rw [restarted]
  cases hCursor : outgoing.retransmissionMap request.filterIdx with
  | none => exact le_refl _
  | some cursor =>
      obtain ⟨entry, hEntry, hLog, hSome⟩ := mem_of_retransmissionMap hCursor
      exact (hBehind entry hEntry cursor hLog hSome).le

/-- What is kept of a connection that goes. -/
def kept (client : Client) (requests : List DataRequest) : SessionState where
  tracker := { client.tracker with
    dataRequests := requests.map (restarted client.outgoing.retransmissionMap) }.pause .Busy
  subscriptions := client.connection.subscriptions
  unackedPubrels := client.outgoing.unackedPubrels

/-- All requests of the connection, those that wait among them. -/
def requestsOf (router : Router) (id : ConnectionId) (client : Client) : List DataRequest :=
  client.tracker.dataRequests ++ (router.datalog.clean id).2

/-- The router without a connection. -/
def without (router : Router) (id : ConnectionId) (client : Client) : Router :=
  { router with
    clients := router.clients.remove id
    connectionMap := Function.update router.connectionMap client.outgoing.clientId none
    datalog := (router.datalog.clean id).1
    sharedSubscriptions :=
      removeFromGroups router.sharedSubscriptions client.outgoing.clientId
    subscriptionMap := leaveMap router.subscriptionMap id client.connection.subscriptions
    graveyard := Function.update router.graveyard client.tracker.id
      (if client.connection.clean then none else some (kept client (router.requestsOf id client))) }

/-- All requests of a client are sound, those that wait included. -/
theorem Sound.requestsOf_sound (h : router.Sound tidy histories held)
    (hClient : router.clients.get? id = some client) :
    ∀ request ∈ router.requestsOf id client, request.Sound router.datalog histories := by
  intro request hRequest
  refine h.request_sound hClient ((List.mem_append.mp hRequest).imp_right fun hWaits => ?_)
  have hMem := (h.datalog.clean id).2.2.2.mem_iff.mp hWaits
  obtain ⟨waiter, hWaiter, rfl⟩ := List.mem_map.mp hMem
  obtain ⟨hAll, hId⟩ := List.mem_filter.mp hWaiter
  have hSame : waiter.1 = id := of_decide_eq_true hId
  rw [Router.pending, List.append_assoc]
  exact List.mem_append_left _ (hSame ▸ hAll)

/-- The requests of a client are those it has in turn and those that wait. -/
theorem Sound.mem_requestsOf (h : router.Sound tidy histories held) {request : DataRequest}
    (hRequest : request ∈ client.tracker.dataRequests ∨ (id, request) ∈ router.datalog.allWaiters) :
    request ∈ router.requestsOf id client := by
  refine List.mem_append.mpr (hRequest.imp_right fun hWaits => ?_)
  refine (h.datalog.clean id).2.2.2.mem_iff.mpr (List.mem_map.mpr ⟨(id, request), ?_, rfl⟩)
  exact List.mem_filter.mpr ⟨hWaits, decide_eq_true rfl⟩

/-- A disconnection takes the client and keeps its session. -/
theorem Sound.handleDisconnection_eq (h : router.Sound tidy histories held)
    (hClient : router.clients.get? id = some client) :
    router.handleDisconnection id = ok (router.without id client) := by
  rw [Router.handleDisconnection, hClient]
  dsimp only
  rw [buried]
  by_cases hClean : client.connection.clean = true
  · rw [if_pos hClean, ok_bind, without, if_pos hClean]
  · have hAlone : ∀ request ∈ client.tracker.dataRequests ++ (router.datalog.clean id).2,
        request.group = none :=
      fun request hRequest => (h.requestsOf_sound hClient request hRequest).group
    rw [if_neg hClean, resetRequests_eq _ _ hAlone, ok_bind, ok_bind, without, if_neg hClean]
    rfl

/-- A connection that goes takes along all its requests. -/
theorem Sound.count_requestsOf (h : router.Sound tidy histories [])
    (hFresh : router.notifications = []) (path : FilterName) :
    ((router.requestsOf id client).countP fun request => request.filter = path) =
      client.tally id path (router.pending []) := by
  have hWaits := (h.datalog.clean id).2.2.2
  rw [Router.requestsOf, List.countP_append, hWaits.countP_eq, List.countP_map, List.countP_filter,
    Client.tally, Router.pending, hFresh, List.append_nil, List.append_nil]
  refine congrArg _ (List.countP_congr fun waiter _ => ?_)
  simp [and_comm]

/-- The session that is kept is sound. -/
theorem Sound.kept (h : router.Sound tidy histories []) (hFresh : router.notifications = [])
    (hClient : router.clients.get? id = some client) :
    (kept client (router.requestsOf id client)).Sound tidy client.tracker.id router.datalog
      histories := by
  refine ⟨rfl, rfl, fun request hRequest => ?_, fun path => ?_⟩
  · obtain ⟨old, hOld, rfl⟩ := List.mem_map.mp hRequest
    exact restarted_sound (h.requestsOf_sound hClient old hOld) (h.clients id client hClient)
  · have hCount : ((Router.kept client (router.requestsOf id client)).tracker.dataRequests.countP
        fun request => request.filter = path) = client.tally id path (router.pending []) := by
      rw [← h.count_requestsOf hFresh path]
      exact List.countP_map
    rw [hCount]
    exact h.served id client hClient path

/-- Each subscription has one request in the session, which starts behind none of
the messages in flight and not behind the place it was at. -/
theorem Sound.resumed (h : router.Sound True histories []) (hFresh : router.notifications = [])
    (hClient : router.clients.get? id = some client) {path : FilterName}
    (hPath : path ∈ client.connection.subscriptions) :
    ∃ request, (Router.kept client (router.requestsOf id client)).tracker.dataRequests.filter
        (fun request => request.filter = path) = [request] ∧
      (∀ entry ∈ client.outgoing.inflightBuffer, ∀ cursor, entry.2.1 = request.filterIdx →
        entry.2.2 = some cursor → request.cursor.2 ≤ cursor.2) ∧
      ∀ old, old ∈ client.tracker.dataRequests ∨ (id, old) ∈ router.datalog.allWaiters →
        old.filter = path → request.cursor.2 ≤ old.cursor.2 := by
  obtain ⟨hLeast, hMost⟩ := (h.kept hFresh hClient).served path
  have hOne := Nat.le_antisymm (hMost trivial).1 (hLeast hPath)
  rw [List.countP_eq_length_filter, List.length_eq_one_iff] at hOne
  obtain ⟨request, hRequest⟩ := hOne
  have hMine : request ∈ (router.requestsOf id client).map
      (restarted client.outgoing.retransmissionMap) :=
    List.mem_of_mem_filter (hRequest ▸ List.mem_cons_self)
  obtain ⟨source, _, hSource⟩ := List.mem_map.mp hMine
  refine ⟨request, hRequest, fun entry hEntry cursor hLog hCursor => ?_, fun old hOld hFilter => ?_⟩
  · rw [← hSource] at hLog ⊢
    exact restarted_le ((h.clients id client hClient).ordered trivial) hEntry hLog hCursor
  · have hSame : restarted client.outgoing.retransmissionMap old ∈ [request] := by
      rw [← hRequest]
      exact List.mem_filter.mpr
        ⟨List.mem_map_of_mem (h.mem_requestsOf hOld), decide_eq_true hFilter⟩
    rw [← List.mem_singleton.mp hSame]
    refine restarted_le_self
      (h.behind trivial id client hClient old (hOld.imp_right fun hWaits => ?_))
    rw [Router.pending, List.append_assoc]
    exact List.mem_append_left _ hWaits

/-- A router without one of its clients is sound. -/
theorem Sound.without (h : router.Sound tidy histories []) (hFresh : router.notifications = [])
    (hClient : router.clients.get? id = some client) :
    (router.without id client).Sound tidy histories [] := by
  have hOld := h.clients id client hClient
  have hName : client.outgoing.clientId = client.connection.clientId := hOld.named
  obtain ⟨hSteady, hGrows, hWaiters, _⟩ := h.datalog.clean id
  have hGet : ∀ key other, (router.without id client).clients.get? key = some other →
      key ≠ id ∧ router.clients.get? key = some other := by
    intro key other hKey
    refine (ite_eq_iff.mp ((Slab.get?_remove router.clients id key).symm.trans hKey)).elim nofun
      fun hOther => hOther
  have hPending : ((router.without id client).pending []).Perm
      ((router.pending []).filter (·.1 ≠ id)) := by
    change ((router.datalog.clean id).1.allWaiters ++ router.notifications ++ []).Perm
      ((router.datalog.allWaiters ++ router.notifications ++ []).filter _)
    rw [hFresh, List.append_nil, List.append_nil, List.append_nil, List.append_nil]
    exact hWaiters
  refine ⟨hSteady, fun key other hKey => (h.clients key other (hGet key other hKey).2).mono hGrows,
    fun waiter hWaiter => ?_, fun waiter hWaiter => ?_, fun key other hKey => ?_,
    fun hTidy key other hKey request hRequest => ?_, ?_, fun clientId session hSession => ?_,
    h.wills⟩
  · change waiter ∈ router.notifications ++ [] at hWaiter
    rw [hFresh] at hWaiter
    cases hWaiter
  · obtain ⟨hAll, hId⟩ := List.mem_filter.mp (hPending.mem_iff.mp hWaiter)
    obtain ⟨other, hKey⟩ := h.live waiter hAll
    exact ⟨other, (Slab.get?_remove _ _ _).trans ((if_neg (of_decide_eq_true hId)).trans hKey)⟩
  · obtain ⟨hOther, hThere⟩ := hGet key other hKey
    refine (h.served key other hThere).congr rfl fun path => ?_
    rw [Client.tally, Client.tally, countFor_perm key path hPending]
    refine congrArg _ ?_
    rw [countFor, List.countP_filter]
    refine List.countP_congr fun waiter _ => ?_
    by_cases hHere : waiter.1 = key <;> simp [hHere, hOther]
  · obtain ⟨_, hThere⟩ := hGet key other hKey
    refine h.behind hTidy key other hThere request (hRequest.imp_right fun hWaits => ?_)
    exact List.mem_of_mem_filter (hPending.mem_iff.mp hWaits)
  · change Directory _ (Function.update _ client.outgoing.clientId none) _
    rw [hName]
    exact h.directory.remove hClient
  · change Function.update router.graveyard client.tracker.id _ clientId = _ at hSession
    rw [Function.update_apply] at hSession
    split_ifs at hSession with hSame hClean
    · cases hSession
      rw [hSame]
      exact (h.kept hFresh hClient).mono hGrows
    · exact (h.saved clientId session hSession).mono hGrows

/-- A connection that goes, whether it is scheduled or not. -/
theorem Inv.without (h : router.Inv tidy owed [] spared)
    (hSpared : spared = none ∨ spared = some id) (hFresh : router.notifications = [])
    (hClient : router.clients.get? id = some client) :
    (router.without id client).Inv tidy owed [] none := by
  obtain ⟨⟨histories, hSound⟩, hScheduled⟩ := h
  refine ⟨⟨histories, hSound.without hFresh hClient⟩, fun key other hKey _ => ?_⟩
  obtain ⟨hOther, hThere⟩ : key ≠ id ∧ router.clients.get? key = some other :=
    (ite_eq_iff.mp ((Slab.get?_remove router.clients id key).symm.trans hKey)).elim nofun
      fun hOther => hOther
  refine hScheduled key other hThere fun hIs => ?_
  rcases hSpared with rfl | rfl
  · cases hIs
  · exact hOther (Option.some.inj hIs).symm

/-- A disconnection keeps the invariant. -/
theorem Inv.handleDisconnection (h : router.Inv tidy owed [] spared)
    (hSpared : spared = none ∨ spared = some id) (hFresh : router.notifications = []) :
    ∃ router', router.handleDisconnection id = ok router' ∧ router'.Inv tidy owed [] none ∧
      router'.notifications = [] := by
  cases hClient : router.clients.get? id with
  | none =>
      refine ⟨router, ?_, ⟨h.1, fun key client hKey _ => ?_⟩, hFresh⟩
      · rw [Router.handleDisconnection, hClient]
      · refine h.2 key client hKey fun hIs => ?_
        rcases hSpared with rfl | rfl
        · cases hIs
        · rw [(Option.some.inj hIs).symm, hClient] at hKey
          cases hKey
  | some client =>
      obtain ⟨histories, hSound⟩ := h.1
      exact ⟨_, hSound.handleDisconnection_eq hClient, h.without hSpared hFresh hClient, hFresh⟩

end Leaving

section Coming

variable {connection : Connection} {saved : Option SessionState} {datalog : DataLog}

/-- The session that is taken up. -/
def sessionOf (connection : Connection) (saved : Option SessionState) : Option SessionState :=
  if connection.clean then none else saved

/-- The acknowledgements that are recorded again are those that were left. -/
theorem foldl_pubrel_recorded (pkids : List UInt16) (acks : AckLog) :
    (pkids.foldl (fun acks pkid => acks.pubrel { pkid := pkid, reason := .Success })
      acks).recorded = acks.recorded := by
  induction pkids generalizing acks with
  | nil => rfl
  | cons pkid pkids ih => exact ih _

theorem newClient_tracker (connection : Connection) (saved : Option SessionState)
    (id : ConnectionId) :
    (newClient connection saved id).tracker =
      ((sessionOf connection saved).map SessionState.tracker).getD
        (Tracker.new connection.clientId) := rfl

/-- A client that takes up a sound session is sound. -/
theorem newClient_sound (hAliases : ∀ topicAlias, connection.topicAliases topicAlias = none)
    (hSaved : ∀ session, sessionOf connection saved = some session →
      session.Sound tidy connection.clientId datalog histories) (id : ConnectionId) :
    (newClient connection saved id).Sound tidy datalog histories where
  named := rfl
  tracked := by
    rw [newClient_tracker]
    cases hSession : sessionOf connection saved with
    | none => rfl
    | some session => exact (hSaved session hSession).tracked
  window := ⟨0, (Outgoing.window_new connection.clientId).congr rfl rfl⟩
  requests := by
    rw [newClient_tracker]
    cases hSession : sessionOf connection saved with
    | none => exact nofun
    | some session => exact (hSaved session hSession).requests
  inflight := nofun
  ordered _ := .nil
  aliases topicAlias topic hTopic := by
    change connection.topicAliases topicAlias = some topic at hTopic
    rw [hAliases] at hTopic
    cases hTopic
  recorded := by
    intro entry hEntry
    have hNone : (newClient connection saved id).acks.recorded = [] := foldl_pubrel_recorded _ _
    rw [hNone] at hEntry
    cases hEntry

/-- A new connection has the requests of its session and no others. -/
theorem newClient_served (hSubscriptions : connection.subscriptions = [])
    (hSaved : ∀ session, sessionOf connection saved = some session →
      session.Sound tidy connection.clientId datalog histories) {id : ConnectionId}
    {pending : List Waiter} (hPending : ∀ waiter ∈ pending, waiter.1 ≠ id) :
    (newClient connection saved id).Served tidy id pending := by
  intro path
  have hOwn : (newClient connection saved id).connection.subscriptions =
      ((sessionOf connection saved).map SessionState.subscriptions).getD connection.subscriptions :=
    rfl
  rw [Client.tally, countFor_eq_zero hPending, Nat.add_zero, newClient_tracker]
  cases hSession : sessionOf connection saved with
  | none =>
      simp only [hOwn, hSession, hSubscriptions]
      exact ⟨fun hMem => absurd hMem List.not_mem_nil, fun _ => ⟨Nat.zero_le _, fun _ => rfl⟩⟩
  | some session =>
      simp only [hOwn, hSession]
      exact (hSaved session hSession).served path

/-- A new client is busy until it is scheduled. -/
theorem newClient_status
    (hSaved : ∀ session, sessionOf connection saved = some session →
      session.Sound tidy connection.clientId datalog histories) (id : ConnectionId) :
    (newClient connection saved id).tracker.status = .Paused .Busy := by
  rw [newClient_tracker]
  cases hSession : sessionOf connection saved with
  | none => rfl
  | some session => exact (hSaved session hSession).paused

/-- The router with a new connection. -/
def withClient (router : Router) (connection : Connection) : Router :=
  { router with
    graveyard := Function.update router.graveyard connection.clientId none
    lastWills := match connection.lastWill with
      | none => router.lastWills
      | some will => Function.update router.lastWills connection.clientId
          (some (will, connection.lastWillProperties))
    clients := router.clients.insert
      (newClient connection (router.graveyard connection.clientId) router.clients.nextKey)
    connectionMap :=
      Function.update router.connectionMap connection.clientId (some router.clients.nextKey) }

/-- What is asked of a connection that comes. -/
structure Fresh (connection : Connection) : Prop where
  subscriptions : connection.subscriptions = []
  aliases : ∀ topicAlias, connection.topicAliases topicAlias = none
  will : ∀ will, connection.lastWill = some will → Cuttable will.topic

/-- A router with a new client is sound. -/
theorem Sound.withClient (h : router.Sound tidy histories held) (hConnection : Fresh connection)
    (hAlone : router.connectionMap connection.clientId = none)
    (hRoom : router.clients.count < router.config.maxConnections) :
    (router.withClient connection).Sound tidy histories held := by
  have hSaved : ∀ session,
      sessionOf connection (router.graveyard connection.clientId) = some session →
        session.Sound tidy connection.clientId router.datalog histories := by
    intro session hSession
    rw [sessionOf] at hSession
    split_ifs at hSession
    exact h.saved _ session hSession
  have hGet : ∀ key other, (router.withClient connection).clients.get? key = some other →
      key = router.clients.nextKey ∧
          other =
            newClient connection (router.graveyard connection.clientId) router.clients.nextKey ∨
        key ≠ router.clients.nextKey ∧ router.clients.get? key = some other := by
    intro key other hKey
    refine (ite_eq_iff.mp ((Slab.get?_insert router.clients _ key).symm.trans hKey)).imp_left ?_
    rintro ⟨hSame, hOther⟩
    exact ⟨hSame, (Option.some.inj hOther).symm⟩
  have hVacant : ∀ waiter ∈ router.pending held, waiter.1 ≠ router.clients.nextKey := by
    intro waiter hWaiter hSame
    obtain ⟨other, hOther⟩ := h.live waiter hWaiter
    rw [hSame, Slab.get?_nextKey] at hOther
    cases hOther
  have hThere : ∀ key other, router.clients.get? key = some other →
      (router.withClient connection).clients.get? key = some other := by
    intro key other hKey
    refine (Slab.get?_insert _ _ _).trans ((if_neg fun hSame => ?_).trans hKey)
    rw [hSame, Slab.get?_nextKey] at hKey
    cases hKey
  refine ⟨h.datalog, fun key other hKey => ?_, h.requests, fun waiter hWaiter => ?_,
    fun key other hKey => ?_, fun hTidy key other hKey request hRequest => ?_,
    h.directory.insert _ hAlone hRoom, fun clientId session hSession => ?_,
    fun clientId will hWill => ?_⟩
  · rcases hGet key other hKey with ⟨_, rfl⟩ | ⟨_, hOld⟩
    · exact newClient_sound hConnection.aliases hSaved _
    · exact h.clients key other hOld
  · obtain ⟨other, hOther⟩ := h.live waiter hWaiter
    exact ⟨other, hThere _ _ hOther⟩
  · rcases hGet key other hKey with ⟨rfl, rfl⟩ | ⟨_, hOld⟩
    · exact newClient_served hConnection.subscriptions hSaved hVacant
    · exact h.served key other hOld
  · rcases hGet key other hKey with ⟨rfl, rfl⟩ | ⟨_, hOld⟩
    · exact nofun
    · exact h.behind hTidy key other hOld request hRequest
  · change Function.update router.graveyard connection.clientId none clientId = _ at hSession
    rw [Function.update_apply] at hSession
    split_ifs at hSession
    exact h.saved clientId session hSession
  · cases hLast : connection.lastWill with
    | none =>
        rw [Router.withClient, hLast] at hWill
        exact h.wills clientId will hWill
    | some new =>
        rw [Router.withClient, hLast] at hWill
        dsimp only at hWill
        rw [Function.update_apply] at hWill
        split_ifs at hWill
        · cases hWill
          exact hConnection.will new hLast
        · exact h.wills clientId will hWill

/-- A connection that passes all checks is taken in and scheduled. -/
theorem handleNewConnection_eq (hValid : validClientId connection.clientId = true)
    (hAlone : router.connectionMap connection.clientId = none)
    (hRoom : router.clients.count < router.config.maxConnections) :
    router.handleNewConnection connection =
      (router.withClient connection).reschedule router.clients.nextKey .Init := by
  rw [Router.handleNewConnection]
  dsimp only
  rw [hValid, Bool.not_true, if_neg Bool.false_ne_true, hAlone]
  dsimp only
  rw [ok_bind, if_neg (Nat.not_le.mpr hRoom)]
  rfl

/-- A connection that was paused is ready, and last in the queue. -/
theorem reschedule_init (hClient : router.clients.get? id = some client) {reason : PauseReason}
    (hStatus : client.tracker.status = .Paused reason) :
    router.reschedule id .Init = ok
      { router.modifyClient id fun other =>
          { other with tracker := { client.tracker with status := .Ready } } with
        readyqueue := router.readyqueue ++ [id] } := by
  rw [reschedule, client_eq hClient, ok_bind, Tracker.tryReady, hStatus]
  rfl

/-- A client that comes back takes up its session. -/
structure TakenUp (session : SessionState) (router : Router) (id : ConnectionId)
    (client : Client) : Prop where
  there : router.clients.get? id = some client
  mapped : router.connectionMap client.connection.clientId = some id
  queued : id ∈ router.readyqueue
  subscriptions : client.connection.subscriptions = session.subscriptions
  unackedPubrels : client.outgoing.unackedPubrels = session.unackedPubrels
  tracker : client.tracker = { session.tracker with status := .Ready }

/-- A connection that does not start clean takes up the session of its name. -/
theorem handleNewConnection_takesUp (hValid : validClientId connection.clientId = true)
    (hAlone : router.connectionMap connection.clientId = none)
    (hRoom : router.clients.count < router.config.maxConnections)
    (hStays : connection.clean = false) {session : SessionState}
    (hSaved : router.graveyard connection.clientId = some session) {reason : PauseReason}
    (hPaused : session.tracker.status = .Paused reason) :
    ∃ router' id client', router.handleNewConnection connection = ok router' ∧
      client'.connection.clientId = connection.clientId ∧ TakenUp session router' id client' := by
  obtain ⟨new, hNew⟩ : ∃ new, newClient connection (router.graveyard connection.clientId)
      router.clients.nextKey = new := ⟨_, rfl⟩
  have hSession : sessionOf connection (router.graveyard connection.clientId) = some session := by
    rw [sessionOf, hSaved, hStays]
    rfl
  have hTracker : new.tracker = session.tracker := by
    rw [← hNew, newClient_tracker, hSession]
    rfl
  have hThere : (router.withClient connection).clients.get? router.clients.nextKey = some new :=
    (Slab.get?_insert _ _ _).trans ((if_pos rfl).trans (congrArg some hNew))
  have hReady := reschedule_init hThere (hTracker ▸ hPaused)
  refine ⟨_, router.clients.nextKey, { new with tracker := { new.tracker with status := .Ready } },
    (handleNewConnection_eq hValid hAlone hRoom).trans hReady, ?_, ?_, ?_,
    List.mem_append_right _ List.mem_cons_self, ?_, ?_, ?_⟩
  · rw [← hNew]
    rfl
  · refine (Slab.get?_modify _ _ _ _).trans ?_
    rw [if_pos rfl, hThere]
    rfl
  · rw [← hNew]
    exact Function.update_self _ _ _
  · have hOwn : new.connection.subscriptions =
        ((sessionOf connection (router.graveyard connection.clientId)).map
          SessionState.subscriptions).getD connection.subscriptions := hNew ▸ rfl
    rw [hOwn, hSession]
    rfl
  · have hOwn : new.outgoing.unackedPubrels =
        ((sessionOf connection (router.graveyard connection.clientId)).map
          SessionState.unackedPubrels).getD [] := hNew ▸ rfl
    rw [hOwn, hSession]
    rfl
  · dsimp only
    rw [hTracker]

/-- If the client still has a connection, that one goes first. -/
theorem handleNewConnection_replaces (hValid : validClientId connection.clientId = true)
    (hMapped : router.connectionMap connection.clientId = some id)
    (hGone : router.handleDisconnection id = ok router')
    (hAlone : router'.connectionMap connection.clientId = none) :
    router.handleNewConnection connection = router'.handleNewConnection connection := by
  rw [Router.handleNewConnection, Router.handleNewConnection]
  dsimp only
  rw [hValid, Bool.not_true, if_neg Bool.false_ne_true, if_neg Bool.false_ne_true, hMapped, hAlone]
  dsimp only
  rw [hGone, ok_bind]

/-- A connection for which there is room is ready. -/
theorem Inv.letIn (h : router.Inv tidy owed [] none) (hConnection : Fresh connection)
    (hFresh : router.notifications = [])
    (hAlone : router.connectionMap connection.clientId = none) :
    ∃ router', (if router.config.maxConnections ≤ router.clients.count then ok router
        else (router.withClient connection).reschedule router.clients.nextKey .Init) =
      ok router' ∧ router'.Inv tidy owed [] none ∧ router'.notifications = [] := by
  split_ifs with hMany
  · exact ⟨router, rfl, h, hFresh⟩
  obtain ⟨⟨histories, hSound⟩, hScheduled⟩ := h
  have hNew := hSound.withClient hConnection hAlone (Nat.not_le.mp hMany)
  have hThere : (router.withClient connection).clients.get? router.clients.nextKey =
      some (newClient connection (router.graveyard connection.clientId) router.clients.nextKey) :=
    (Slab.get?_insert _ _ _).trans (if_pos rfl)
  have hStatus : (newClient connection (router.graveyard connection.clientId)
      router.clients.nextKey).tracker.status = .Paused .Busy := by
    refine newClient_status (fun session hSession => hSound.saved _ session ?_) _
    rw [sessionOf] at hSession
    split_ifs at hSession
    exact hSession
  have hWake : (none : Option ConnectionId) ≠ some router.clients.nextKey →
      Wakeable (newClient connection (router.graveyard connection.clientId) router.clients.nextKey)
        .Init (router.clients.nextKey ∈ router.readyqueue) (router.clients.nextKey ∈ owed) := by
    intro _
    refine ⟨fun hReady => ?_, fun hFull => ?_, fun _ => .inl rfl⟩
    · rw [hStatus] at hReady
      cases hReady
    · rw [hStatus] at hFull
      cases hFull
  obtain ⟨router', client', hResult, hInv, hOne, _⟩ := reschedule_inv hNew
    (fun key other hKey hOther hSpared => hScheduled key other
      (((Slab.get?_insert _ _ _).trans (if_neg hOther)).symm.trans hKey) hSpared) hThere .Init hWake
  exact ⟨router', hResult, hInv, hOne.notifications.trans hFresh⟩

/-- A connection that comes takes the place of one of the same client. -/
theorem Inv.handleNewConnection (h : router.Inv tidy owed [] none) (hConnection : Fresh connection)
    (hFresh : router.notifications = []) :
    ∃ router', router.handleNewConnection connection = ok router' ∧ router'.Inv tidy owed [] none ∧
      router'.notifications = [] := by
  rw [Router.handleNewConnection]
  dsimp only
  split_ifs with hInvalid
  · exact ⟨router, rfl, h, hFresh⟩
  cases hMapped : router.connectionMap connection.clientId with
  | none => exact h.letIn hConnection hFresh hMapped
  | some id =>
      obtain ⟨histories, hSound⟩ := h.1
      obtain ⟨client, hClient, hName⟩ := hSound.directory.named _ id hMapped
      have hAlone : (router.without id client).connectionMap connection.clientId = none := by
        rw [← hName, ← (hSound.clients id client hClient).named]
        exact Function.update_self _ _ _
      dsimp only
      rw [hSound.handleDisconnection_eq hClient, ok_bind]
      exact (h.without (.inl rfl) hFresh hClient).letIn hConnection hFresh hAlone

end Coming

end Router
end SnapEmu.Broker
