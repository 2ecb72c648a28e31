import SnapEmu.Broker.Frames

/-! The connection map and the connections agree, and the session of a client
that is away stays as it is, whatever the others do. -/
namespace SnapEmu.Broker

open Mqtt (Str)
open Semantics Exec

/-- The parts of a connection are of one client, whose name is valid, and its
packet identifiers are a window of those given. -/
structure Client.Agreed (client : Client) : Prop where
  valid : Router.validClientId client.connection.clientId = true
  owner : client.outgoing.clientId = client.connection.clientId
  tracked : client.tracker.id = client.connection.clientId
  numbered : client.outgoing.Numbered

/-- A client that is carried over agrees under the same name. -/
theorem Client.Carried.agreed {client client' : Client} (h : client.Carried client')
    (hAgreed : client.Agreed) : client'.Agreed :=
  ⟨h.clientId ▸ hAgreed.valid, h.owner.trans (hAgreed.owner.trans h.clientId.symm),
    h.tracked.trans (hAgreed.tracked.trans h.clientId.symm), h.numbered hAgreed.numbered⟩

/-- The connection map finds the connections by their clients, and there are not
too many. -/
structure Directory (clients : Slab Client) (connectionMap : ClientId → Option ConnectionId)
    (maxConnections : Nat) : Prop where
  mapped : ∀ id client, clients.get? id = some client →
    connectionMap client.connection.clientId = some id
  named : ∀ clientId id, connectionMap clientId = some id →
    ∃ client, clients.get? id = some client ∧ client.connection.clientId = clientId
  count : clients.count ≤ maxConnections

namespace Directory

variable {clients clients' : Slab Client} {connectionMap : ClientId → Option ConnectionId}
  {maxConnections : Nat} {id : ConnectionId} {client : Client}

/-- Without clients all names agree. -/
theorem empty (maxConnections : Nat) : Directory Slab.empty (fun _ => none) maxConnections where
  mapped id client hClient := by
    rw [Slab.get?_empty] at hClient
    cases hClient
  named := nofun
  count := Nat.zero_le _

/-- The connections may change, but not their clients. -/
theorem congr (h : Directory clients connectionMap maxConnections)
    (hNames : ∀ id, (clients'.get? id).map (fun client => client.connection.clientId) =
      (clients.get? id).map fun client => client.connection.clientId)
    (hCount : clients'.count = clients.count) :
    Directory clients' connectionMap maxConnections where
  mapped id client' hClient' := by
    have hName := hNames id
    rw [hClient', Option.map_some] at hName
    obtain ⟨client, hClient, hSame⟩ := Option.map_eq_some_iff.mp hName.symm
    exact hSame ▸ h.mapped id client hClient
  named clientId id hId := by
    obtain ⟨client, hClient, hSame⟩ := h.named clientId id hId
    have hName := hNames id
    rw [hClient, Option.map_some] at hName
    obtain ⟨client', hClient', hOther⟩ := Option.map_eq_some_iff.mp hName
    exact ⟨client', hClient', hOther.trans hSame⟩
  count := hCount ▸ h.count

/-- A connection goes, and its client with it. -/
theorem remove (h : Directory clients connectionMap maxConnections)
    (hClient : clients.get? id = some client) :
    Directory (clients.remove id)
      (Function.update connectionMap client.connection.clientId none) maxConnections := by
  refine ⟨fun key other hKey => ?_, fun clientId key hKey => ?_,
    (Slab.count_remove_le _ _).trans h.count⟩
  · rw [Slab.get?_remove] at hKey
    split_ifs at hKey with hOther
    have hMapped := h.mapped key other hKey
    refine (Function.update_of_ne (fun hSame => hOther ?_) _ _).trans hMapped
    rw [hSame, h.mapped id client hClient] at hMapped
    exact (Option.some.inj hMapped).symm
  · rw [Function.update_apply] at hKey
    split_ifs at hKey with hSame
    obtain ⟨other, hThere, hOther⟩ := h.named clientId key hKey
    refine ⟨other, (Slab.get?_remove _ _ _).trans ((if_neg fun hId => hSame ?_).trans hThere),
      hOther⟩
    rw [hId, hClient, Option.some.injEq] at hThere
    rw [← hOther, ← hThere]

/-- A connection comes, whose client has none. -/
theorem insert (h : Directory clients connectionMap maxConnections) (new : Client)
    (hAlone : connectionMap new.connection.clientId = none)
    (hRoom : clients.count < maxConnections) :
    Directory (clients.insert new)
      (Function.update connectionMap new.connection.clientId (some clients.nextKey))
      maxConnections := by
  refine ⟨fun key other hKey => ?_, fun clientId key hKey => ?_,
    (Slab.count_insert _ _).trans_le hRoom⟩
  · rw [Slab.get?_insert] at hKey
    split_ifs at hKey with hNew
    · cases hKey
      rw [hNew]
      exact Function.update_self _ _ _
    · have hMapped := h.mapped key other hKey
      refine (Function.update_of_ne (fun hSame => ?_) _ _).trans hMapped
      rw [hSame, hAlone] at hMapped
      cases hMapped
  · rw [Function.update_apply] at hKey
    split_ifs at hKey with hSame
    · cases hKey
      exact ⟨new, (Slab.get?_insert _ _ _).trans (if_pos rfl), hSame.symm⟩
    · obtain ⟨other, hOther, hName⟩ := h.named clientId key hKey
      refine ⟨other, (Slab.get?_insert _ _ _).trans ((if_neg fun hNext => ?_).trans hOther), hName⟩
      rw [hNext, Slab.get?_nextKey] at hOther
      cases hOther

end Directory

namespace Router

/-- What every reachable router keeps, whatever its clients ask for. -/
structure Agreed (config : RouterConfig) (router : Router) : Prop where
  configured : router.config = config
  directory : Directory router.clients router.connectionMap config.maxConnections
  clients : ∀ id client, router.clients.get? id = some client → client.Agreed
  saved : ∀ clientId session, router.graveyard clientId = some session →
    session.tracker.id = clientId

variable {config : RouterConfig} {router router' : Router} {id : ConnectionId} {client : Client}
  {connection : Connection}

/-- Clients that are carried over keep their names. -/
theorem Carried.names (h : router.Carried router') (id : ConnectionId) :
    (router'.clients.get? id).map (fun client => client.connection.clientId) =
      (router.clients.get? id).map fun client => client.connection.clientId := by
  cases hClient : router.clients.get? id with
  | some client =>
      obtain ⟨client', hClient'⟩ := h.forth id client hClient
      obtain ⟨other, hOther, hCarried⟩ := h.back id client' hClient'
      rw [hClient, Option.some.injEq] at hOther
      rw [hClient', Option.map_some, Option.map_some, hCarried.clientId, hOther]
  | none =>
      cases hClient' : router'.clients.get? id with
      | none => rfl
      | some client' =>
          obtain ⟨other, hOther, _⟩ := h.back id client' hClient'
          rw [hClient] at hOther
          cases hOther

/-- A router that carries its clients over has them agree still. -/
theorem Carried.agreed (h : router.Carried router') (hAgreed : router.Agreed config) :
    router'.Agreed config where
  configured := h.config.trans hAgreed.configured
  directory := by
    rw [h.connectionMap]
    exact hAgreed.directory.congr h.names h.count
  clients id client' hClient' := by
    obtain ⟨client, hClient, hCarried⟩ := h.back id client' hClient'
    exact hCarried.agreed (hAgreed.clients id client hClient)
  saved := h.graveyard ▸ hAgreed.saved

/-- What is buried of a connection is of its client. -/
theorem buried_id (client : Client) (inflight : List DataRequest)
    (groups : List (Str × SharedGroup)) :
    (buried client inflight groups).Yields fun result =>
      ∀ session, result.2 = some session → session.tracker.id = client.tracker.id := by
  unfold buried
  refine yields_ite (fun _ => yields_ok nofun) fun _ => ?_
  refine yields_bind fun reset _ => yields_ok ?_
  rintro session ⟨rfl⟩
  rfl

/-- A connection that goes takes along its name, and only its client's session
changes. -/
theorem Agreed.handleDisconnection (h : router.Agreed config) (id : ConnectionId) :
    (router.handleDisconnection id).Yields fun router' => router'.Agreed config ∧
      ∀ clientId, router.connectionMap clientId = none →
        router'.connectionMap clientId = none ∧
          router'.graveyard clientId = router.graveyard clientId := by
  unfold Router.handleDisconnection
  split
  · exact yields_ok ⟨h, fun _ hAway => ⟨hAway, rfl⟩⟩
  · rename_i client hClient
    obtain ⟨_, hOwner, hTracked, _⟩ := h.clients id client hClient
    refine (buried_id client _ _).bind fun result hBuried =>
      yields_ok ⟨?_, fun clientId hAway => ?_⟩
    · refine ⟨h.configured, ?_, fun key other hKey => ?_, fun clientId session hSession => ?_⟩
      · dsimp only
        rw [hOwner]
        exact h.directory.remove hClient
      · have hThere := (Slab.get?_remove router.clients id key).symm.trans hKey
        split_ifs at hThere
        exact h.clients key other hThere
      · change Function.update router.graveyard client.tracker.id _ clientId = _ at hSession
        rw [Function.update_apply] at hSession
        split_ifs at hSession with hSame
        · rw [hBuried session hSession, hSame]
        · exact h.saved clientId session hSession
    · have hOther : clientId ≠ client.connection.clientId := by
        rintro rfl
        rw [h.directory.mapped id client hClient] at hAway
        cases hAway
      exact ⟨(Function.update_of_ne (hOwner ▸ hOther) _ _).trans hAway,
        Function.update_of_ne (hTracked ▸ hOther) _ _⟩

/-- A new client agrees with the name of its connection. -/
theorem newClient_agreed {connection : Connection}
    (hValid : validClientId connection.clientId = true) {saved : Option SessionState}
    (hSaved : ∀ session, saved = some session → session.tracker.id = connection.clientId)
    (id : ConnectionId) : (newClient connection saved id).Agreed := by
  refine ⟨hValid, rfl, ?_, 0, (Outgoing.window_new connection.clientId).last, le_refl _, rfl,
    Nat.zero_le _⟩
  change (((if connection.clean then none else saved).map SessionState.tracker).getD
    (Tracker.new connection.clientId)).id = connection.clientId
  split_ifs
  · rfl
  · cases saved with
    | none => rfl
    | some session => exact hSaved session rfl

/-- A connection that comes takes the place of one of its client, and leaves the
sessions of others. -/
theorem Agreed.handleNewConnection (h : router.Agreed config) (connection : Connection) :
    (router.handleNewConnection connection).Yields fun router' => router'.Agreed config ∧
      ∀ clientId, clientId ≠ connection.clientId → router.connectionMap clientId = none →
        router'.connectionMap clientId = none ∧
          router'.graveyard clientId = router.graveyard clientId := by
  refine yields_ite (fun _ => yields_ok ⟨h, fun _ _ hAway => ⟨hAway, rfl⟩⟩) fun hValid => ?_
  rw [Bool.not_eq_true', Bool.not_eq_false] at hValid
  have hPlace : ∀ place : Exec Empty Router,
      (router.connectionMap connection.clientId = none → place = ok router) →
      (∀ id, router.connectionMap connection.clientId = some id →
        place = router.handleDisconnection id) →
      place.Yields fun router' =>
        router'.Agreed config ∧ router'.connectionMap connection.clientId = none ∧
        ∀ clientId, router.connectionMap clientId = none →
          router'.connectionMap clientId = none ∧
            router'.graveyard clientId = router.graveyard clientId := by
    intro place hFree hTaken
    cases hConnected : router.connectionMap connection.clientId with
    | none =>
      rw [hFree hConnected]
      exact yields_ok ⟨h, hConnected, fun _ hAway => ⟨hAway, rfl⟩⟩
    | some id =>
      intro router' hGone
      rw [hTaken id hConnected] at hGone
      obtain ⟨hAgreed, hLeft⟩ := h.handleDisconnection id router' hGone
      refine ⟨hAgreed, ?_, hLeft⟩
      obtain ⟨client, hClient, hName⟩ := h.directory.named connection.clientId id hConnected
      rw [Router.handleDisconnection, hClient] at hGone
      obtain ⟨result, _, hResult⟩ := bind_eq_ok.mp hGone
      rw [ok.injEq] at hResult
      rw [← hResult, ← hName, ← (h.clients id client hClient).owner]
      exact Function.update_self _ _ _
  refine (hPlace _ (fun hNone => by rw [hNone]) fun id hSome => by rw [hSome]).bind
    fun middle hMiddle => ?_
  obtain ⟨hAgreed, hAlone, hLeft⟩ := hMiddle
  refine yields_ite (fun _ => yields_ok ⟨hAgreed, fun _ _ => hLeft _⟩) fun hRoom => ?_
  refine (reschedule_carried _ _ .Init).mono fun last hLast => ?_
  have hNew : (newClient connection (middle.graveyard connection.clientId)
      middle.clients.nextKey).Agreed :=
    newClient_agreed hValid (fun session => hAgreed.saved connection.clientId session) _
  rw [hAgreed.configured, Nat.not_le] at hRoom
  refine ⟨hLast.agreed ⟨hAgreed.configured, hAgreed.directory.insert _ hAlone hRoom,
      fun key other hKey => ?_, fun clientId session hSession => ?_⟩,
    fun clientId hOther hAway => ?_⟩
  · have hThere := (Slab.get?_insert middle.clients _ key).symm.trans hKey
    split_ifs at hThere
    · cases hThere
      exact hNew
    · exact hAgreed.clients key other hThere
  · change Function.update middle.graveyard connection.clientId none clientId = _ at hSession
    rw [Function.update_apply] at hSession
    split_ifs at hSession
    exact hAgreed.saved clientId session hSession
  · obtain ⟨hMap, hGraveyard⟩ := hLeft clientId hAway
    rw [hLast.connectionMap, hLast.graveyard]
    exact ⟨(Function.update_of_ne hOther _ _).trans hMap,
      (Function.update_of_ne hOther _ _).trans hGraveyard⟩

/-- The client does not come, and its session is not asked for. -/
def Input.Spares (clientId : ClientId) : Input → Prop
  | .connect builder => builder.clientId ≠ clientId
  | .printConnection other => other ≠ clientId
  | _ => True

/-- Every step keeps names and windows, and the session of a client that is away
as long as the client does not come back. -/
theorem Agreed.step (h : router.Agreed config) (order : IterationOrder) (input : Instant × Input) :
    (router.step order input).Yields fun router' => router'.Agreed config ∧
      ∀ clientId, input.2.Spares clientId → router.connectionMap clientId = none →
        router'.connectionMap clientId = none ∧
          router'.graveyard clientId = router.graveyard clientId := by
  have hCarry : ∀ result : Exec Empty Router, router.Carries result →
      result.Yields fun router' => router'.Agreed config ∧
        ∀ clientId, input.2.Spares clientId → router.connectionMap clientId = none →
          router'.connectionMap clientId = none ∧
            router'.graveyard clientId = router.graveyard clientId :=
    fun result hResult => hResult.mono fun router' hCarried => ⟨hCarried.agreed h,
      fun clientId _ hAway => ⟨by rw [hCarried.connectionMap, hAway], by rw [hCarried.graveyard]⟩⟩
  obtain ⟨now, input⟩ := input
  cases input with
  | connect builder =>
      exact (h.handleNewConnection builder.connection).mono fun router' hNew =>
        ⟨hNew.1, fun clientId hSpares => hNew.2 clientId hSpares.symm⟩
  | deviceData id packets =>
      refine (handleDevicePayload_yields order now router id packets).mono
        fun router' ⟨middle, hCarried, hEnd⟩ => ?_
      have hMiddle := hCarried.agreed h
      rcases hEnd with rfl | hGone
      · exact ⟨hMiddle, fun clientId _ hAway =>
          ⟨by rw [hCarried.connectionMap, hAway], by rw [hCarried.graveyard]⟩⟩
      · obtain ⟨hAgreed, hLeft⟩ := hMiddle.handleDisconnection id router' hGone
        refine ⟨hAgreed, fun clientId _ hAway => ?_⟩
        rw [← hCarried.graveyard]
        exact hLeft clientId (hCarried.connectionMap ▸ hAway)
  | disconnect id =>
      exact (h.handleDisconnection id).mono fun router' hGone =>
        ⟨hGone.1, fun clientId _ => hGone.2 clientId⟩
  | ready id => exact hCarry _ (reschedule_carried router id .Ready)
  | shadow id filter => exact hCarry _ (retrieveShadow_carried router id filter)
  | publishWill clientId => exact hCarry _ (handleLastWill_carried order now router clientId)
  | printConnection other =>
      refine yields_ok ?_
      unfold Router.printConnection
      split
      · exact ⟨h, fun _ _ hAway => ⟨hAway, rfl⟩⟩
      · refine ⟨⟨h.configured, h.directory, h.clients, fun clientId session hSession => ?_⟩,
          fun clientId hSpares hAway => ⟨hAway, Function.update_of_ne (Ne.symm hSpares) _ _⟩⟩
        change Function.update router.graveyard other none clientId = _ at hSession
        rw [Function.update_apply] at hSession
        split_ifs at hSession
        exact h.saved clientId session hSession
  | consume draw => exact hCarry _ (consume_carried order now draw router)
  | exchange id =>
      refine hCarry _ (yields_ok (carried_modified rfl rfl rfl rfl fun _ _ => ?_))
      exact ⟨rfl, rfl, rfl, fun ⟨sent, hWindow⟩ =>
        ⟨sent, hWindow.last, hWindow.length, hWindow.pkids, hWindow.bound⟩⟩

/-- In a new router all names agree. -/
theorem new_agreed {config : RouterConfig} (h : Router.new config = ok router) :
    router.Agreed config := by
  obtain ⟨datalog, _, hRouter⟩ := bind_eq_ok.mp h
  rw [ok.injEq] at hRouter
  subst hRouter
  refine ⟨rfl, .empty _, fun id client hClient => ?_, nofun⟩
  rw [Slab.get?_empty] at hClient
  cases hClient

end Router

end SnapEmu.Broker
