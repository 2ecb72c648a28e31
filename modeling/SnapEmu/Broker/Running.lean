import SnapEmu.Broker.Sessions
import SnapEmu.Semantics.FallibleRun

/-! Runs of the router with its links, from its start on. -/
namespace SnapEmu.Broker

open Mqtt (Str)
open Semantics Exec

namespace Router

variable {tidy : Prop} {router router' : Router} {id : ConnectionId} {client client' : Client}
  {histories : FilterIdx → List PublishData} {held : List Waiter}
  {owed : List ConnectionId} {spared : Option ConnectionId}

/-- A batch of packets keeps the invariant. -/
theorem Inv.handleDevicePayload (h : router.Inv tidy owed [] none) (order : IterationOrder)
    (now : Instant) (id : ConnectionId) {packets : List Packet}
    (hPlain : ∀ packet ∈ packets, packet.Plain) (hTidy : tidy → Tidy packets)
    (hFresh : router.notifications = []) :
    ∃ router', router.handleDevicePayload order now id packets = ok router' ∧
      router'.Inv tidy owed [] none ∧ router'.notifications = [] := by
  rw [Router.handleDevicePayload]
  cases hClient : router.clients.get? id with
  | none => exact ⟨router, rfl, h, hFresh⟩
  | some client =>
      have hStart : Handled tidy owed id router Batch.new := ⟨h, ⟨client, hClient⟩, fun _ => hFresh⟩
      obtain ⟨handled, batch, hPackets, hHandled⟩ :=
        hStart.handlePackets order now hPlain hTidy nofun
      dsimp only
      rw [hPackets, ok_bind]
      dsimp only
      obtain ⟨acked, hAcked, hNext⟩ : ∃ acked, (if batch.forceAck then
          handled.reschedule id .FreshData else ok handled) = ok acked ∧
          Handled tidy owed id acked batch := by
        split_ifs
        · exact hHandled.reschedule .FreshData
        · exact ⟨handled, rfl, hHandled⟩
      rw [hAcked, ok_bind]
      obtain ⟨woken, hWoken, hInv, hNone⟩ : ∃ woken, (if batch.newData then acked.wakeAll
          else ok acked) = ok woken ∧ woken.Inv tidy owed [] (batch.spared id) ∧
          woken.notifications = [] := by
        split_ifs with hNew
        · obtain ⟨woken, hWake, hKept, hNone, _⟩ := hNext.inv.wakeAll
          exact ⟨woken, hWake, hKept, hNone⟩
        · exact ⟨acked, rfl, hNext.inv, hNext.fresh (Bool.eq_false_iff.mpr hNew)⟩
      rw [hWoken, ok_bind]
      rw [Batch.spared] at hInv
      split_ifs at hInv ⊢
      · exact hInv.handleDisconnection (.inr rfl) hNone
      · exact ⟨woken, rfl, hInv, hNone⟩

/-- The message of a will keeps the invariant. -/
theorem Inv.handleLastWill (h : router.Inv tidy owed [] none) (order : IterationOrder)
    (now : Instant) (clientId : ClientId) (hFresh : router.notifications = []) :
    ∃ router', router.handleLastWill order now clientId = ok router' ∧
      router'.Inv tidy owed [] none ∧ router'.notifications = [] := by
  rw [Router.handleLastWill]
  cases hWill : router.lastWills clientId with
  | none => exact ⟨router, rfl, h, hFresh⟩
  | some entry =>
      obtain ⟨will, properties⟩ := entry
      obtain ⟨histories, hSound⟩ := h.1
      have hTopic : Cuttable will.topic := hSound.wills clientId _ hWill
      have hWithout := h.withoutWill clientId
      dsimp only
      split_ifs
      · obtain ⟨datalog, notifications, offset, hRecord, hInv⟩ := hWithout.record order now
          (willMessage will properties).1 (willMessage will properties).2 hTopic
        obtain ⟨woken, hWake, hKept, hNone, _⟩ := hInv.wakeAll
        refine ⟨woken, ?_, hKept, hNone⟩
        exact (congrArg (· >>= _) hRecord).trans hWake
      · exact ⟨_, rfl, hWithout, hFresh⟩

/-- A request for the last message of a filter keeps the invariant. -/
theorem Inv.retrieveShadow (h : router.Inv tidy owed [] none)
    (hClient : router.clients.get? id = some client) (filter : FilterName) :
    ∃ router', router.retrieveShadow id filter = ok router' ∧ router'.Inv tidy owed [] none ∧
      router'.notifications = router.notifications := by
  rw [Router.retrieveShadow, client_eq hClient, ok_bind]
  cases router.datalog.shadow filter with
  | none => exact ⟨router, rfl, h, rfl⟩
  | some found =>
      obtain ⟨publish, found⟩ := found
      dsimp only
      obtain ⟨outgoing, hOutgoing⟩ : ∃ outgoing, (if maxChannelCapacity - 1 ≤
            (client.outgoing.pushNotification (.Shadow ⟨publish.topic, publish.payload⟩)).2 then
          ((client.outgoing.pushNotification
            (.Shadow ⟨publish.topic, publish.payload⟩)).1.pushNotification .Unschedule).1
        else (client.outgoing.pushNotification (.Shadow ⟨publish.topic, publish.payload⟩)).1) =
          outgoing := ⟨_, rfl⟩
      have hTouched : client.Touched { client with outgoing := outgoing } := by
        rw [← hOutgoing]
        split_ifs
        · refine ⟨rfl, rfl, rfl, rfl, rfl, rfl, rfl, ?_, fun _ _ => .inl, fun _ => .inl⟩
          exact List.Subset.trans (List.subset_append_left _ _) (List.subset_append_left _ _)
        · exact ⟨rfl, rfl, rfl, rfl, rfl, rfl, rfl, List.subset_append_left _ _, fun _ _ => .inl,
            fun _ => .inl⟩
      rw [hOutgoing]
      exact ⟨_, rfl, (h.modifyClient hClient hTouched rfl).1, rfl⟩

/-- A status request keeps the invariant. -/
theorem Inv.printConnection (h : router.Inv tidy owed [] none) (clientId : ClientId) :
    (router.printConnection clientId).Inv tidy owed [] none ∧
      (router.printConnection clientId).notifications = router.notifications := by
  rw [Router.printConnection]
  cases router.connectionMap clientId with
  | some id => exact ⟨h, rfl⟩
  | none =>
      obtain ⟨⟨histories, hSound⟩, hScheduled⟩ := h
      refine ⟨⟨⟨histories, hSound.datalog, hSound.clients, hSound.requests, hSound.live,
        hSound.served, hSound.behind, hSound.directory, fun other session hSession => ?_,
        hSound.wills⟩, hScheduled⟩, rfl⟩
      change Function.update router.graveyard clientId none other = _ at hSession
      rw [Function.update_apply] at hSession
      split_ifs at hSession
      exact hSound.saved other session hSession

/-- A link takes all that has gone out to it. -/
def taken (client : Client) : Client :=
  { client with outgoing := { client.outgoing with dataBuffer := [] } }

/-- The link has been told to ask for more, or the connection is not busy. -/
theorem Inv.exchange (h : router.Inv tidy owed [] none)
    (hClient : router.clients.get? id = some client) {owed' : List ConnectionId}
    (hOwed : owed ⊆ owed')
    (hTold : Notification.Unschedule ∈ client.outgoing.dataBuffer → id ∈ owed') :
    (router.modifyClient id taken).Inv tidy owed' [] none := by
  obtain ⟨⟨histories, hSound⟩, hScheduled⟩ := h
  have hOne := oneChanged hClient taken router.readyqueue router.subscriptionMap
    router.sharedSubscriptions
  have hOld := hSound.clients id client hClient
  refine ⟨⟨histories, hSound.change hClient hOne { hOld with
      window := hOld.window.imp fun _ hWindow => hWindow.congr rfl rfl } rfl (fun _ => .inl)
    (fun _ _ _ => rfl) (hSound.served id client hClient) (hSound.behind · id client hClient)⟩, ?_⟩
  refine Scheduled.change (fun key other hKey _ hSpared => ?_) hOne (fun _ _ hReady => hReady)
    fun hSpared => ?_
  · have hWas := hScheduled key other hKey hSpared
    exact { hWas with busy := fun hBusy => (hWas.busy hBusy).imp_right fun hMem => hOwed hMem }
  · have hWas := hScheduled id client hClient hSpared
    exact ⟨hWas.ready, hWas.caughtup, hWas.full, fun hBusy =>
      .inr ((hWas.busy hBusy).elim hTold fun hMem => hOwed hMem)⟩

end Router

/-- The router with its links. A link that takes an `Unschedule` is to ask for
more, as long as its connection is busy. -/
structure System where
  router : Router
  owed : List ConnectionId

namespace System

def busy (router : Router) (id : ConnectionId) : Bool :=
  (router.clients.get? id).any fun client => client.tracker.status = .Paused .Busy

/-- The links that learn with the input that they are to ask for more. -/
def told (system : System) : Router.Input → List ConnectionId
  | .exchange id =>
      if (system.router.clients.get? id).any fun client =>
        Notification.Unschedule ∈ client.outgoing.dataBuffer then [id] else []
  | _ => []

def step (order : IterationOrder) (system : System) (input : Instant × Router.Input) :
    Exec Empty System :=
  system.router.step order input >>= fun router =>
    ok { router := router, owed := (system.told input.2 ++ system.owed).filter (busy router) }

def new (config : RouterConfig) : Exec Empty System :=
  Router.new config >>= fun router => ok { router := router, owed := [] }

end System

namespace Router

/-- Topics and filters can be matched, and no filter is one of a group. -/
def Input.Plain : Input → Prop
  | .connect builder => ∀ will, builder.lastWill = some will → Cuttable will.topic
  | .deviceData _ packets => ∀ packet ∈ packets, packet.Plain
  | _ => True

/-- No filter is given up behind a message of the same batch. -/
def Input.Tidy : Input → Prop
  | .deviceData _ packets => Broker.Tidy packets
  | _ => True

/-- The router is asked for a connection that is gone. -/
def Input.Stops (router : Router) : Input → Prop
  | .ready id => router.clients.get? id = none
  | .shadow id _ => router.clients.get? id = none
  | _ => False

end Router

namespace System

variable {tidy : Prop} {system system' : System} {order : IterationOrder}
  {input : Instant × Router.Input} {inputs : List (Instant × Router.Input)}

/-- What holds between the steps of the router. -/
def Good (tidy : Prop) (system : System) : Prop :=
  system.router.Inv tidy system.owed [] none ∧ system.router.notifications = []

/-- A step of the router, with all links that are to ask for more. -/
theorem step_router (h : system.Good tidy) (order : IterationOrder) (hPlain : input.2.Plain)
    (hTidy : tidy → input.2.Tidy) (hGoes : ¬input.2.Stops system.router) :
    ∃ router', system.router.step order input = ok router' ∧
      router'.Inv tidy (system.told input.2 ++ system.owed) [] none ∧
      router'.notifications = [] := by
  obtain ⟨hInv, hFresh⟩ := h
  obtain ⟨now, input⟩ := input
  cases input with
  | connect builder =>
      exact hInv.handleNewConnection ⟨rfl, fun _ => rfl, hPlain⟩ hFresh
  | deviceData id packets => exact hInv.handleDevicePayload order now id hPlain hTidy hFresh
  | disconnect id => exact hInv.handleDisconnection (.inl rfl) hFresh
  | ready id =>
      obtain ⟨client, hClient⟩ := Option.ne_none_iff_exists'.mp hGoes
      obtain ⟨router', client', hResult, hKept, hOne, _⟩ := hInv.reschedule hClient .Ready
      exact ⟨router', hResult, hKept, hOne.notifications.trans hFresh⟩
  | shadow id filter =>
      obtain ⟨client, hClient⟩ := Option.ne_none_iff_exists'.mp hGoes
      obtain ⟨router', hResult, hKept, hSame⟩ := hInv.retrieveShadow hClient filter
      exact ⟨router', hResult, hKept, hSame.trans hFresh⟩
  | publishWill clientId => exact hInv.handleLastWill order now clientId hFresh
  | printConnection clientId =>
      obtain ⟨hKept, hSame⟩ := hInv.printConnection clientId
      exact ⟨_, rfl, hKept, hSame.trans hFresh⟩
  | consume draw =>
      obtain ⟨router', hResult, hKept, hSame⟩ := hInv.consume order now draw
      exact ⟨router', hResult, hKept, hSame.trans hFresh⟩
  | exchange id =>
      cases hClient : system.router.clients.get? id with
      | none =>
          have hTold : system.told (.exchange id) = [] := by
            rw [told, hClient]
            rfl
          refine ⟨_, rfl, ?_, hFresh⟩
          rw [hTold, List.nil_append, Router.modifyClient, Slab.modify_of_none hClient]
          exact hInv
      | some client =>
          refine ⟨_, rfl, hInv.exchange hClient (List.subset_append_right _ _) fun hMem => ?_,
            hFresh⟩
          rw [told, hClient, Option.any_some, if_pos (decide_eq_true hMem)]
          exact List.mem_cons_self

/-- A step keeps what holds, unless it is for a connection that is gone. -/
theorem step_good (h : system.Good tidy) (hPlain : input.2.Plain)
    (hTidy : tidy → input.2.Tidy) (hGoes : ¬input.2.Stops system.router) :
    ∃ system', system.step order input = ok system' ∧ system'.Good tidy := by
  obtain ⟨router', hResult, ⟨hSound, hScheduled⟩, hFresh⟩ := step_router h order hPlain hTidy hGoes
  refine ⟨_, congrArg (· >>= _) hResult, ⟨hSound, fun id client hClient hSpared => ?_⟩, hFresh⟩
  have hWas := hScheduled id client hClient hSpared
  refine { hWas with busy := fun hBusy => (hWas.busy hBusy).imp_right fun hMem => ?_ }
  refine List.mem_filter.mpr ⟨hMem, ?_⟩
  rw [busy, hClient, Option.any_some, decide_eq_true hBusy]

/-- An event that the router does not survive stops the system. -/
theorem step_stops (h : input.2.Stops system.router) : system.step order input = panic := by
  obtain ⟨now, input⟩ := input
  cases input with
  | ready id =>
      have hGone : system.router.clients.get? id = none := h
      rw [System.step, Router.step]
      dsimp only
      rw [Router.reschedule, Router.client, hGone]
      rfl
  | shadow id filter =>
      have hGone : system.router.clients.get? id = none := h
      rw [System.step, Router.step]
      dsimp only
      rw [Router.retrieveShadow, Router.client, hGone]
      rfl
  | _ => exact h.elim

section Run

variable {config : RouterConfig}

/-- There is nothing in the router at its start. -/
theorem new_sound {router : Router} (hConfig : config.Valid)
    (hNew : Router.new config = ok router) :
    router.Sound tidy (fun _ => []) [] ∧ router.clients = Slab.empty ∧
      router.notifications = [] := by
  obtain ⟨datalog, hDatalog, hStart⟩ := bind_eq_ok.mp hNew
  rw [ok.injEq] at hStart
  subst hStart
  obtain ⟨hInitial, _⟩ := DataLog.initial_new hConfig hDatalog
  have hNone : ∀ idx waiter, waiter ∉ datalog.waitersAt idx := by
    intro idx waiter hWaiter
    rw [hInitial.alone] at hWaiter
    cases hWaiter
  have hEmpty : ∀ id client, (Slab.empty : Slab Client).get? id ≠ some client := by
    intro id client hClient
    rw [Slab.get?_empty] at hClient
    cases hClient
  refine ⟨{ datalog := ⟨hInitial.sound, fun idx waiter hWaiter => absurd hWaiter (hNone idx waiter)⟩
            clients := fun id client hClient => absurd hClient (hEmpty id client)
            requests := nofun
            live := fun waiter hWaiter => ?_
            served := fun id client hClient => absurd hClient (hEmpty id client)
            behind := fun _ id client hClient => absurd hClient (hEmpty id client)
            directory := .empty _
            saved := nofun
            wills := nofun }, rfl, rfl⟩
  obtain ⟨idx, hAt⟩ := DataLog.mem_allWaiters.mp (by simpa [Router.pending] using hWaiter)
  exact absurd hAt (hNone idx waiter)

/-- A new system is good. -/
theorem new_good (hConfig : config.Valid) (hNew : System.new config = ok system) :
    system.Good tidy := by
  obtain ⟨router, hRouter, hSystem⟩ := bind_eq_ok.mp hNew
  rw [ok.injEq] at hSystem
  subst hSystem
  obtain ⟨hSound, hEmpty, hFresh⟩ := new_sound hConfig hRouter
  refine ⟨⟨⟨_, hSound⟩, fun id client hClient _ => ?_⟩, hFresh⟩
  dsimp only at hClient
  rw [hEmpty, Slab.get?_empty] at hClient
  cases hClient

/-- A step of the system ends where the step of its router does. -/
theorem step_yields (kept : Router → Prop) (h : (system.router.step order input).Yields kept) :
    (system.step order input).Yields fun system' => kept system'.router :=
  h.bind fun _ hKept => yields_ok hKept

/-- A run keeps names and windows in order. -/
theorem run_stays_agreed (hAgreed : system.router.Agreed config)
    (hRun : inputs.foldlM (System.step order) system = ok system') :
    system'.router.Agreed config := by
  refine run_yields (fun _ state => state.router.Agreed config) (fun _ => True)
    (fun _ state input hNow _ => ?_) [] system hAgreed (fun _ _ => trivial) system' hRun
  exact step_yields _ ((hNow.step order input).mono fun _ => And.left)

/-- Names and windows are in order wherever a run gets to. -/
theorem run_agreed (hNew : System.new config = ok system)
    (hRun : inputs.foldlM (System.step order) system = ok system') :
    system'.router.Agreed config := by
  obtain ⟨router, hRouter, hSystem⟩ := bind_eq_ok.mp hNew
  rw [ok.injEq] at hSystem
  subst hSystem
  exact run_stays_agreed (Router.new_agreed hRouter) hRun

/-- The session of a client that is away stays as it is, as long as the client
does not come and its session is not asked for. -/
theorem run_away {clientId : ClientId} (hAgreed : system.router.Agreed config)
    (hAway : system.router.connectionMap clientId = none)
    (hSpares : ∀ input ∈ inputs, input.2.Spares clientId)
    (hRun : inputs.foldlM (System.step order) system = ok system') :
    system'.router.connectionMap clientId = none ∧
      system'.router.graveyard clientId = system.router.graveyard clientId := by
  refine (run_yields (fun _ state => state.router.Agreed config ∧
      state.router.connectionMap clientId = none ∧
      state.router.graveyard clientId = system.router.graveyard clientId)
    (fun input => input.2.Spares clientId) (fun _ state input hKept hSpared => ?_) [] system
    ⟨hAgreed, hAway, rfl⟩ hSpares system' hRun).2
  obtain ⟨hNow, hStill, hSame⟩ := hKept
  refine step_yields (fun router => router.Agreed config ∧ router.connectionMap clientId = none ∧
    router.graveyard clientId = system.router.graveyard clientId)
    ((hNow.step order input).mono fun router' hStep => ⟨hStep.1, ?_⟩)
  obtain ⟨hLeft, hSaved⟩ := hStep.2 clientId hSpared hStill
  exact ⟨hLeft, hSaved.trans hSame⟩

/-- A run keeps what holds of the router, or comes to an input that stops it. -/
theorem run_or_stops (h : system.Good tidy) (order : IterationOrder)
    (hPlain : ∀ input ∈ inputs, input.2.Plain) (hTidy : tidy → ∀ input ∈ inputs, input.2.Tidy) :
    (∃ system', inputs.foldlM (System.step order) system = ok system' ∧ system'.Good tidy) ∨
      ∃ before input after system', inputs = before ++ input :: after ∧
        before.foldlM (System.step order) system = ok system' ∧ input.2.Stops system'.router :=
  Exec.run_or_stops (fun _ => Good tidy) (fun input => input.2.Plain ∧ (tidy → input.2.Tidy))
    (fun system input => input.2.Stops system.router)
    (fun _ _ _ hGood hFine hGoes => step_good hGood hFine.1 hFine.2 hGoes) [] system h
    fun input hInput => ⟨hPlain input hInput, fun hIs => hTidy hIs input hInput⟩

/-- A run that gets to its end leaves the system good. -/
theorem run_good (hConfig : config.Valid) (hNew : System.new config = ok system)
    (hPlain : ∀ input ∈ inputs, input.2.Plain) (hTidy : tidy → ∀ input ∈ inputs, input.2.Tidy)
    (hRun : inputs.foldlM (System.step order) system = ok system') : system'.Good tidy :=
  Exec.run_keeps (fun _ => Good tidy) (fun input => input.2.Plain ∧ (tidy → input.2.Tidy))
    (fun system input => input.2.Stops system.router)
    (fun _ _ _ hGood hFine hGoes => step_good hGood hFine.1 hFine.2 hGoes)
    (fun _ _ => step_stops) (new_good hConfig hNew)
    (fun input hInput => ⟨hPlain input hInput, fun hIs => hTidy hIs input hInput⟩) hRun

end Run

end System
end SnapEmu.Broker
