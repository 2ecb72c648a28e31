import SnapEmu.Broker.Router

/-! What every event leaves to the connections it does not open or close: their
names, the tables they are found in, and a window of packet identifiers. -/
namespace SnapEmu.Broker

open Mqtt (Str QoS)
open Semantics Exec

section Reading

variable {T : Type}

/-- A read takes no more than it is to, and no more than there is before the end
of the segment. -/
theorem Segment.readv_length (segment : Segment T) (cursor : Cursor) (len : Nat) :
    (segment.readv cursor len).Yields fun result => result.2.length ≤ len ∧
      ∀ offset, result.1 = .done offset → result.2.length ≤ offset - cursor.2 := by
  have hZip : ∀ (data : List T) (offsets : List Offset), (data.zip offsets).length ≤ data.length :=
    fun data offsets => List.length_zip.trans_le (Nat.min_le_left _ _)
  have hSlice : ∀ start stop, (slice segment.data start stop : Exec Empty (List T)).Yields
      fun data => data.length ≤ stop - start := by
    intro start stop
    unfold slice
    split_ifs
    · exact yields_ok (List.length_take_le _ _)
    · exact yields_panic
  unfold Segment.readv
  dsimp only
  split_ifs with hBefore hBehind hEnd
  · exact yields_panic
  · exact yields_ok ⟨Nat.zero_le _, fun _ _ => Nat.zero_le _⟩
  · refine (hSlice _ _).bind fun data hData => yields_ok ⟨(hZip _ _).trans (by omega), ?_⟩
    intro offset hDone
    cases hDone
    refine (hZip _ _).trans ?_
    rw [Segment.nextOffset]
    omega
  · refine (hSlice _ _).bind fun data hData => yields_ok ⟨(hZip _ _).trans (by omega), ?_⟩
    intro offset hDone
    cases hDone

/-- Segments are read no further than asked. -/
theorem CommitLog.readSegments_length (log : CommitLog T) (start : Cursor) (remaining idx : Nat)
    (cursor : Cursor) (len : Nat) (out : List (T × Offset)) :
    (log.readSegments start remaining idx cursor len out).Yields fun result =>
      result.2.length ≤ out.length + len := by
  induction remaining generalizing idx cursor len out with
  | zero =>
      rw [CommitLog.readSegments]
      refine yields_bind fun segment _ => ?_
      split_ifs
      · exact yields_ok (Nat.le_add_right _ _)
      · refine (segment.readv_length cursor len).bind fun result hResult => ?_
        obtain ⟨position, read⟩ := result
        cases position with
        | next offset => exact yields_ok (by simpa using hResult.1)
        | done offset => exact yields_ok (by simpa using hResult.1)
  | succ remaining ih =>
      rw [CommitLog.readSegments]
      refine yields_bind fun segment _ => ?_
      refine (segment.readv_length cursor len).bind fun result hResult => ?_
      obtain ⟨position, read⟩ := result
      obtain ⟨hLen, hDone⟩ := hResult
      cases position with
      | next offset => exact yields_ok (by simpa using hLen)
      | done offset =>
          have hRead := hDone offset rfl
          dsimp only at hLen hRead ⊢
          have hLeft : (if cursor.2 ≤ offset then
              if len < offset - cursor.2 then panic else ok (len - (offset - cursor.2))
              else ok len : Exec Empty Nat).Yields fun left => read.length + left ≤ len := by
            split_ifs with hInside hShort
            · exact yields_panic
            · exact yields_ok (by omega)
            · exact yields_ok (by omega)
          refine hLeft.bind fun left hFits => ?_
          split_ifs
          · exact yields_ok (by simpa using hLen)
          · refine (ih _ _ _ _).mono fun result hAll => ?_
            rw [List.length_append] at hAll
            omega

/-- A read gives no more than is asked. -/
theorem CommitLog.readv_length (log : CommitLog T) (start : Cursor) (len : Nat) :
    (log.readv start len).Yields fun result => result.2.length ≤ len := by
  rw [CommitLog.readv]
  split_ifs
  · exact yields_ok (Nat.zero_le _)
  · refine yields_bind fun cursor _ => yields_bind fun segment _ => ?_
    refine (log.readSegments_length _ _ _ _ _ _).mono fun result hAll => ?_
    simpa using hAll
  · refine yields_bind fun cursor _ => yields_bind fun segment _ => ?_
    refine (log.readSegments_length _ _ _ _ _ _).mono fun result hAll => ?_
    simpa using hAll

end Reading

section Sweep

/-- The packet identifiers in flight are a window of those given in turn. -/
def Outgoing.Numbered (outgoing : Outgoing) : Prop := ∃ sent, outgoing.Window sent

/-- A sweep leaves the names, and what it sends has packet identifiers in turn. -/
structure Forwarded.Carried (forwarded : Forwarded) (outgoing : Outgoing)
    (connection : Connection) : Prop where
  clientId : forwarded.connection.clientId = connection.clientId
  owner : forwarded.outgoing.clientId = outgoing.clientId
  numbered : outgoing.Numbered → forwarded.outgoing.Numbered

/-- An alias that is assigned leaves the name of the connection. -/
theorem aliasFor_clientId (connection : Connection) (filter : FilterName) :
    (aliasFor connection filter).2.2.clientId = connection.clientId := by
  unfold aliasFor
  split
  · rfl
  · split <;> rfl

/-- What is pushed leaves the name of the buffer. -/
theorem Outgoing.pushForward_clientId (filterIdx : FilterIdx) (forwards : List Forward)
    (outgoing : Outgoing) :
    (forwards.foldl (Outgoing.pushForward filterIdx) outgoing).clientId = outgoing.clientId := by
  induction forwards generalizing outgoing with
  | nil => rfl
  | cons forward forwards ih => exact ih _

variable {datalog : DataLog} {outgoing : Outgoing} {connection : Connection}
  {request : DataRequest} {sharedGroup : Option SharedGroup}

/-- The slots of a sweep are free, if its messages are to be acknowledged. -/
theorem inflightSlots_free (request : DataRequest) (datalog : DataLog) (outgoing : Outgoing)
    (sharedGroup : Option SharedGroup) :
    (inflightSlots request datalog outgoing sharedGroup).Yields fun slots =>
      ∀ free, slots = some free → request.qos ≠ 0 →
        outgoing.inflightBuffer.length + free ≤ maxInflight := by
  have hSlots : (if request.qos ≠ 0 then
        outgoing.freeSlots >>= fun len => ok (if len = 0 then none else some len)
      else ok (some datalog.config.maxOutgoingPacketCount) : Exec Empty (Option Nat)).Yields
      fun slots => ∀ free, slots = some free → request.qos ≠ 0 →
        0 < free ∧ outgoing.inflightBuffer.length + free ≤ maxInflight := by
    split_ifs with hLevel
    · have hFree : (outgoing.freeSlots : Exec Empty Nat).Yields fun len =>
          outgoing.inflightBuffer.length + len ≤ maxInflight := by
        unfold Outgoing.freeSlots
        split_ifs
        · exact yields_panic
        · exact yields_ok (by omega)
      refine hFree.bind fun len hLen => yields_ok fun free hSome _ => ?_
      split_ifs at hSome
      cases hSome
      omega
    · exact yields_ok fun _ _ hOther => absurd hOther hLevel
  refine hSlots.bind fun slots hFree => yields_ok fun free hSome hLevel => ?_
  obtain ⟨most, rfl, rfl⟩ := Option.map_eq_some_iff.mp hSome
  obtain ⟨hPositive, hRoom⟩ := hFree most rfl hLevel
  split_ifs <;> omega

/-- Retained messages are read within the room there is. -/
theorem readRetained_length (order : IterationOrder) (now : Instant) (request : DataRequest)
    (datalog : DataLog) (slots : Nat) :
    (readRetained order now request datalog slots).Yields fun result =>
      result.2.length ≤ slots := by
  unfold readRetained
  split_ifs
  · exact yields_bind fun result _ => yields_ok (List.length_take_le _ _)
  · exact yields_ok (Nat.zero_le _)

/-- A read of a log gives no more than is asked. -/
theorem DataLog.nativeReadv_length (datalog : DataLog) (filterIdx : FilterIdx) (offset : Offset)
    (len : Nat) (now : Instant) :
    (datalog.nativeReadv filterIdx offset len now).Yields fun result => result.2.length ≤ len := by
  refine yields_bind fun data _ => (data.log.readv_length offset len).bind fun result hLen => ?_
  exact yields_ok ((List.length_filterMap_le _ _).trans hLen)

/-- What a round forwards leaves the names of buffer and connection. -/
theorem pushPublishes_carried (draw : Nat) (request : DataRequest) (datalog : DataLog)
    (outgoing : Outgoing) (connection : Connection) (sharedGroup : Option SharedGroup)
    (caughtup : Bool) (publishes : List (PubWithProp × Option Offset))
    (hRoom : request.qos ≠ 0 →
      outgoing.inflightBuffer.length + publishes.length ≤ maxInflight) :
    (pushPublishes draw request datalog outgoing connection sharedGroup caughtup
      publishes).Yields fun forwarded => forwarded.Carried outgoing connection := by
  have hPushed : ∀ forwards : List Forward, forwards.length = publishes.length →
      (outgoing.pushForwards forwards request.qos request.filterIdx).1.clientId =
          outgoing.clientId ∧
        (outgoing.Numbered →
          (outgoing.pushForwards forwards request.qos request.filterIdx).1.Numbered) := by
    intro forwards hLength
    unfold Outgoing.pushForwards
    split_ifs with hLevel
    · exact ⟨rfl, fun ⟨sent, hWindow⟩ => ⟨sent, hWindow.last, hWindow.length, hWindow.pkids,
        hWindow.bound⟩⟩
    · refine ⟨Outgoing.pushForward_clientId _ _ _,
        fun ⟨sent, hWindow⟩ => ⟨sent + forwards.length, ?_⟩⟩
      exact hWindow.pushForwards request.filterIdx forwards (hLength.symm ▸ hRoom hLevel)
  unfold pushPublishes
  split
  · exact yields_panic
  · rename_i level _
    obtain ⟨hOwner, hNumbered⟩ := hPushed (publishes.map (forwardOf level
      (aliasFor connection request.filter).1 (aliasFor connection request.filter).2.1
      ((aliasFor connection request.filter).2.2.subscriptionIds request.filter)))
      (List.length_map _)
    have hName := aliasFor_clientId connection request.filter
    refine yields_ite (fun _ => ?_) fun _ => ?_
    · refine yields_ok ⟨hName, hOwner, fun hBefore => ?_⟩
      obtain ⟨sent, hWindow⟩ := hNumbered hBefore
      exact ⟨sent, hWindow.last, hWindow.length, hWindow.pkids, hWindow.bound⟩
    · exact yields_bind fun group _ => yields_ok ⟨hName, hOwner, hNumbered⟩

/-- A round of a request leaves the names of buffer and connection. -/
theorem forwardDeviceData_carried (order : IterationOrder) (now : Instant) (draw : Nat)
    (request : DataRequest) (datalog : DataLog) (outgoing : Outgoing) (connection : Connection)
    (sharedGroup : Option SharedGroup) :
    (forwardDeviceData order now draw request datalog outgoing connection sharedGroup).Yields
      fun forwarded => forwarded.Carried outgoing connection := by
  unfold forwardDeviceData
  dsimp only
  refine (inflightSlots_free _ _ _ _).bind fun slots hFree => ?_
  cases slots with
  | none => exact yields_ok ⟨rfl, rfl, id⟩
  | some slots =>
      refine (readRetained_length _ _ _ _ _).bind fun retained hRetained => ?_
      refine (DataLog.nativeReadv_length _ _ _ _ _).bind fun read hRead => ?_
      refine yields_ite (fun _ => yields_ok ⟨rfl, rfl, id⟩) fun _ => ?_
      refine yields_ite (fun _ => yields_ok ⟨rfl, rfl, id⟩) fun _ => ?_
      refine pushPublishes_carried _ _ _ _ _ _ _ _ fun hLevel => ?_
      have hSlots := hFree slots rfl hLevel
      rw [List.length_append, List.length_map, List.length_map]
      omega

end Sweep

/-- A message goes under its own topic, which an alias may come to stand for, or
under the topic its alias stands for. -/
theorem acceptPublish_cases {connection connection' : Connection} {publish publish' : Publish}
    {properties properties' : Option PublishProperties}
    (h : acceptPublish connection publish properties = .ok (connection', publish', properties')) :
    connection' = connection ∧ publish' = publish ∨
      (∃ topicAlias topic, connection.topicAliases topicAlias = some topic ∧
        connection' = connection ∧ publish' = { publish with topic := topic }) ∨
      ∃ topicAlias, publish' = publish ∧ connection' =
        { connection with
          topicAliases :=
            Function.update connection.topicAliases topicAlias (some publish.topic) } := by
  unfold acceptPublish at h
  dsimp only at h
  split_ifs at h
  cases hAlias : properties.bind PublishProperties.topicAlias with
  | none =>
      rw [hAlias] at h
      dsimp only [bind, Except.bind] at h
      split_ifs at h
      cases h
      exact .inl ⟨rfl, rfl⟩
  | some topicAlias =>
      rw [hAlias] at h
      dsimp only at h
      cases hValid : validateAndSetTopicAlias publish connection topicAlias with
      | error error =>
          rw [hValid] at h
          cases h
      | ok accepted =>
          rw [hValid] at h
          dsimp only [bind, Except.bind] at h
          split_ifs at h
          cases h
          unfold validateAndSetTopicAlias at hValid
          split_ifs at hValid
          · split at hValid
            · cases hValid
            · rename_i topic hKnown
              cases hValid
              exact .inr (.inl ⟨topicAlias, topic, hKnown, rfl, rfl⟩)
          · cases hValid
            exact .inr (.inr ⟨topicAlias, rfl, rfl⟩)

/-- An alias that is resolved leaves the name of the connection. -/
theorem acceptPublish_clientId {connection connection' : Connection} {publish publish' : Publish}
    {properties properties' : Option PublishProperties}
    (h : acceptPublish connection publish properties = .ok (connection', publish', properties')) :
    connection'.clientId = connection.clientId := by
  rcases acceptPublish_cases h with ⟨rfl, _⟩ | ⟨_, _, _, rfl, _⟩ | ⟨_, _, rfl⟩ <;> rfl

/-- The connection is still the same one, and its window stays one. -/
structure Client.Carried (client client' : Client) : Prop where
  clientId : client'.connection.clientId = client.connection.clientId
  owner : client'.outgoing.clientId = client.outgoing.clientId
  tracked : client'.tracker.id = client.tracker.id
  numbered : client.outgoing.Numbered → client'.outgoing.Numbered

theorem Client.Carried.refl (client : Client) : client.Carried client := ⟨rfl, rfl, rfl, id⟩

/-- A client that is carried over twice is carried over. -/
theorem Client.Carried.trans {first second third : Client} (h : first.Carried second)
    (h' : second.Carried third) : first.Carried third :=
  ⟨h'.clientId.trans h.clientId, h'.owner.trans h.owner, h'.tracked.trans h.tracked,
    fun hNumbered => h'.numbered (h.numbered hNumbered)⟩

namespace Router

/-- No connection came or went, and none became another one. -/
structure Carried (router router' : Router) : Prop where
  back : ∀ id client', router'.clients.get? id = some client' →
    ∃ client, router.clients.get? id = some client ∧ client.Carried client'
  forth : ∀ id client, router.clients.get? id = some client →
    ∃ client', router'.clients.get? id = some client'
  count : router'.clients.count = router.clients.count
  connectionMap : router'.connectionMap = router.connectionMap
  graveyard : router'.graveyard = router.graveyard
  config : router'.config = router.config

variable {router router' router'' : Router} {id : ConnectionId}

theorem Carried.refl (router : Router) : router.Carried router :=
  ⟨fun _ client hClient => ⟨client, hClient, .refl client⟩,
    fun _ client hClient => ⟨client, hClient⟩, rfl, rfl, rfl, rfl⟩

/-- Clients that are carried over twice are carried over. -/
theorem Carried.trans (h : router.Carried router') (h' : router'.Carried router'') :
    router.Carried router'' where
  back id client'' hClient'' := by
    obtain ⟨client', hClient', hCarried'⟩ := h'.back id client'' hClient''
    obtain ⟨client, hClient, hCarried⟩ := h.back id client' hClient'
    exact ⟨client, hClient, hCarried.trans hCarried'⟩
  forth id client hClient := by
    obtain ⟨client', hClient'⟩ := h.forth id client hClient
    exact h'.forth id client' hClient'
  count := h'.count.trans h.count
  connectionMap := h'.connectionMap.trans h.connectionMap
  graveyard := h'.graveyard.trans h.graveyard
  config := h'.config.trans h.config

/-- The logs, the queue and the groups are no part of this. -/
theorem Carried.congr (h : router.Carried router') (hClients : router''.clients = router'.clients)
    (hMap : router''.connectionMap = router'.connectionMap)
    (hGraveyard : router''.graveyard = router'.graveyard)
    (hConfig : router''.config = router'.config) : router.Carried router'' :=
  ⟨hClients ▸ h.back, hClients ▸ h.forth, hClients ▸ h.count, hMap.trans h.connectionMap,
    hGraveyard.trans h.graveyard, hConfig.trans h.config⟩

/-- One connection changed, and stayed the same one. -/
theorem carried_modified {change : Client → Client}
    (hClients : router'.clients = router.clients.modify id change)
    (hMap : router'.connectionMap = router.connectionMap)
    (hGraveyard : router'.graveyard = router.graveyard) (hConfig : router'.config = router.config)
    (h : ∀ client, router.clients.get? id = some client → client.Carried (change client)) :
    router.Carried router' := by
  have hGet : ∀ key, router'.clients.get? key =
      if key = id then (router.clients.get? key).map change else router.clients.get? key :=
    fun key => hClients ▸ Slab.get?_modify _ _ _ _
  refine ⟨fun key client' hClient' => ?_, fun key client hClient => ?_, ?_, hMap, hGraveyard,
    hConfig⟩
  · rw [hGet] at hClient'
    split_ifs at hClient' with hHere
    · obtain ⟨client, hClient, rfl⟩ := Option.map_eq_some_iff.mp hClient'
      exact ⟨client, hClient, h client (hHere ▸ hClient)⟩
    · exact ⟨client', hClient', .refl client'⟩
  · rw [hGet, hClient]
    split_ifs
    · exact ⟨_, rfl⟩
    · exact ⟨_, rfl⟩
  · rw [hClients]
    exact Slab.count_modify _ _ _

/-- A change that leaves names and window alone. -/
theorem carried_untouched {change : Client → Client}
    (hClients : router'.clients = router.clients.modify id change)
    (hMap : router'.connectionMap = router.connectionMap)
    (hGraveyard : router'.graveyard = router.graveyard) (hConfig : router'.config = router.config)
    (hChange : ∀ client, (change client).connection.clientId = client.connection.clientId ∧
      (change client).outgoing = client.outgoing ∧
      (change client).tracker.id = client.tracker.id) : router.Carried router' := by
  refine carried_modified hClients hMap hGraveyard hConfig fun client _ => ?_
  obtain ⟨hName, hOutgoing, hTracked⟩ := hChange client
  exact ⟨hName, congrArg Outgoing.clientId hOutgoing, hTracked, fun h => hOutgoing ▸ h⟩

/-- The step leaves each connection what it is. -/
abbrev Carries (router : Router) (result : Exec Empty Router) : Prop := result.Yields router.Carried

theorem Carried.then (h : router.Carried router') {result : Exec Empty Router}
    (hResult : router'.Carries result) : router.Carries result :=
  hResult.mono fun _ hNext => h.trans hNext

section Scheduler

/-- Requests that are tracked carry all clients over. -/
theorem trackv_carried (router : Router) (id : ConnectionId) (requests : List DataRequest) :
    router.Carries (router.trackv id requests) :=
  yields_bind fun _ _ =>
    yields_ok (carried_untouched rfl rfl rfl rfl fun _ => ⟨rfl, rfl, rfl⟩)

/-- A request that is tracked carries all clients over. -/
theorem track_carried (router : Router) (id : ConnectionId) (request : DataRequest) :
    router.Carries (router.track id request) :=
  yields_bind fun _ _ =>
    yields_ok (carried_untouched rfl rfl rfl rfl fun _ => ⟨rfl, rfl, rfl⟩)

/-- A request that is dropped carries all clients over. -/
theorem untrack_carried (router : Router) (id : ConnectionId) (filter : FilterName) :
    router.Carries (router.untrack id filter) :=
  yields_bind fun _ _ =>
    yields_ok (carried_untouched rfl rfl rfl rfl fun _ => ⟨rfl, rfl, rfl⟩)

/-- A tracker that is woken keeps its name. -/
theorem tryReady_id (tracker : Tracker) (reason : ScheduleReason) :
    (tracker.tryReady reason).1.id = tracker.id := by
  unfold Tracker.tryReady
  split
  · rfl
  · split_ifs <;> rfl

/-- A client that is asked for is there. -/
theorem client_yields (router : Router) (id : ConnectionId) :
    (router.client id).Yields fun client => router.clients.get? id = some client := by
  unfold client
  split
  · exact yields_panic
  · rename_i client hClient
    exact yields_ok hClient

/-- Waking carries all clients over. -/
theorem reschedule_carried (router : Router) (id : ConnectionId) (reason : ScheduleReason) :
    router.Carries (router.reschedule id reason) := by
  refine (router.client_yields id).bind fun client hClient => ?_
  have hName := tryReady_id client.tracker reason
  split
  · exact yields_ok (.refl router)
  · rename_i tracker previous hReady
    rw [hReady] at hName
    refine yields_ok (carried_modified rfl rfl rfl rfl fun other hOther => ?_)
    rw [hClient, Option.some.injEq] at hOther
    exact hOther ▸ ⟨rfl, rfl, hName, fun h => h⟩

/-- Pausing carries all clients over. -/
theorem pause_carried (router : Router) (id : ConnectionId) (reason : PauseReason) :
    router.Carries (router.pause id reason) :=
  yields_ite (fun _ => yields_bind fun _ _ =>
      yields_ok (carried_untouched rfl rfl rfl rfl fun _ => ⟨rfl, rfl, rfl⟩))
    fun _ => yields_panic

/-- A turn that is taken carries all clients over. -/
theorem poll_carried (router : Router) : router.Carried router.poll.1 := by
  unfold poll
  split
  · exact .refl router
  · split
    · exact (Carried.refl router).congr rfl rfl rfl rfl
    · exact carried_untouched rfl rfl rfl rfl fun _ => ⟨rfl, rfl, rfl⟩

end Scheduler

section Payload

/-- A packet or a message leaves each connection what it is. -/
abbrev CarriesAll {α : Type} (router : Router) (result : Exec Empty (Router × α)) : Prop :=
  result.Yields fun outcome => router.Carried outcome.1

/-- A message that is appended carries all clients over. -/
theorem appendToCommitlog_carried (order : IterationOrder) (now : Instant) (router : Router)
    (id : ConnectionId) (publish : Publish) (properties : Option PublishProperties) :
    (router.appendToCommitlog order now id publish properties).Yields fun result =>
      ∀ router', result = .ok router' → router.Carried router' := by
  refine (router.client_yields id).bind fun client hClient => ?_
  cases hAccept : acceptPublish client.connection publish properties with
  | error error => exact yields_ok nofun
  | ok accepted =>
      refine yields_bind fun recorded _ => yields_ok ?_
      rintro router' ⟨rfl⟩
      refine carried_modified rfl rfl rfl rfl fun other hOther => ?_
      rw [hClient, Option.some.injEq] at hOther
      subst hOther
      exact ⟨acceptPublish_clientId hAccept, rfl, rfl, fun h => h⟩

theorem modifyAcks_carried (router : Router) (id : ConnectionId) (change : AckLog → AckLog) :
    router.Carried (router.modifyAcks id change) :=
  carried_untouched rfl rfl rfl rfl fun _ => ⟨rfl, rfl, rfl⟩

/-- A message that is published carries all clients over. -/
theorem handlePublish_carried (order : IterationOrder) (now : Instant) (router : Router)
    (id : ConnectionId) (batch : Batch) (publish : Publish)
    (properties : Option PublishProperties) :
    router.CarriesAll (router.handlePublish order now id batch publish properties) := by
  have hAcked : ∀ (acknowledged : Prop) [Decidable acknowledged] (puback : PubAck),
      router.Carried (if acknowledged then router.modifyAcks id fun acks => acks.puback puback
        else router) := by
    intro acknowledged _ puback
    split_ifs
    · exact router.modifyAcks_carried id _
    · exact .refl router
  unfold handlePublish
  split
  · exact yields_ok (carried_untouched rfl rfl rfl rfl fun _ => ⟨rfl, rfl, rfl⟩)
  · refine (appendToCommitlog_carried order now _ id publish properties).bind
      fun result hResult => ?_
    split
    · exact yields_ok ((hAcked _ _).trans (hResult _ rfl))
    · exact yields_ok (hAcked _ _)
    · exact yields_ok (hAcked _ _)

/-- A filter that is subscribed carries all clients over. -/
theorem prepareFilter_carried (router : Router) (id : ConnectionId) (cursor : Offset)
    (filterIdx : FilterIdx) (filter : Filter) (group : Option Str) (subscriptionId : Option Nat) :
    router.Carries (router.prepareFilter id cursor filterIdx filter group subscriptionId) := by
  refine yields_bind fun client _ => ?_
  have hSubscribed : ∀ subscriptions groups, router.Carried
      { router.modifyClient id (subscribed filter.path subscriptionId) with
        subscriptionMap := subscriptions, sharedSubscriptions := groups } :=
    fun _ _ => carried_untouched rfl rfl rfl rfl fun _ => ⟨rfl, rfl, rfl⟩
  refine yields_ite (fun _ => yields_ok (hSubscribed _ _)) fun _ => ?_
  refine (track_carried _ id _).bind fun tracked hTracked => ?_
  exact ((hSubscribed _ _).trans hTracked).then (reschedule_carried tracked id .NewFilter)

/-- Subscriptions carry all clients over. -/
theorem subscribeFilters_carried (id : ConnectionId) (subscriptionId : Option Nat)
    (filters : List Filter) (router : Router) (batch : Batch) (codes : List SubscribeReasonCode) :
    router.CarriesAll (subscribeFilters id subscriptionId filters router batch codes) := by
  induction filters generalizing router codes with
  | nil => exact yields_ok (.refl router)
  | cons filter filters ih =>
      rw [subscribeFilters]
      refine yields_ite (fun _ => yields_ok (.refl router)) fun _ => ?_
      refine yields_ite (fun _ => yields_ok (.refl router)) fun _ => ?_
      refine yields_bind fun found _ => ?_
      refine (prepareFilter_carried _ id _ _ filter _ subscriptionId).bind fun next hNext => ?_
      have hLogs : router.Carried { router with datalog := found.1 } :=
        (Carried.refl router).congr rfl rfl rfl rfl
      exact (ih next _).mono fun _ hRest => (hLogs.trans hNext).trans hRest

/-- A filter that is given up carries all clients over. -/
theorem unsubscribeFilter_carried (router : Router) (id : ConnectionId) (batch : Batch)
    (pkid : UInt16) (filter : Str) :
    router.CarriesAll (router.unsubscribeFilter id batch pkid filter) := by
  refine yields_bind fun client _ => ?_
  refine yields_ite (fun _ => yields_ok (.refl router)) fun _ => ?_
  have hMap : router.Carried
      { router with subscriptionMap := router.subscriptionMap.filter (· ≠ (filter, id)) } :=
    (Carried.refl router).congr rfl rfl rfl rfl
  refine yields_ite (fun _ => yields_ok hMap) fun _ => ?_
  refine (untrack_carried _ id filter).bind fun untracked hUntracked => ?_
  refine yields_bind fun datalog _ => yields_ok ?_
  have hGiven : router.Carried
      { { router with
            subscriptionMap := router.subscriptionMap.filter (· ≠ (filter, id)) }.modifyClient
          id (unsubscribed filter pkid) with
        sharedSubscriptions :=
          removeFromGroups router.sharedSubscriptions client.outgoing.clientId } :=
    carried_untouched rfl rfl rfl rfl fun _ => ⟨rfl, rfl, rfl⟩
  exact (hGiven.trans hUntracked).congr rfl rfl rfl rfl

/-- Filters that are given up carry all clients over. -/
theorem unsubscribeFilters_carried (id : ConnectionId) (pkid : UInt16) (filters : List Str)
    (router : Router) (batch : Batch) :
    router.CarriesAll (unsubscribeFilters id pkid filters router batch) := by
  induction filters generalizing router batch with
  | nil => exact yields_ok (.refl router)
  | cons filter filters ih =>
      refine (unsubscribeFilter_carried router id batch pkid filter).bind fun next hNext => ?_
      exact (ih _ _).mono fun _ hRest => hNext.trans hRest

/-- An acknowledgement carries all clients over. -/
theorem takeAck_carried (router : Router) (id : ConnectionId) (batch : Batch) (pkid : UInt16)
    {change : Client → Client} (hChange : ∀ client : Client, client.Carried (change client)) :
    router.CarriesAll (router.takeAck id batch pkid change) := by
  refine (router.client_yields id).bind fun client hClient => ?_
  have hTaken : router.Carried (router.modifyClient id fun other =>
      { other with outgoing := (client.outgoing.registerAck pkid).1 }) := by
    refine carried_modified rfl rfl rfl rfl fun other hOther => ?_
    rw [hClient, Option.some.injEq] at hOther
    subst hOther
    have hOwner : (client.outgoing.registerAck pkid).1.clientId = client.outgoing.clientId := by
      unfold Outgoing.registerAck
      split <;> rfl
    exact ⟨rfl, hOwner, rfl, fun ⟨sent, hWindow⟩ => ⟨sent, hWindow.registerAck pkid⟩⟩
  dsimp only
  split
  · exact yields_ok hTaken
  · have hChanged : ∀ taken : Router, taken.Carried (taken.modifyClient id change) := fun _ =>
      carried_modified rfl rfl rfl rfl fun other _ => hChange other
    exact ((hTaken.trans (hChanged _)).then (reschedule_carried _ id .IncomingAck)).bind
      fun next hNext => yields_ok hNext

/-- The release of a message of QoS 2 carries all clients over. -/
theorem handlePubRel_carried (order : IterationOrder) (now : Instant) (router : Router)
    (id : ConnectionId) (batch : Batch) (pubrel : PubRel) :
    router.CarriesAll (router.handlePubRel order now id batch pubrel) := by
  refine yields_bind fun client _ => ?_
  have hAcked := router.modifyAcks_carried id fun _ =>
    (client.acks.pubcomp { pkid := pubrel.pkid, reason := .Success }).1
  dsimp only
  split
  · exact yields_ok hAcked
  · refine (appendToCommitlog_carried order now _ id _ _).bind fun result hResult => ?_
    split
    · exact yields_ok hAcked
    · refine ((hAcked.trans (hResult _ rfl)).then (reschedule_carried _ id .IncomingAck)).bind
        fun next hNext => yields_ok hNext

/-- The end of a message of QoS 2 carries all clients over. -/
theorem handlePubComp_carried (router : Router) (id : ConnectionId) (batch : Batch)
    (pubcomp : PubComp) : router.CarriesAll (router.handlePubComp id batch pubcomp) := by
  refine (router.client_yields id).bind fun client hClient => ?_
  have hTaken : router.Carried (router.modifyClient id fun other =>
      { other with outgoing := (client.outgoing.registerPubcomp pubcomp.pkid).1 }) := by
    refine carried_modified rfl rfl rfl rfl fun other hOther => ?_
    rw [hClient, Option.some.injEq] at hOther
    subst hOther
    unfold Outgoing.registerPubcomp
    split
    · exact .refl client
    · exact ⟨rfl, rfl, rfl, fun ⟨sent, hWindow⟩ =>
        ⟨sent, hWindow.last, hWindow.length, hWindow.pkids, hWindow.bound⟩⟩
  dsimp only
  split <;> exact yields_ok hTaken

/-- Each packet carries all clients over. -/
theorem handlePacket_carried (order : IterationOrder) (now : Instant) (id : ConnectionId)
    (router : Router) (batch : Batch) (packet : Packet) :
    router.CarriesAll (handlePacket order now id router batch packet) := by
  unfold handlePacket
  split
  · exact handlePublish_carried order now router id batch _ _
  · refine (subscribeFilters_carried id _ _ router batch []).bind fun result hResult => ?_
    exact yields_ok (hResult.trans (carried_untouched rfl rfl rfl rfl fun _ => ⟨rfl, rfl, rfl⟩))
  · exact (unsubscribeFilters_carried id _ _ router batch).bind fun result hResult =>
      yields_ok hResult
  · exact takeAck_carried router id batch _ fun client => .refl client
  · exact takeAck_carried router id batch _ fun client =>
      ⟨rfl, rfl, rfl, fun ⟨sent, hWindow⟩ =>
        ⟨sent, hWindow.last, hWindow.length, hWindow.pkids, hWindow.bound⟩⟩
  · exact handlePubRel_carried order now router id batch _
  · exact handlePubComp_carried router id batch _
  · exact yields_ok (router.modifyAcks_carried id _)
  · exact yields_bind fun client _ => yields_ok ((Carried.refl router).congr rfl rfl rfl rfl)
  · exact yields_ok (.refl router)

/-- A batch of packets carries all clients over. -/
theorem handlePackets_carried (order : IterationOrder) (now : Instant) (id : ConnectionId)
    (packets : List Packet) (router : Router) (batch : Batch) :
    router.CarriesAll (handlePackets order now id packets router batch) := by
  induction packets generalizing router batch with
  | nil => exact yields_ok (.refl router)
  | cons packet packets ih =>
      refine (handlePacket_carried order now id router batch packet).bind fun next hNext => ?_
      dsimp only
      refine yields_ite (fun _ => yields_ok hNext) fun _ => ?_
      exact (ih _ _).mono fun _ hRest => hNext.trans hRest

/-- Waiters that are woken are clients that stay. -/
theorem wake_carried (waiters : List Waiter) (router : Router) :
    router.Carries (wake waiters router) := by
  induction waiters generalizing router with
  | nil => exact yields_ok (.refl router)
  | cons waiter waiters ih =>
      refine (track_carried router waiter.1 waiter.2).bind fun tracked hTracked => ?_
      refine (reschedule_carried tracked waiter.1 .FreshData).bind fun next hNext => ?_
      exact (hTracked.trans hNext).then (ih next)

/-- Waking all who are notified carries all clients over. -/
theorem wakeAll_carried (router : Router) : router.Carries router.wakeAll := by
  have hTaken : router.Carried { router with notifications := [] } :=
    (Carried.refl router).congr rfl rfl rfl rfl
  exact hTaken.then (wake_carried router.notifications _)

end Payload

section Consume

/-- Acknowledgements that are sent carry all clients over. -/
theorem ackDeviceData_carried (router : Router) (id : ConnectionId) :
    router.Carried (router.ackDeviceData id) :=
  carried_modified rfl rfl rfl rfl fun _ _ => ⟨rfl, rfl, rfl, fun ⟨sent, hWindow⟩ =>
    ⟨sent, hWindow.last, hWindow.length, hWindow.pkids, hWindow.bound⟩⟩

/-- A round of forwarding carries all clients over. -/
theorem forward_carried (order : IterationOrder) (now : Instant) (draw : Nat) (router : Router)
    (id : ConnectionId) (request : DataRequest) :
    (router.forward order now draw id request).Yields fun result =>
      router.Carried result.2.2 := by
  refine (router.client_yields id).bind fun client hClient => ?_
  refine (forwardDeviceData_carried _ _ _ _ _ _ _ _).bind fun forwarded hForwarded => yields_ok ?_
  refine carried_modified rfl rfl rfl rfl fun other hOther => ?_
  rw [hClient, Option.some.injEq] at hOther
  subst hOther
  exact ⟨hForwarded.clientId, hForwarded.owner, rfl, hForwarded.numbered⟩

/-- The rounds of a turn carry all clients over. -/
theorem consumeRequests_carried (order : IterationOrder) (now : Instant) (draw : Nat)
    (id : ConnectionId) (iterations : Nat) (router : Router) (requests skipped : List DataRequest) :
    router.Carries (consumeRequests order now draw id iterations router requests skipped) := by
  induction iterations generalizing router requests skipped with
  | zero => exact trackv_carried router id _
  | succ iterations ih =>
      cases requests with
      | nil =>
          have hPause : router.Carries (if skipped = [] then router.pause id .Caughtup
              else ok router) :=
            yields_ite (fun _ => pause_carried router id .Caughtup)
              fun _ => yields_ok (.refl router)
          exact hPause.bind fun paused hPaused => hPaused.then (trackv_carried paused id skipped)
      | cons request requests =>
          refine (forward_carried order now draw router id request).bind fun result hResult => ?_
          obtain ⟨status, left, next⟩ := result
          have hStop : ∀ (reason : PauseReason) (all : List DataRequest),
              router.Carries (next.pause id reason >>= fun router => router.trackv id all) :=
            fun reason all => (hResult.then (pause_carried next id reason)).bind
              fun paused hPaused => hPaused.then (trackv_carried paused id all)
          cases status with
          | BufferFull => exact hStop .Busy _
          | InflightFull => exact hStop .InflightFull _
          | FilterCaughtup =>
              refine yields_bind fun datalog _ => ?_
              have hParked : router.Carried { next with datalog := datalog } :=
                hResult.congr rfl rfl rfl rfl
              exact hParked.then (ih _ _ _)
          | PartialRead => exact hResult.then (ih _ _ _)
          | SkipRequest => exact hResult.then (ih _ _ _)

/-- A turn carries all clients over. -/
theorem consume_carried (order : IterationOrder) (now : Instant) (draw : Nat) (router : Router) :
    router.Carries (router.consume order now draw) := by
  have hPoll := router.poll_carried
  unfold consume
  split
  · rename_i polled hPolled
    rw [hPolled] at hPoll
    exact yields_ok hPoll
  · rename_i polled id requests hPolled
    rw [hPolled] at hPoll
    exact (hPoll.trans (polled.ackDeviceData_carried id)).then
      (consumeRequests_carried _ _ _ _ _ _ _ _)

/-- A request for a last message carries all clients over. -/
theorem retrieveShadow_carried (router : Router) (id : ConnectionId) (filter : FilterName) :
    router.Carries (router.retrieveShadow id filter) := by
  refine (router.client_yields id).bind fun client hClient => ?_
  split
  · exact yields_ok (.refl router)
  · refine yields_ok (carried_modified rfl rfl rfl rfl fun other hOther => ?_)
    rw [hClient, Option.some.injEq] at hOther
    subst hOther
    split_ifs <;> exact ⟨rfl, rfl, rfl, fun ⟨sent, hWindow⟩ =>
      ⟨sent, hWindow.last, hWindow.length, hWindow.pkids, hWindow.bound⟩⟩

/-- The message of a will carries all clients over. -/
theorem handleLastWill_carried (order : IterationOrder) (now : Instant) (router : Router)
    (clientId : ClientId) : router.Carries (router.handleLastWill order now clientId) := by
  unfold handleLastWill
  split
  · exact yields_ok (.refl router)
  · have hWithout : router.Carried
        { router with lastWills := Function.update router.lastWills clientId none } :=
      (Carried.refl router).congr rfl rfl rfl rfl
    refine yields_ite (fun _ => yields_bind fun recorded _ => ?_) fun _ => yields_ok hWithout
    have hRecorded : router.Carried
        { router with
          lastWills := Function.update router.lastWills clientId none
          datalog := recorded.1
          notifications := recorded.2.1 } := (Carried.refl router).congr rfl rfl rfl rfl
    exact hRecorded.then (wakeAll_carried _)

end Consume

/-- A batch leaves each connection what it is, but may end its own. -/
theorem handleDevicePayload_yields (order : IterationOrder) (now : Instant) (router : Router)
    (id : ConnectionId) (packets : List Packet) :
    (router.handleDevicePayload order now id packets).Yields fun router' =>
      ∃ middle, router.Carried middle ∧
        (router' = middle ∨ middle.handleDisconnection id = ok router') := by
  unfold handleDevicePayload
  split
  · exact yields_ok ⟨router, .refl router, .inl rfl⟩
  · refine (handlePackets_carried order now id packets router Batch.new).bind
      fun handled hHandled => ?_
    have hAcked : router.Carries (if handled.2.forceAck then
        handled.1.reschedule id .FreshData else ok handled.1) :=
      yields_ite (fun _ => hHandled.then (reschedule_carried _ id .FreshData))
        fun _ => yields_ok hHandled
    refine hAcked.bind fun acked hCarried => ?_
    have hWoken : router.Carries (if handled.2.newData then acked.wakeAll else ok acked) :=
      yields_ite (fun _ => hCarried.then acked.wakeAll_carried) fun _ => yields_ok hCarried
    refine hWoken.bind fun woken hMiddle => yields_ite (fun _ => ?_) fun _ => ?_
    · exact fun router' hGone => ⟨woken, hMiddle, .inr hGone⟩
    · exact yields_ok ⟨woken, hMiddle, .inl rfl⟩

end Router

end SnapEmu.Broker
