import SnapEmu.Broker.Invariant

/-! The sweep over the requests of a connection: messages go out and stay in
flight, and each request ends with its connection or among those that wait. -/
namespace SnapEmu.Broker

open Mqtt (Str)
open Semantics Exec

namespace Outgoing

/-- The messages pushed are in flight behind the others. -/
theorem pushForward_inflight (filterIdx : FilterIdx) (forwards : List Forward)
    (outgoing : Outgoing) :
    ∃ added : List Inflight, (forwards.foldl (pushForward filterIdx) outgoing).inflightBuffer =
        outgoing.inflightBuffer ++ added ∧
      added.map Prod.snd = forwards.map (fun forward => (filterIdx, forward.cursor)) ∧
      (forwards.foldl (pushForward filterIdx) outgoing).clientId = outgoing.clientId ∧
      outgoing.dataBuffer ⊆ (forwards.foldl (pushForward filterIdx) outgoing).dataBuffer := by
  induction forwards generalizing outgoing with
  | nil => exact ⟨[], by simp, rfl, rfl, List.Subset.refl _⟩
  | cons forward forwards ih =>
      obtain ⟨added, hBuffer, hAdded, hOwner, hData⟩ := ih (outgoing.pushForward filterIdx forward)
      refine ⟨(outgoing.lastPkid + 1, filterIdx, forward.cursor) :: added, ?_, ?_, hOwner, ?_⟩
      · rw [List.foldl_cons, hBuffer, pushForward, List.append_assoc]
        rfl
      · rw [List.map_cons, hAdded, List.map_cons]
      · refine List.Subset.trans ?_ hData
        exact List.subset_append_left _ _

end Outgoing

/-- An alias for a filter changes nothing else of a connection. -/
theorem aliasFor_connection (connection : Connection) (filter : FilterName) :
    (aliasFor connection filter).2.2.clientId = connection.clientId ∧
      (aliasFor connection filter).2.2.subscriptions = connection.subscriptions ∧
      (aliasFor connection filter).2.2.topicAliases = connection.topicAliases := by
  unfold aliasFor
  split
  · exact ⟨rfl, rfl, rfl⟩
  · split <;> exact ⟨rfl, rfl, rfl⟩

/-- What goes out in a sweep is in flight, from the log of the request, between
the place it was at and the place it goes on. -/
structure Sent (request : DataRequest) (outgoing outgoing' : Outgoing) (stop : Cursor)
    (added : List Inflight) : Prop where
  owner : outgoing'.clientId = outgoing.clientId
  window : ∃ sent, outgoing'.Window sent
  dataBuffer : outgoing.dataBuffer ⊆ outgoing'.dataBuffer
  inflight : outgoing'.inflightBuffer = outgoing.inflightBuffer ++ added
  log : ∀ entry ∈ added, entry.2.1 = request.filterIdx
  between : ∀ entry ∈ added, ∀ cursor, entry.2.2 = some cursor →
    request.cursor.2 ≤ cursor.2 ∧ cursor.2 < stop.2
  ordered : added.Pairwise fun first second => ∀ cursor cursor', first.2.2 = some cursor →
    second.2.2 = some cursor' → cursor.2 < cursor'.2

theorem Sent.refl {request : DataRequest} {outgoing : Outgoing} {stop : Cursor}
    (hWindow : ∃ sent, outgoing.Window sent) : Sent request outgoing outgoing stop [] :=
  ⟨rfl, hWindow, List.Subset.refl _, by simp, by simp, by simp, .nil⟩

/-- Retained messages have no place in a log. -/
def offsetsOf (publishes : List (PubWithProp × Option Offset)) : List (Option Offset) :=
  publishes.map Prod.snd

section

variable {retained : List PubWithProp} {read : List (PubWithProp × Offset)}

/-- Retained messages go out before the ones that are read, which keep their places. -/
theorem offsetsOf_batch (retained : List PubWithProp) (read : List (PubWithProp × Offset)) :
    offsetsOf (retained.map (fun publish => (publish, none)) ++
        read.map fun entry => (entry.1, some entry.2)) =
      retained.map (fun _ => none) ++ read.map fun entry => some entry.2 := by
  rw [offsetsOf, List.map_append, List.map_map, List.map_map]
  rfl

/-- The places in a batch are those of the messages that are read. -/
theorem of_mem_offsetsOf_batch {cursor : Cursor}
    (h : some cursor ∈ offsetsOf (retained.map (fun publish => (publish, none)) ++
      read.map fun entry => (entry.1, some entry.2))) :
    ∃ entry ∈ read, entry.2 = cursor := by
  rw [offsetsOf_batch] at h
  simpa using h

/-- The places in a batch increase, as those of the messages that are read do. -/
theorem pairwise_offsetsOf_batch
    (hOrdered : read.Pairwise fun first second => first.2.2 < second.2.2) :
    (offsetsOf (retained.map (fun publish => (publish, none)) ++
      read.map fun entry => (entry.1, some entry.2))).Pairwise fun first second =>
        ∀ cursor cursor', first = some cursor → second = some cursor' → cursor.2 < cursor'.2 := by
  rw [offsetsOf_batch]
  refine List.pairwise_append.mpr ⟨List.pairwise_map.mpr ?_, List.pairwise_map.mpr ?_, ?_⟩
  · exact List.pairwise_of_forall fun _ _ _ _ hSome _ => nomatch hSome
  · refine hOrdered.imp fun hLess cursor cursor' hCursor hCursor' => ?_
    cases hCursor
    cases hCursor'
    exact hLess
  · intro first hFirst second _ cursor cursor' hSome _
    obtain ⟨_, _, rfl⟩ := List.mem_map.mp hFirst
    cases hSome

end

/-- What is pushed has been read from the log in order. -/
theorem Sent.push {request : DataRequest} {outgoing : Outgoing} {stop : Cursor}
    {publishes : List (PubWithProp × Option Offset)} {forwards : List Forward}
    (hForwards : forwards.map Forward.cursor = offsetsOf publishes)
    (hWindow : ∃ sent, outgoing.Window sent)
    (hRoom : request.qos ≠ 0 → outgoing.inflightBuffer.length + forwards.length ≤ maxInflight)
    (hBetween : ∀ cursor, some cursor ∈ offsetsOf publishes →
      request.cursor.2 ≤ cursor.2 ∧ cursor.2 < stop.2)
    (hOrdered : (offsetsOf publishes).Pairwise fun first second => ∀ cursor cursor',
      first = some cursor → second = some cursor' → cursor.2 < cursor'.2) :
    ∃ added, Sent request outgoing
        (outgoing.pushForwards forwards request.qos request.filterIdx).1 stop added ∧
      ∀ entry ∈ added, entry.2.2 ∈ offsetsOf publishes := by
  unfold Outgoing.pushForwards
  dsimp only
  split_ifs with hQos
  · exact ⟨[], ⟨rfl, hWindow.imp fun _ h => h.congr rfl rfl, List.subset_append_left _ _, by simp,
      by simp, by simp, .nil⟩, by simp⟩
  · obtain ⟨added, hBuffer, hAdded, hOwner, hData⟩ :=
      Outgoing.pushForward_inflight request.filterIdx forwards outgoing
    obtain ⟨sent, hSent⟩ := hWindow
    have hOffsets : added.map (fun entry => entry.2.2) = offsetsOf publishes := by
      have hCursors := congrArg (List.map Prod.snd) hAdded
      rw [List.map_map, List.map_map] at hCursors
      exact hCursors.trans hForwards
    have hMem : ∀ entry ∈ added, entry.2.2 ∈ offsetsOf publishes := by
      intro entry hEntry
      rw [← hOffsets]
      exact List.mem_map_of_mem (f := fun entry : Inflight => entry.2.2) hEntry
    refine ⟨added, ⟨hOwner, ⟨_, hSent.pushForwards _ _ (hRoom hQos)⟩, hData, hBuffer, ?_, ?_, ?_⟩,
      hMem⟩
    · intro entry hEntry
      have hSnd : entry.2 ∈ added.map Prod.snd := List.mem_map_of_mem hEntry
      rw [hAdded] at hSnd
      obtain ⟨forward, _, hSame⟩ := List.mem_map.mp hSnd
      rw [← hSame]
    · intro entry hEntry cursor hCursor
      exact hBetween cursor (hCursor ▸ hMem entry hEntry)
    · rw [← hOffsets] at hOrdered
      exact List.pairwise_map.mp hOrdered

variable {datalog : DataLog} {histories : FilterIdx → List PublishData} {request : DataRequest}
  {outgoing : Outgoing} {connection : Connection}

/-- The outcome of a sweep for one request that is not shared. -/
structure Swept (datalog : DataLog) (histories : FilterIdx → List PublishData)
    (request : DataRequest) (outgoing : Outgoing) (connection : Connection)
    (forwarded : Forwarded) : Prop where
  logs : datalog.SameLogs forwarded.datalog
  native : forwarded.datalog.native = datalog.native
  filter : forwarded.request.filter = request.filter
  filterIdx : forwarded.request.filterIdx = request.filterIdx
  group : forwarded.request.group = request.group
  qos : forwarded.request.qos = request.qos
  placed : datalog.Placed histories request.filterIdx forwarded.request.cursor
  onward : request.cursor.2 ≤ forwarded.request.cursor.2
  sent : ∃ added, Sent request outgoing forwarded.outgoing forwarded.request.cursor added ∧
    ∀ entry ∈ added, ∀ cursor, entry.2.2 = some cursor →
      datalog.Placed histories request.filterIdx cursor
  clientId : forwarded.connection.clientId = connection.clientId
  subscriptions : forwarded.connection.subscriptions = connection.subscriptions
  aliases : forwarded.connection.topicAliases = connection.topicAliases
  alone : forwarded.sharedGroup = none
  bufferFull : forwarded.status = .BufferFull →
    Notification.Unschedule ∈ forwarded.outgoing.dataBuffer
  inflightFull : forwarded.status = .InflightFull →
    forwarded.outgoing.inflightBuffer.length = maxInflight
  caughtup : forwarded.status = .FilterCaughtup →
    Lasting datalog.config (histories request.filterIdx) →
      datalog.AtEnd request.filterIdx forwarded.request.cursor
  unskipped : forwarded.status ≠ .SkipRequest

/-- The levels up to two are levels. -/
theorem qos_of_le {number : Nat} (h : number ≤ 2) : ∃ level, qos number = some level := by
  interval_cases number
  · exact ⟨.AtMostOnce, rfl⟩
  · exact ⟨.AtLeastOnce, rfl⟩
  · exact ⟨.ExactlyOnce, rfl⟩

/-- Room in flight is counted as the window has it. -/
theorem inflightSlots_eq (datalog : DataLog) (request : DataRequest)
    (hWindow : ∃ sent, outgoing.Window sent) :
    ∃ slots, inflightSlots request datalog outgoing none = ok slots ∧
      (slots = none → outgoing.inflightBuffer.length = maxInflight) ∧
      ∀ number, slots = some number →
        (request.qos ≠ 0 → outgoing.inflightBuffer.length + number ≤ maxInflight) ∧
          (0 < datalog.config.maxOutgoingPacketCount → 0 < number) := by
  obtain ⟨sent, hWindow⟩ := hWindow
  have hBound := hWindow.bound
  unfold inflightSlots
  simp only [Option.any_none, Bool.false_eq_true, if_false, Option.map_id']
  by_cases hQos : request.qos ≠ 0
  · rw [if_pos hQos, Outgoing.freeSlots, if_neg (Nat.not_lt.mpr hBound), ok_bind, ok_bind]
    split_ifs with hFull
    · exact ⟨none, rfl, fun _ => by omega, nofun⟩
    · refine ⟨_, rfl, nofun, fun number hSome => ?_⟩
      cases hSome
      exact ⟨fun _ => by omega, fun _ => Nat.pos_of_ne_zero hFull⟩
  · rw [if_neg hQos, ok_bind]
    refine ⟨_, rfl, nofun, fun number hSome => ?_⟩
    cases hSome
    exact ⟨fun hNot => absurd hNot hQos, id⟩

/-- Retained messages are read within the room there is. -/
theorem readRetained_eq (h : datalog.Sound histories) (order : IterationOrder) (now : Instant)
    (request : DataRequest) (slots : Nat) :
    ∃ datalog' retained, readRetained order now request datalog slots = ok (datalog', retained) ∧
      datalog.SameLogs datalog' ∧ datalog'.native = datalog.native ∧ retained.length ≤ slots := by
  unfold readRetained
  split_ifs
  · obtain ⟨datalog', found, hRead, hSame, hNative⟩ :=
      h.readRetainedMessages order request.filter now
    rw [hRead, ok_bind]
    exact ⟨datalog', _, rfl, hSame, hNative, List.length_take_le _ _⟩
  · exact ⟨datalog, [], rfl, .refl _, rfl, Nat.zero_le _⟩

/-- What goes out with the messages of a sweep. -/
theorem pushPublishes_eq (draw : Nat) (datalog : DataLog) {stop : Cursor}
    {publishes : List (PubWithProp × Option Offset)} (caughtup : Bool) {origin : DataRequest}
    (connection : Connection) (hLevel : request.qos ≤ 2) (hFrom : origin.qos = request.qos)
    (hIdx : origin.filterIdx = request.filterIdx)
    (hWindow : ∃ sent, outgoing.Window sent)
    (hRoom : request.qos ≠ 0 →
      outgoing.inflightBuffer.length + publishes.length ≤ maxInflight)
    (hBetween : ∀ cursor, some cursor ∈ offsetsOf publishes →
      origin.cursor.2 ≤ cursor.2 ∧ cursor.2 < stop.2)
    (hOrdered : (offsetsOf publishes).Pairwise fun first second => ∀ cursor cursor',
      first = some cursor → second = some cursor' → cursor.2 < cursor'.2) :
    ∃ forwarded added, pushPublishes draw request datalog outgoing connection none caughtup
        publishes = ok forwarded ∧
      forwarded.request = request ∧ forwarded.datalog = datalog ∧ forwarded.sharedGroup = none ∧
      Sent origin outgoing forwarded.outgoing stop added ∧
      (∀ entry ∈ added, entry.2.2 ∈ offsetsOf publishes) ∧
      forwarded.connection.clientId = connection.clientId ∧
      forwarded.connection.subscriptions = connection.subscriptions ∧
      forwarded.connection.topicAliases = connection.topicAliases ∧
      (forwarded.status = .BufferFull →
        Notification.Unschedule ∈ forwarded.outgoing.dataBuffer) ∧
      (forwarded.status = .FilterCaughtup → caughtup = true) ∧
      forwarded.status ≠ .InflightFull ∧ forwarded.status ≠ .SkipRequest := by
  obtain ⟨level, hQos⟩ := qos_of_le hLevel
  obtain ⟨hClient, hSubscriptions, hAliases⟩ := aliasFor_connection connection request.filter
  unfold pushPublishes
  rw [hQos]
  dsimp only
  obtain ⟨forwards, hForwards⟩ : ∃ forwards, publishes.map
      (forwardOf level (aliasFor connection request.filter).1
        (aliasFor connection request.filter).2.1
        ((aliasFor connection request.filter).2.2.subscriptionIds request.filter)) = forwards :=
    ⟨_, rfl⟩
  rw [hForwards]
  have hCursors : forwards.map Forward.cursor = offsetsOf publishes := by
    rw [← hForwards, List.map_map]
    rfl
  have hLength : forwards.length = publishes.length := by rw [← hForwards, List.length_map]
  have hRoom' : origin.qos ≠ 0 →
      outgoing.inflightBuffer.length + forwards.length ≤ maxInflight := by
    rw [hFrom, hLength]
    exact hRoom
  obtain ⟨added, hSent, hMem⟩ := Sent.push hCursors hWindow hRoom' hBetween hOrdered
  rw [hFrom, hIdx] at hSent
  by_cases hFull : maxChannelCapacity - 1 ≤
      (outgoing.pushForwards forwards request.qos request.filterIdx).2.1
  · rw [if_pos hFull]
    refine ⟨_, added, rfl, rfl, rfl, rfl, ?_, hMem, hClient, hSubscriptions, hAliases,
      fun _ => List.mem_append_right _ List.mem_cons_self, nofun, nofun, nofun⟩
    exact { hSent with
      window := hSent.window.imp fun _ h => h.congr rfl rfl
      dataBuffer := List.Subset.trans hSent.dataBuffer (List.subset_append_left _ _) }
  · rw [if_neg hFull]
    refine ⟨_, added, rfl, rfl, rfl, rfl, hSent, hMem, hClient, hSubscriptions, hAliases, ?_⟩
    cases caughtup
    · exact ⟨nofun, nofun, nofun, nofun⟩
    · exact ⟨nofun, fun _ => rfl, nofun, nofun⟩

/-- One round of a request forwards what is next in its log, or stops for room. -/
theorem forwardDeviceData_eq (order : IterationOrder) (now : Instant) (draw : Nat)
    (connection : Connection) (hSound : datalog.Sound histories)
    (hRequest : request.Sound datalog histories) (hWindow : ∃ sent, outgoing.Window sent) :
    ∃ forwarded, forwardDeviceData order now draw request datalog outgoing connection none =
        ok forwarded ∧
      Swept datalog histories request outgoing connection forwarded := by
  obtain ⟨slots, hSlots, hFull, hRoom⟩ := inflightSlots_eq datalog request hWindow
  unfold forwardDeviceData
  dsimp only
  rw [hSlots, ok_bind]
  cases slots with
  | none =>
      refine ⟨_, rfl, .refl _, rfl, rfl, rfl, rfl, rfl, hRequest.placed, le_refl _,
        ⟨[], .refl hWindow, by simp⟩, rfl, rfl, rfl, rfl, nofun, fun _ => hFull rfl, nofun, nofun⟩
  | some slots =>
      obtain ⟨hFree, hSome⟩ := hRoom slots rfl
      obtain ⟨datalog', retained, hRetained, hSame, hNative, hFew⟩ :=
        readRetained_eq hSound order now request slots
      have hPlaced : datalog'.Placed histories request.filterIdx request.cursor :=
        hSame.grows.placed _ _ hRequest.placed
      obtain ⟨position, read, hReadv, hRead⟩ := (hSame.sound hSound).nativeReadv hPlaced
        (slots - retained.length) now
      have hBack : ∀ cursor, datalog'.Placed histories request.filterIdx cursor →
          datalog.Placed histories request.filterIdx cursor := by
        rintro cursor ⟨data, hData, hSettled⟩
        exact ⟨data, hNative ▸ hData, hSettled⟩
      have hEnd : ∀ cursor, datalog'.AtEnd request.filterIdx cursor →
          datalog.AtEnd request.filterIdx cursor := by
        rintro cursor ⟨data, hData, hCursor⟩
        exact ⟨data, hNative ▸ hData, hCursor⟩
      dsimp only
      rw [hRetained, ok_bind]
      dsimp only
      rw [hReadv, ok_bind]
      dsimp only
      rw [Option.any_none, if_neg Bool.false_ne_true]
      obtain ⟨publishes, hPublishes⟩ : ∃ publishes : List (PubWithProp × Option Offset),
          retained.map (fun publish => (publish, none)) ++
            read.map (fun entry => (entry.1, some entry.2)) = publishes := ⟨_, rfl⟩
      rw [hPublishes]
      split_ifs with hNone
      · -- nothing is read, and none of the slots is taken
        rw [← hPublishes, List.append_eq_nil_iff, List.map_eq_nil_iff, List.map_eq_nil_iff] at hNone
        refine ⟨_, rfl, hSame, hNative, rfl, rfl, rfl, rfl, hBack _ hRead.stop, hRead.forward,
          ⟨[], .refl hWindow, by simp⟩, rfl, rfl, rfl, rfl, nofun, nofun,
          fun _ hLasting => ?_, nofun⟩
        refine hEnd _ (hRead.caughtUp (hRead.short hLasting.2 ?_))
        rw [hNone.1, hNone.2]
        exact hSome hLasting.1
      · have hFrom : ∀ cursor, some cursor ∈ offsetsOf publishes →
            ∃ entry ∈ read, entry.2 = cursor := by
          intro cursor hCursor
          exact of_mem_offsetsOf_batch (hPublishes.symm ▸ hCursor)
        have hLength : publishes.length = retained.length + read.length := by
          rw [← hPublishes, List.length_append, List.length_map, List.length_map]
        have hFits : request.qos ≠ 0 →
            outgoing.inflightBuffer.length + publishes.length ≤ maxInflight := by
          intro hQos
          have hAll := hFree hQos
          have hRest := hRead.length
          omega
        have hOrdered : (offsetsOf publishes).Pairwise fun first second => ∀ cursor cursor',
            first = some cursor → second = some cursor' → cursor.2 < cursor'.2 := by
          rw [← hPublishes]
          exact pairwise_offsetsOf_batch hRead.ordered
        have hBetween : ∀ cursor, some cursor ∈ offsetsOf publishes →
            request.cursor.2 ≤ cursor.2 ∧ cursor.2 < position.stop.2 := by
          intro cursor hCursor
          obtain ⟨entry, hEntry, rfl⟩ := hFrom cursor hCursor
          exact hRead.between entry hEntry
        obtain ⟨onward, hOnward⟩ : ∃ onward : DataRequest, { request with
            forwardRetained := false
            readCount := request.readCount + publishes.length
            cursor := position.stop } = onward := ⟨_, rfl⟩
        have hLevel : onward.qos ≤ 2 := hOnward ▸ hRequest.level
        have hSameQos : request.qos = onward.qos := hOnward ▸ rfl
        have hSameIdx : request.filterIdx = onward.filterIdx := hOnward ▸ rfl
        obtain ⟨forwarded, added, hForwarded, hNew, hData, hAlone, hSent, hAdded, hClient,
          hSubscriptions, hAliases, hFullIs, hCaughtup, hNotFull, hUnskipped⟩ :=
          pushPublishes_eq draw datalog' position.caughtUp connection hLevel hSameQos hSameIdx
            hWindow (hSameQos ▸ hFits) hBetween hOrdered
        rw [hOnward]
        refine ⟨forwarded, hForwarded, ?_⟩
        rw [← hOnward] at hNew
        exact
          { logs := hData ▸ hSame
            native := hData ▸ hNative
            filter := hNew ▸ rfl
            filterIdx := hNew ▸ rfl
            group := hNew ▸ rfl
            qos := hNew ▸ rfl
            placed := hNew ▸ hBack _ hRead.stop
            onward := hNew ▸ hRead.forward
            sent := by
              refine ⟨added, hNew ▸ hSent, fun entry hEntry cursor hCursor => ?_⟩
              obtain ⟨found, hFound, rfl⟩ := hFrom cursor (hCursor ▸ hAdded entry hEntry)
              exact hBack _ (hRead.placed found hFound)
            clientId := hClient
            subscriptions := hSubscriptions
            aliases := hAliases
            alone := hAlone
            bufferFull := hFullIs
            inflightFull := fun hStatus => absurd hStatus hNotFull
            caughtup := fun hStatus _ => hNew ▸ hEnd _ (hRead.caughtUp (hCaughtup hStatus))
            unskipped := hUnskipped }

namespace Router

variable {tidy : Prop} {router router' : Router} {id : ConnectionId} {client client' : Client}
  {histories : FilterIdx → List PublishData} {held : List Waiter} {request : DataRequest}
  {requests : List DataRequest} {owed : List ConnectionId}

/-- The request of a client is sound. -/
theorem Sound.request_sound (h : router.Sound tidy histories held)
    (hClient : router.clients.get? id = some client)
    (hRequest : request ∈ client.tracker.dataRequests ∨ (id, request) ∈ router.pending held) :
    request.Sound router.datalog histories := by
  rcases hRequest with hMine | hPending
  · exact (h.clients id client hClient).requests request hMine
  · rw [pending, List.append_assoc] at hPending
    rcases List.mem_append.mp hPending with hWaits | hHeld
    · obtain ⟨idx, hWaits⟩ := DataLog.mem_allWaiters.mp hWaits
      exact (h.datalog.waiting idx _ hWaits).2.1
    · exact h.requests _ hHeld

/-- No other request of the connection is for the log of the one that is held. -/
theorem Sound.only (h : router.Sound tidy histories ((id, request) :: held)) (hTidy : tidy)
    (hClient : router.clients.get? id = some client) {other : DataRequest}
    (hOther : other ∈ client.tracker.dataRequests ∨ (id, other) ∈ router.pending held) :
    other.filterIdx ≠ request.filterIdx := by
  intro hSame
  have hPerm :
      (router.pending ((id, request) :: held)).Perm ((id, request) :: router.pending held) :=
    List.perm_middle
  have hHeld : (id, request) ∈ router.pending ((id, request) :: held) :=
    hPerm.mem_iff.mpr List.mem_cons_self
  have hKnown := (h.request_sound hClient (.inr hHeld)).known
  have hOtherKnown := (h.request_sound hClient
    (hOther.imp_right fun hMem => hPerm.mem_iff.mpr (List.mem_cons_of_mem _ hMem))).known
  rw [hSame] at hOtherKnown
  have hFilter : other.filter = request.filter := h.datalog.filter_eq hOtherKnown hKnown
  have hOne := ((h.served id client hClient request.filter).2 hTidy).1
  rw [Client.tally, countFor_perm id _ hPerm, countFor_cons, if_pos ⟨rfl, rfl⟩] at hOne
  rcases hOther with hMine | hPending
  · have hPos : 0 < client.tracker.dataRequests.countP fun known => known.filter = request.filter :=
      List.countP_pos_iff.mpr ⟨other, hMine, decide_eq_true hFilter⟩
    omega
  · have hPos : 0 < countFor id request.filter (router.pending held) :=
      List.countP_pos_iff.mpr ⟨_, hPending, decide_eq_true ⟨rfl, hFilter⟩⟩
    omega

/-- The logs keep what they hold, and retained messages may go. -/
theorem Sound.sameLogs (h : router.Sound tidy histories held) {datalog : DataLog}
    (hSame : router.datalog.SameLogs datalog) (hNative : datalog.native = router.datalog.native) :
    { router with datalog := datalog }.Sound tidy histories held := by
  refine h.grow (hSame.steady h.datalog fun idx waiter hWaiter => ?_) hSame.grows
    (fun waiter hWaiter => (h.requests waiter hWaiter).mono hSame.grows) ?_
  · rwa [DataLog.waitersAt, hNative] at hWaiter
  · rw [DataLog.allWaiters, hNative]
    exact List.Perm.refl _

end Router

/-- A connection behind a sweep for one of its requests. -/
theorem Swept.client {tidy : Prop} {client : Client} {datalog : DataLog}
    {histories : FilterIdx → List PublishData} {request : DataRequest} {forwarded : Forwarded}
    (h : Swept datalog histories request client.outgoing client.connection forwarded)
    (hClient : client.Sound tidy datalog histories)
    (hBehind : tidy → client.outgoing.Behind request) :
    { client with outgoing := forwarded.outgoing, connection := forwarded.connection }.Sound tidy
      datalog histories := by
  obtain ⟨added, hSent, hPlaced⟩ := h.sent
  refine { hClient with
    named := ?_, tracked := ?_, window := hSent.window, inflight := ?_, ordered := ?_,
    aliases := ?_ }
  · exact hSent.owner.trans (hClient.named.trans h.clientId.symm)
  · exact hClient.tracked.trans h.clientId.symm
  · dsimp only
    rw [hSent.inflight]
    intro entry hEntry cursor hCursor
    rcases List.mem_append.mp hEntry with hOld | hNew
    · exact hClient.inflight entry hOld cursor hCursor
    · rw [hSent.log entry hNew]
      have hStop := h.placed.le_length
      have hLess := (hSent.between entry hNew cursor hCursor).2
      exact ⟨hPlaced entry hNew cursor hCursor, hLess.trans_le hStop⟩
  · intro hTidy
    rw [Outgoing.Ordered]
    dsimp only
    rw [hSent.inflight]
    refine List.pairwise_append.mpr ⟨hClient.ordered hTidy, hSent.ordered.imp ?_, ?_⟩
    · exact fun hLess cursor cursor' _ hCursor hCursor' => hLess cursor cursor' hCursor hCursor'
    · intro first hFirst second hSecond cursor cursor' hLog hCursor hCursor'
      rw [hSent.log second hSecond] at hLog
      exact (hBehind hTidy first hFirst cursor hLog hCursor).trans_le
        (hSent.between second hSecond cursor' hCursor').1
  · dsimp only
    rw [h.aliases]
    exact hClient.aliases

/-- The request goes on behind what the sweep put in flight. -/
theorem Swept.behind {datalog : DataLog} {histories : FilterIdx → List PublishData}
    {request : DataRequest} {outgoing : Outgoing} {connection : Connection} {forwarded : Forwarded}
    (h : Swept datalog histories request outgoing connection forwarded)
    (hBehind : outgoing.Behind request) : forwarded.outgoing.Behind forwarded.request := by
  obtain ⟨added, hSent, _⟩ := h.sent
  intro entry hEntry cursor hLog hCursor
  rw [h.filterIdx] at hLog
  rw [hSent.inflight] at hEntry
  rcases List.mem_append.mp hEntry with hOld | hNew
  · exact (hBehind entry hOld cursor hLog hCursor).trans_le h.onward
  · exact (hSent.between entry hNew cursor hCursor).2

/-- A request for another log is behind what it was behind before. -/
theorem Swept.behind_other {datalog : DataLog} {histories : FilterIdx → List PublishData}
    {request other : DataRequest} {outgoing : Outgoing} {connection : Connection}
    {forwarded : Forwarded}
    (h : Swept datalog histories request outgoing connection forwarded)
    (hOther : other.filterIdx ≠ request.filterIdx) (hBehind : outgoing.Behind other) :
    forwarded.outgoing.Behind other := by
  obtain ⟨added, hSent, _⟩ := h.sent
  intro entry hEntry cursor hLog hCursor
  rw [hSent.inflight] at hEntry
  rcases List.mem_append.mp hEntry with hOld | hNew
  · exact hBehind entry hOld cursor hLog hCursor
  · exact absurd (hLog.symm.trans (hSent.log entry hNew)) hOther

namespace Router

variable {tidy : Prop} {router router' : Router} {id : ConnectionId} {client client' : Client}
  {histories : FilterIdx → List PublishData} {held : List Waiter} {request : DataRequest}
  {requests : List DataRequest} {owed : List ConnectionId} {spared : Option ConnectionId}

/-- What the outcome of a sweep says of the connection and the request. -/
structure Told (router : Router) (histories : FilterIdx → List PublishData) (client : Client)
    (request : DataRequest) (status : ConsumeStatus) : Prop where
  bufferFull : status = .BufferFull → Notification.Unschedule ∈ client.outgoing.dataBuffer
  inflightFull : status = .InflightFull → client.outgoing.inflightBuffer.length = maxInflight
  caughtup : status = .FilterCaughtup →
    Lasting router.datalog.config (histories request.filterIdx) →
      router.datalog.AtEnd request.filterIdx request.cursor
  unskipped : status ≠ .SkipRequest

/-- A sweep for a request that is held leaves it held, at its new place. -/
theorem Sound.forward (h : router.Sound tidy histories ((id, request) :: held))
    (hScheduled : router.Scheduled owed none) (hClient : router.clients.get? id = some client)
    (order : IterationOrder) (now : Instant) (draw : Nat) :
    ∃ status request' router' client',
      router.forward order now draw id request = ok (status, request', router') ∧
      router'.Sound tidy histories ((id, request') :: held) ∧ router'.Scheduled owed none ∧
      router'.readyqueue = router.readyqueue ∧ router'.notifications = router.notifications ∧
      router.SameKeys router' ∧ router'.clients.get? id = some client' ∧
      client'.tracker = client.tracker ∧ router'.Told histories client' request' status := by
  have hPending : (id, request) ∈ router.pending ((id, request) :: held) :=
    List.mem_append_right _ List.mem_cons_self
  have hRequest := h.request_sound hClient (.inr hPending)
  have hOld := h.clients id client hClient
  have hBehind : tidy → client.outgoing.Behind request := fun hTidy =>
    h.behind hTidy id client hClient request (.inr hPending)
  obtain ⟨forwarded, hForwarded, hSwept⟩ := forwardDeviceData_eq order now draw client.connection
    h.datalog.toSound hRequest hOld.window
  have hSame := hSwept.logs
  have hGrows : router.datalog.Grows histories forwarded.datalog histories := hSame.grows
  have hLogs := h.sameLogs hSame hSwept.native
  have hHere : { router with datalog := forwarded.datalog }.clients.get? id = some client := hClient
  have hOne := oneChanged hHere
    (fun client => { client with
      outgoing := forwarded.outgoing, connection := forwarded.connection })
    router.readyqueue router.subscriptionMap router.sharedSubscriptions
  obtain ⟨added, hSent, _⟩ := hSwept.sent
  have hNext : forwarded.request.Sound forwarded.datalog histories :=
    { group := hSwept.group.trans hRequest.group
      level := hSwept.qos ▸ hRequest.level
      known := by
        rw [hSwept.filter, hSwept.filterIdx]
        exact hGrows.filters hRequest.known
      placed := hSwept.filterIdx ▸ hGrows.placed _ _ hSwept.placed }
  have hSound := hSwept.client hOld hBehind
  have hMoved : Router.Sound tidy _ histories ((id, forwarded.request) :: held) :=
    hLogs.change hHere hOne (hSound.mono hGrows) hSwept.clientId
      (fun waiter hWaiter => (List.mem_cons.mp hWaiter).symm.imp (List.mem_cons_of_mem _) <| by
        rintro rfl
        exact ⟨rfl, hNext⟩)
      (fun other hOther path => by simp [hOther.symm])
      ((hLogs.served id client hHere).congr hSwept.subscriptions fun path => by
        simp [Client.tally, Router.pending, hSwept.filter])
      fun hTidy other hMem => ?_
  · refine ⟨forwarded.status, forwarded.request, _, _, ?_, hMoved, ?_, rfl, rfl,
      hOne.sameKeys hClient, hOne.get?_self, rfl, hSwept.bufferFull, hSwept.inflightFull,
      fun hStatus hLasting => ?_, hSwept.unskipped⟩
    · rw [Router.forward, client_eq hClient, ok_bind, hRequest.group]
      dsimp only
      rw [Option.bind_none, hForwarded, ok_bind]
      rfl
    · have hOthers : Router.Scheduled { router with datalog := forwarded.datalog } owed none :=
        hScheduled
      refine Scheduled.change (fun key other hKey _ hSpared => hOthers key other hKey hSpared)
        hOne (fun _ _ hReady => hReady) fun hSpared => ?_
      have hWas := hScheduled id client hClient hSpared
      refine ⟨hWas.ready, hWas.caughtup, fun hFull => ?_, fun hBusy => ?_⟩
      · have hBound : (client.outgoing.inflightBuffer ++ added).length ≤ maxInflight := by
          obtain ⟨_, hWindow⟩ := hSent.window
          rw [← hSent.inflight]
          exact hWindow.bound
        change forwarded.outgoing.inflightBuffer.length = _
        rw [hSent.inflight]
        rw [List.length_append] at hBound ⊢
        have hAll := hWas.full hFull
        omega
      · exact (hWas.busy hBusy).imp_left fun hMem => hSent.dataBuffer hMem
    · rw [hSwept.filterIdx] at hLasting ⊢
      refine hSame.atEnd (hSwept.caughtup hStatus ?_)
      exact hSame.config ▸ hLasting
  · -- the request itself goes on behind what went out, and the others are for other logs
    have hOthers : ∀ other,
        other ∈ client.tracker.dataRequests ∨ (id, other) ∈ router.pending held →
        forwarded.outgoing.Behind other := by
      intro other hOther
      refine hSwept.behind_other (h.only hTidy hClient hOther) ?_
      refine h.behind hTidy id client hClient other (hOther.imp_right fun hMem => ?_)
      exact (List.perm_middle.mem_iff).mpr (List.mem_cons_of_mem _ hMem)
    rcases hMem with hMine | hWaits
    · exact hOthers other (.inl hMine)
    · have hAllWaiters : forwarded.datalog.allWaiters = router.datalog.allWaiters := by
        rw [DataLog.allWaiters, hSwept.native, DataLog.allWaiters]
      have hCases : (id, other) ∈ (id, forwarded.request) :: router.pending held := by
        rw [Router.pending, hAllWaiters] at hWaits
        exact List.perm_middle.mem_iff.mp hWaits
      rcases List.mem_cons.mp hCases with hSelf | hRest
      · cases hSelf
        exact hSwept.behind (hBehind hTidy)
      · exact hOthers other (.inr hRest)

/-- The requests for which there is nothing left to read wait for new messages. -/
theorem Sound.park (h : router.Sound tidy histories ((id, request) :: held))
    (hEnd : Lasting router.datalog.config (histories request.filterIdx) →
      router.datalog.AtEnd request.filterIdx request.cursor) :
    ∃ datalog, router.datalog.park id request = ok datalog ∧
      { router with datalog := datalog }.Sound tidy histories held := by
  have hRequest := h.requests (id, request) (List.mem_append_right _ List.mem_cons_self)
  obtain ⟨datalog, hPark, hSteady, hGrows, hWaiters⟩ := h.datalog.park id hRequest hEnd
  refine ⟨datalog, hPark, h.grow hSteady hGrows (fun waiter hWaiter => ?_) ?_⟩
  · refine (h.requests waiter ?_).mono hGrows
    exact (List.mem_append.mp hWaiter).elim (List.mem_append_left _)
      fun hHeld => List.mem_append_right _ (List.mem_cons_of_mem _ hHeld)
  · rw [Router.pending, List.append_assoc, List.append_assoc]
    refine (hWaiters.append_right _).trans ?_
    rw [List.cons_append]
    exact (List.perm_middle.symm).trans (List.perm_middle.symm.append_left _)

/-- A connection that was put back last is taken out of the queue again. -/
theorem Sound.pause (h : router.Sound tidy histories held)
    (hScheduled : router.Scheduled owed spared)
    (hClient : router.clients.get? id = some client) (hLast : router.readyqueue.getLast? = some id)
    (reason : PauseReason)
    (hCaughtup : reason = .Caughtup → client.tracker.dataRequests = [])
    (hFull : reason = .InflightFull → client.outgoing.inflightBuffer.length = maxInflight)
    (hBusy : reason = .Busy → Notification.Unschedule ∈ client.outgoing.dataBuffer) :
    ∃ router', router.pause id reason = ok router' ∧ router'.Sound tidy histories held ∧
      router'.Scheduled owed spared ∧ router'.notifications = router.notifications ∧
      router.SameKeys router' ∧ ∃ client', router'.clients.get? id = some client' ∧
        client'.tracker.status = .Paused reason := by
  have hOne := oneChanged hClient
    (fun client => { client with tracker := client.tracker.pause reason })
    router.readyqueue.dropLast router.subscriptionMap router.sharedSubscriptions
  have hTouched : client.Touched { client with tracker := client.tracker.pause reason } :=
    ⟨rfl, rfl, rfl, rfl, rfl, rfl, rfl, List.Subset.refl _, fun _ _ => .inl, fun _ => .inl⟩
  refine ⟨_, ?_, h.touch hClient hOne hTouched, ?_, rfl, hOne.sameKeys hClient, _, hOne.get?_self,
    rfl⟩
  · rw [Router.pause, if_pos hLast, client_eq hClient, ok_bind]
    rfl
  · refine Scheduled.change (fun key other hKey _ hSpared => hScheduled key other hKey hSpared) hOne
      (fun key hKey hReady => ?_) fun _ => ⟨nofun, fun hStatus => ?_, fun hStatus => ?_,
        fun hStatus => ?_⟩
    · rw [← List.dropLast_append_getLast? id hLast] at hReady
      refine (List.mem_append.mp hReady).resolve_right fun hOther => ?_
      exact hKey (List.mem_singleton.mp hOther)
    · cases hStatus
      exact hCaughtup rfl
    · cases hStatus
      exact hFull rfl
    · cases hStatus
      exact .inl (hBusy rfl)

/-- The order of the waiters that are held does not matter. -/
theorem Sound.perm (h : router.Sound tidy histories held) {held' : List Waiter}
    (hPerm : held'.Perm held) : router.Sound tidy histories held' :=
  h.grow h.datalog (.refl _ _)
    (fun waiter hWaiter => h.requests waiter ((hPerm.append_left _).mem_iff.mp hWaiter))
    (hPerm.append_left _)

/-- A request that goes to the end is held as one that is taken out. -/
theorem perm_rotate (id : ConnectionId) (request : DataRequest) (requests : List DataRequest)
    (held : List Waiter) :
    ((requests ++ [request]).map (fun request => (id, request)) ++ held).Perm
      ((id, request) :: (requests.map (fun request => (id, request)) ++ held)) := by
  rw [List.map_append, List.append_assoc]
  exact List.perm_middle

/-- A sweep that has to stop gives all requests back. -/
theorem Sound.leave
    (h : router.Sound tidy histories
      ((id, request) :: (requests.map (fun request => (id, request)) ++ held)))
    (hScheduled : router.Scheduled owed none)
    (hClient : router.clients.get? id = some client) (hLast : router.readyqueue.getLast? = some id)
    (reason : PauseReason) (hReason : reason ≠ .Caughtup)
    (hFull : reason = .InflightFull → client.outgoing.inflightBuffer.length = maxInflight)
    (hBusy : reason = .Busy → Notification.Unschedule ∈ client.outgoing.dataBuffer) :
    ∃ router', (router.pause id reason >>= fun router =>
        router.trackv id (requests ++ [request] ++ [])) = ok router' ∧
      router'.Inv tidy owed held none ∧ router'.notifications = router.notifications := by
  obtain ⟨paused, hPause, hSound, hNext, hNotifications, _, _, hThere, hStatus⟩ :=
    h.pause hScheduled hClient hLast reason (fun hIs => absurd hIs hReason) hFull hBusy
  have hInv : paused.Inv tidy owed
      ((requests ++ [request]).map (fun request => (id, request)) ++ held) none :=
    ⟨⟨histories, hSound.perm (perm_rotate id request requests held)⟩, hNext⟩
  obtain ⟨router', hTrack, hKept, hSame, _⟩ := hInv.trackv hThere fun hCaughtup => by
    rw [hStatus] at hCaughtup
    cases hCaughtup
    exact absurd rfl hReason
  refine ⟨router', ?_, hKept, hSame.trans hNotifications⟩
  rw [hPause, ok_bind, List.append_nil, hTrack]

/-- The requests of a sweep, each of which is read, parked or kept for later. -/
theorem Sound.consumeRequests (order : IterationOrder) (now : Instant) (draw : Nat)
    (iterations : Nat)
    (h : router.Sound tidy histories (requests.map (fun request => (id, request)) ++ held))
    (hScheduled : router.Scheduled owed none) (hLast : router.readyqueue.getLast? = some id)
    (hClient : router.clients.get? id = some client) (hEmpty : client.tracker.dataRequests = [])
    (hCaughtup : client.tracker.status = .Paused .Caughtup → requests = []) :
    ∃ router', consumeRequests order now draw id iterations router requests [] = ok router' ∧
      router'.Inv tidy owed held none ∧ router'.notifications = router.notifications := by
  induction iterations generalizing router client requests with
  | zero =>
      have hInv : router.Inv tidy owed (requests.map (fun request => (id, request)) ++ held) none :=
        ⟨⟨histories, h⟩, hScheduled⟩
      obtain ⟨router', hTrack, hKept, hNotifications, _⟩ := hInv.trackv hClient hCaughtup
      refine ⟨router', ?_, hKept, hNotifications⟩
      rw [Router.consumeRequests, List.append_nil, hTrack]
  | succ iterations ih =>
      cases requests with
      | nil =>
          obtain ⟨paused, hPause, hSound, hNext, hNotifications, _, _, hThere, _⟩ :=
            h.pause hScheduled hClient hLast .Caughtup (fun _ => hEmpty) nofun nofun
          have hInv : paused.Inv tidy owed (([] : List DataRequest).map _ ++ held) none :=
            ⟨⟨histories, hSound⟩, hNext⟩
          obtain ⟨router', hTrack, hKept, hSame, _⟩ := hInv.trackv hThere fun _ => rfl
          refine ⟨router', ?_, hKept, hSame.trans hNotifications⟩
          rw [Router.consumeRequests, if_pos rfl, hPause, ok_bind, hTrack]
      | cons request requests =>
          obtain ⟨status, request', next, client', hForward, hSound, hNext, hQueue,
            hNotifications, _, hThere, hTracker, hTold⟩ :=
            h.forward hScheduled hClient order now draw
          have hLast' : next.readyqueue.getLast? = some id := hQueue.symm ▸ hLast
          have hEmpty' : client'.tracker.dataRequests = [] := hTracker.symm ▸ hEmpty
          have hStatus' : client'.tracker.status ≠ .Paused .Caughtup := by
            rw [hTracker]
            exact fun hPaused => List.cons_ne_nil _ _ (hCaughtup hPaused)
          rw [Router.consumeRequests, hForward, ok_bind]
          cases status with
          | BufferFull =>
              obtain ⟨router', hLeave, hKept, hSame⟩ := hSound.leave hNext hThere hLast' .Busy nofun
                nofun fun _ => hTold.bufferFull rfl
              exact ⟨router', hLeave, hKept, hSame.trans hNotifications⟩
          | InflightFull =>
              obtain ⟨router', hLeave, hKept, hSame⟩ := hSound.leave hNext hThere hLast'
                .InflightFull nofun (fun _ => hTold.inflightFull rfl) nofun
              exact ⟨router', hLeave, hKept, hSame.trans hNotifications⟩
          | FilterCaughtup =>
              obtain ⟨datalog, hPark, hParked⟩ := hSound.park (hTold.caughtup rfl)
              obtain ⟨router', hRest, hKept, hSame⟩ := ih hParked hNext hLast' hThere hEmpty'
                fun hPaused => absurd hPaused hStatus'
              refine ⟨router', ?_, hKept, hSame.trans hNotifications⟩
              dsimp only
              rw [hPark, ok_bind, hRest]
          | PartialRead =>
              obtain ⟨router', hRest, hKept, hSame⟩ :=
                ih (hSound.perm (perm_rotate id request' requests held)) hNext hLast' hThere hEmpty'
                  fun hPaused => absurd hPaused hStatus'
              exact ⟨router', hRest, hKept, hSame.trans hNotifications⟩
          | SkipRequest => exact absurd rfl hTold.unskipped

/-- The order of the queue is for the scheduler only. -/
theorem Sound.withQueue (h : router.Sound tidy histories held) (queue : List ConnectionId) :
    { router with readyqueue := queue }.Sound tidy histories held :=
  ⟨h.datalog, h.clients, h.requests, h.live, h.served, h.behind, h.directory, h.saved, h.wills⟩

/-- Acknowledgements that are sent leave a client the same. -/
theorem touched_acked (client : Client) :
    client.Touched
      { client with
        outgoing :=
          { client.outgoing with
            dataBuffer := client.outgoing.dataBuffer ++
              client.acks.committed.map Notification.DeviceAck }
        acks := { client.acks with committed := [] } } :=
  ⟨rfl, rfl, rfl, rfl, rfl, rfl, rfl, List.subset_append_left _ _, fun _ _ => .inl, fun _ => .inl⟩

/-- A turn of the connection that is first in the queue. -/
theorem Inv.consume (h : router.Inv tidy owed [] none) (order : IterationOrder) (now : Instant)
    (draw : Nat) :
    ∃ router', router.consume order now draw = ok router' ∧ router'.Inv tidy owed [] none ∧
      router'.notifications = router.notifications := by
  obtain ⟨⟨histories, hSound⟩, hScheduled⟩ := h
  rw [Router.consume, Router.poll]
  cases hQueue : router.readyqueue with
  | nil => exact ⟨router, rfl, ⟨⟨histories, hSound⟩, hScheduled⟩, rfl⟩
  | cons id rest =>
      dsimp only
      cases hClient : router.clients.get? id with
      | none =>
          -- the connection has gone in the meantime
          refine ⟨_, rfl, ⟨⟨histories, hSound.withQueue rest⟩,
            fun key other hKey hSpared => ?_⟩, rfl⟩
          have hOther := hScheduled key other hKey hSpared
          refine { hOther with ready := fun hReady => ?_ }
          have hQueued := hOther.ready hReady
          rw [hQueue] at hQueued
          refine (List.mem_cons.mp hQueued).resolve_left fun hHere => ?_
          rw [hHere] at hKey
          cases hClient.symm.trans hKey
      | some client =>
          have hWas := hScheduled id client hClient nofun
          have hOne := oneChanged hClient
            (fun client => { client with tracker := { client.tracker with dataRequests := [] } })
            (rest ++ [id]) router.subscriptionMap router.sharedSubscriptions
          have hPolled : Router.Sound tidy _ histories
              (client.tracker.dataRequests.map (fun request => (id, request)) ++ []) :=
            hSound.move hClient hOne (List.Perm.refl _)
          have hNext := Scheduled.change
            (fun key other hKey _ hSpared => hScheduled key other hKey hSpared) hOne
            (fun key hKey hReady => by
              rw [hQueue] at hReady
              exact List.mem_append_left _ ((List.mem_cons.mp hReady).resolve_left hKey))
            fun _ => ⟨fun _ => List.mem_append_right _ List.mem_cons_self, fun _ => rfl, hWas.full,
              hWas.busy⟩
          have hAcked := oneChanged hOne.get?_self
            (fun client => { client with
              outgoing :=
                { client.outgoing with
                  dataBuffer := client.outgoing.dataBuffer ++
                    client.acks.committed.map Notification.DeviceAck }
              acks := { client.acks with committed := [] } })
            (rest ++ [id]) router.subscriptionMap router.sharedSubscriptions
          obtain ⟨router', hConsume, hKept, hSame⟩ :=
            (hPolled.touch hOne.get?_self hAcked (touched_acked _)).consumeRequests order now draw
              maxScheduleIterations (hNext.touch hOne.get?_self hAcked rfl (touched_acked _) rfl)
              List.getLast?_concat hAcked.get?_self rfl hWas.caughtup
          exact ⟨router', hConsume, hKept, hSame⟩

end Router
end SnapEmu.Broker
