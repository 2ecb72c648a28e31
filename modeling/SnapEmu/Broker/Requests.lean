import SnapEmu.Broker.Filters

/-! Requests and the logs they read. A request that waits has nothing to read. -/
namespace SnapEmu.Broker

open Mqtt (Str)
open Semantics Exec

namespace DataLog

variable {datalog datalog' : DataLog} {histories : FilterIdx → List PublishData}

/-- The logs are the same; waiters and retained messages may have gone or come. -/
structure SameLogs (datalog datalog' : DataLog) : Prop where
  config : datalog'.config = datalog.config
  filterIndexes : datalog'.filterIndexes = datalog.filterIndexes
  publishFilters : datalog'.publishFilters = datalog.publishFilters
  retained : ∀ entry ∈ datalog'.retainedPublishes,
    ∃ old ∈ datalog.retainedPublishes, old.1 = entry.1
  native : ∀ idx : FilterIdx,
    datalog'.native[idx]?.map (fun data : Data => (data.filter, data.log)) =
      datalog.native[idx]?.map fun data : Data => (data.filter, data.log)

namespace SameLogs

theorem refl (datalog : DataLog) : datalog.SameLogs datalog :=
  ⟨rfl, rfl, rfl, fun entry hEntry => ⟨entry, hEntry, rfl⟩, fun _ => rfl⟩

/-- Each log is there with the same messages. -/
theorem data_of (h : datalog.SameLogs datalog') {idx : FilterIdx} {data : Data}
    (hData : datalog.native[idx]? = some data) :
    ∃ data', datalog'.native[idx]? = some data' ∧ data'.filter = data.filter ∧
      data'.log = data.log := by
  have hSame := h.native idx
  rw [hData, Option.map_some, Option.map_eq_some_iff] at hSame
  obtain ⟨data', hData', hEq⟩ := hSame
  rw [Prod.mk.injEq] at hEq
  exact ⟨data', hData', hEq.1, hEq.2⟩

/-- Each log was there with the same messages. -/
theorem data_of' (h : datalog.SameLogs datalog') {idx : FilterIdx} {data : Data}
    (hData : datalog'.native[idx]? = some data) :
    ∃ old, datalog.native[idx]? = some old ∧ old.filter = data.filter ∧ old.log = data.log := by
  have hSame := (h.native idx).symm
  rw [hData, Option.map_some, Option.map_eq_some_iff] at hSame
  obtain ⟨old, hOld, hEq⟩ := hSame
  rw [Prod.mk.injEq] at hEq
  exact ⟨old, hOld, hEq.1, hEq.2⟩

theorem length (h : datalog.SameLogs datalog') :
    datalog'.native.length = datalog.native.length := by
  have hNone : ∀ idx, datalog'.native.length ≤ idx ↔ datalog.native.length ≤ idx := by
    intro idx
    have hSame := congrArg Option.isNone (h.native idx)
    rw [Option.isNone_map, Option.isNone_map] at hSame
    rw [← List.getElem?_eq_none_iff, ← List.getElem?_eq_none_iff, ← Option.isNone_iff_eq_none,
      hSame, Option.isNone_iff_eq_none]
  exact Nat.le_antisymm ((hNone _).mpr (Nat.le_refl _)) ((hNone _).mp (Nat.le_refl _))

theorem subscribed_iff (h : datalog.SameLogs datalog') {topic : Topic} {idx : FilterIdx} :
    datalog'.Subscribed topic idx ↔ datalog.Subscribed topic idx := by
  rw [Subscribed, Subscribed, h.filterIndexes]

/-- Logs that stay the same stay sound. -/
theorem sound (h : datalog.SameLogs datalog') (hSound : datalog.Sound histories) :
    datalog'.Sound histories where
  config := h.config ▸ hSound.config
  beyond idx hIdx := hSound.beyond idx (h.length ▸ hIdx)
  holds idx data hData := by
    obtain ⟨old, hOld, _, hLog⟩ := h.data_of' hData
    exact hLog ▸ hSound.holds idx old hOld
  keys := h.filterIndexes ▸ hSound.keys
  named filter idx hEntry := by
    obtain ⟨data, hData, hFilter⟩ := hSound.named filter idx (h.filterIndexes ▸ hEntry)
    obtain ⟨data', hData', hSame, _⟩ := h.data_of hData
    exact ⟨data', hData', hSame.trans hFilter⟩
  cached topic found hEntry := by
    obtain ⟨hTopic, hNodup, hFound⟩ := hSound.cached topic found (h.publishFilters ▸ hEntry)
    exact ⟨hTopic, hNodup, fun idx => (hFound idx).trans h.subscribed_iff.symm⟩
  retained entry hEntry := by
    obtain ⟨old, hOld, hSame⟩ := h.retained entry hEntry
    exact hSame ▸ hSound.retained old hOld

/-- Logs that stay the same grow by nothing. -/
theorem grows (h : datalog.SameLogs datalog') : datalog.Grows histories datalog' histories := by
  refine ⟨h.config, h.filterIndexes ▸ List.Subset.refl _, ?_, fun _ => le_refl _⟩
  rintro idx cursor ⟨data, hData, hSettled⟩
  obtain ⟨data', hData', _, hLog⟩ := h.data_of hData
  exact ⟨data', hData', hLog ▸ hSettled⟩

end SameLogs

/-- The cursor is at the end of the log of a filter. -/
def AtEnd (datalog : DataLog) (idx : FilterIdx) (cursor : Cursor) : Prop :=
  ∃ data, datalog.native[idx]? = some data ∧ cursor = data.log.nextOffset

/-- A reader at the end of a log stays there. -/
theorem SameLogs.atEnd (h : datalog.SameLogs datalog') {idx : FilterIdx} {cursor : Cursor}
    (hEnd : datalog.AtEnd idx cursor) : datalog'.AtEnd idx cursor := by
  obtain ⟨data, hData, hCursor⟩ := hEnd
  obtain ⟨data', hData', _, hLog⟩ := h.data_of hData
  exact ⟨data', hData', hLog ▸ hCursor⟩

end DataLog

/-- The request is one for a log that is there. -/
structure DataRequest.Sound (request : DataRequest) (datalog : DataLog)
    (histories : FilterIdx → List PublishData) : Prop where
  group : request.group = none
  level : request.qos ≤ 2
  known : (request.filter, request.filterIdx) ∈ datalog.filterIndexes
  placed : datalog.Placed histories request.filterIdx request.cursor

/-- A request stays sound while the logs grow. -/
theorem DataRequest.Sound.mono {request : DataRequest} {datalog datalog' : DataLog}
    {histories histories' : FilterIdx → List PublishData} (h : request.Sound datalog histories)
    (hGrows : datalog.Grows histories datalog' histories') : request.Sound datalog' histories' :=
  ⟨h.group, h.level, hGrows.filters h.known, hGrows.placed _ _ h.placed⟩

/-- A sweep may forward messages, and none of them expires. -/
def Lasting (config : RouterConfig) (history : List PublishData) : Prop :=
  0 < config.maxOutgoingPacketCount ∧
    ∀ item ∈ history, item.properties.bind PublishProperties.messageExpiryInterval = none

namespace DataLog

/-- What waits for messages of a filter is a request for them that has read
all there are. -/
structure Steady (datalog : DataLog) (histories : FilterIdx → List PublishData) : Prop
    extends datalog.Sound histories where
  waiting : ∀ idx, ∀ waiter ∈ datalog.waitersAt idx,
    waiter.2.filterIdx = idx ∧ waiter.2.Sound datalog histories ∧
      (Lasting datalog.config (histories idx) → datalog.AtEnd idx waiter.2.cursor)

variable {datalog datalog' : DataLog} {histories : FilterIdx → List PublishData}

/-- Logs stay steady while nobody begins to wait. -/
theorem SameLogs.steady (h : datalog.SameLogs datalog') (hSteady : datalog.Steady histories)
    (hWaiters : ∀ idx, ∀ waiter ∈ datalog'.waitersAt idx, waiter ∈ datalog.waitersAt idx) :
    datalog'.Steady histories where
  toSound := h.sound hSteady.toSound
  waiting idx waiter hWaiter := by
    obtain ⟨hIdx, hRequest, hEnd⟩ := hSteady.waiting idx waiter (hWaiters idx waiter hWaiter)
    exact ⟨hIdx, hRequest.mono h.grows, fun hLasting => h.atEnd (hEnd (h.config ▸ hLasting))⟩

/-- A filter that is subscribed gets its log and the end of that as a start. -/
theorem Steady.nextNativeOffset (h : datalog.Steady histories) {filter : FilterName}
    (hFilter : Cuttable filter) :
    ∃ (datalog' : DataLog) (idx : FilterIdx) (cursor : Cursor),
      datalog.nextNativeOffset filter = ok (datalog', idx, cursor) ∧
      datalog'.Steady histories ∧ datalog.Grows histories datalog' histories ∧
      (filter, idx) ∈ datalog'.filterIndexes ∧ datalog'.Placed histories idx cursor ∧
      cursor.2 = (histories idx).length ∧ datalog'.allWaiters = datalog.allWaiters := by
  obtain ⟨datalog', idx, data, hNext, hSound, hGrows, hKnown, hData, hAll, hWaiters, hNative⟩ :=
    h.toSound.nextNativeOffset hFilter
  have hHolds := hSound.holds idx data hData
  refine ⟨datalog', idx, _, hNext, ⟨hSound, fun other waiter hWaiter => ?_⟩, hGrows, hKnown,
    ⟨data, hData, hHolds.settled_nextOffset⟩, by rw [hHolds.nextOffset_eq], hAll⟩
  obtain ⟨hIdx, hRequest, hEnd⟩ := h.waiting other waiter (hWaiters other waiter hWaiter)
  refine ⟨hIdx, hRequest.mono hGrows, fun hLasting => ?_⟩
  obtain ⟨old, hOld, hCursor⟩ := hEnd (hGrows.config ▸ hLasting)
  obtain ⟨_, hNative⟩ := hNative
  refine ⟨old, ?_, hCursor⟩
  rw [← hNative, List.getElem?_append_left (List.getElem?_eq_some_iff.mp hOld).1, hOld]

/-- A message ends the wait of the requests for its filters, and of no others. -/
theorem Steady.record (h : datalog.Steady histories) (order : IterationOrder)
    (notifications : List Waiter) (publish : Publish) (properties : Option PublishProperties)
    {topic : Topic} (hTopic : Cuttable topic) (now : Instant) :
    ∃ datalog' histories' moved offset,
      datalog.record order notifications publish properties topic now =
        ok (datalog', notifications ++ moved, offset) ∧
      datalog'.Steady histories' ∧ datalog.Grows histories datalog' histories' ∧
      (∀ waiter ∈ moved, waiter.2.Sound datalog' histories') ∧
      (moved ++ datalog'.allWaiters).Perm datalog.allWaiters := by
  obtain ⟨datalog', found, offset, hRecord, hFound, hRecorded, hPerm, hSound⟩ :=
    h.toSound.record order notifications publish properties hTopic now
  have hGrows := hRecorded.grows h.toSound
  refine ⟨datalog', _, _, offset, hRecord, ⟨hSound, fun idx waiter hWaiter => ?_⟩, hGrows,
    fun waiter hWaiter => ?_, hPerm⟩
  · rw [hRecorded.waitersAt] at hWaiter
    split_ifs at hWaiter with hHere
    · cases hWaiter
    · obtain ⟨hIdx, hRequest, hEnd⟩ := h.waiting idx waiter hWaiter
      refine ⟨hIdx, hRequest.mono hGrows, fun hLasting => ?_⟩
      rw [recordedIn, if_neg hHere, hRecorded.config] at hLasting
      obtain ⟨data, hData, hCursor⟩ := hEnd hLasting
      refine ⟨data, (hRecorded.native idx).trans ?_, hCursor⟩
      rw [hData, Option.map_some, if_neg hHere]
  · obtain ⟨idx, _, hOld⟩ := List.mem_flatMap.mp hWaiter
    exact (h.waiting idx waiter hOld).2.1.mono hGrows

/-- What a read for a request returns: messages in order, from the cursor on
and before the place to go on with. -/
structure Read (datalog : DataLog) (histories : FilterIdx → List PublishData) (idx : FilterIdx)
    (cursor : Cursor) (len : Nat) (position : Position) (read : List (PubWithProp × Offset)) :
    Prop where
  stop : datalog.Placed histories idx position.stop
  forward : cursor.2 ≤ position.stop.2
  length : read.length ≤ len
  placed : ∀ entry ∈ read, datalog.Placed histories idx entry.2
  between : ∀ entry ∈ read, cursor.2 ≤ entry.2.2 ∧ entry.2.2 < position.stop.2
  ordered : read.Pairwise fun first second => first.2.2 < second.2.2
  caughtUp : position.caughtUp = true → datalog.AtEnd idx position.stop
  short : (∀ item ∈ histories idx,
      item.properties.bind PublishProperties.messageExpiryInterval = none) →
    read.length < len → position.caughtUp = true

/-- A message without an expiry does not expire. -/
theorem unexpired_lasting {item : PublishData}
    (h : item.properties.bind PublishProperties.messageExpiryInterval = none) (now : Instant) :
    unexpired now item = some item := by
  rw [unexpired]
  cases hProperties : item.properties with
  | none => rfl
  | some properties =>
      rw [hProperties, Option.bind_some] at h
      dsimp only
      rw [h]

end DataLog

/-- What a read returns lies between its start and its stop, in order. -/
theorem CommitLog.ReadResult.between {T : Type} [Storage T] {log : CommitLog T} {history : List T}
    {cursor : Cursor} {len : Nat} {result : Position × List (T × Offset)}
    (h : log.ReadResult history cursor len result) :
    (∀ entry ∈ result.2, cursor.2 ≤ entry.2.2 ∧ entry.2.2 < result.1.stop.2) ∧
      result.2.Pairwise fun first second => first.2.2 < second.2.2 := by
  obtain ⟨place, hPlace⟩ : ∃ place, max cursor.2 (log.startOf history log.head) = place := ⟨_, rfl⟩
  have hRead := h.read
  have hStop := h.stop
  rw [hPlace] at hRead hStop
  have hFrom : cursor.2 ≤ place := hPlace ▸ le_max_left _ _
  have hOffsets : result.2.map (fun entry => entry.2.2) = List.range' place result.2.length := by
    refine List.ext_getElem (by simp) fun position hPosition _ => ?_
    rw [List.length_map] at hPosition
    rw [List.getElem_map, List.getElem_range', Nat.one_mul]
    suffices hStream : (log.stream history)[place + position]? = some result.2[position] from
      CommitLog.offset_of_stream hStream
    have hEntry := List.getElem?_eq_getElem hPosition
    rw [← hEntry]
    conv_rhs => rw [hRead]
    have hShort : position < len := by
      rw [hRead, List.length_take] at hPosition
      omega
    rw [List.getElem?_take_of_lt hShort, List.getElem?_drop]
  constructor
  · intro entry hEntry
    have hMem : entry.2.2 ∈ List.range' place result.2.length :=
      hOffsets ▸ List.mem_map_of_mem (f := fun entry : T × Offset => entry.2.2) hEntry
    rw [List.mem_range'_1] at hMem
    omega
  · have hPairwise := List.pairwise_lt_range' (s := place) (n := result.2.length)
    rw [← hOffsets] at hPairwise
    exact List.pairwise_map.mp hPairwise

namespace DataLog

variable {datalog datalog' : DataLog} {histories : FilterIdx → List PublishData}

/-- A read from a place of a log does not fail. -/
theorem Sound.nativeReadv (h : datalog.Sound histories) {idx : FilterIdx} {cursor : Cursor}
    (hPlaced : datalog.Placed histories idx cursor) (len : Nat) (now : Instant) :
    ∃ position read, datalog.nativeReadv idx cursor len now = ok (position, read) ∧
      datalog.Read histories idx cursor len position read := by
  obtain ⟨data, hData, hSettled⟩ := hPlaced
  have hHolds := h.holds idx data hData
  obtain ⟨result, hResult, hRead⟩ := hSettled.readv hHolds len
  obtain ⟨hBetween, hOrdered⟩ := hRead.between
  have hTake := hRead.read
  have hLength : result.2.length ≤ len := by
    rw [hTake, List.length_take]
    exact min_le_left _ _
  have hStream : ∀ entry ∈ result.2, entry ∈ data.log.stream (histories idx) := by
    intro entry hEntry
    rw [hTake] at hEntry
    exact List.mem_of_mem_drop (List.mem_of_mem_take hEntry)
  have hSource : ∀ entry ∈ (result.2.filterMap fun entry => (unexpired now entry.1).map
      fun pubdata => ((pubdata.publish, pubdata.properties), entry.2)),
      ∃ source ∈ result.2, source.2 = entry.2 := by
    intro entry hEntry
    obtain ⟨source, hSource, hSome⟩ := List.mem_filterMap.mp hEntry
    obtain ⟨_, _, rfl⟩ := Option.map_eq_some_iff.mp hSome
    exact ⟨source, hSource, rfl⟩
  refine ⟨result.1, _,
    by rw [DataLog.nativeReadv, index_eq_ok.mpr hData, ok_bind, hResult, ok_bind],
    ⟨data, hData, hRead.settled⟩, ?_, (List.length_filterMap_le _ _).trans hLength,
    fun entry hEntry => ?_, fun entry hEntry => ?_, ?_,
    fun hCaughtUp => ⟨data, hData, hRead.caughtUp.mp hCaughtUp⟩, fun hLasting hShort => ?_⟩
  · rw [hRead.stop]
    exact (le_max_left _ _).trans (Nat.le_add_right _ _)
  · obtain ⟨source, hMem, hSame⟩ := hSource entry hEntry
    obtain ⟨position, hPosition⟩ := List.mem_iff_getElem?.mp (hStream source hMem)
    exact ⟨data, hData, hSame ▸ hHolds.settled_of_stream hPosition⟩
  · obtain ⟨source, hMem, hSame⟩ := hSource entry hEntry
    exact hSame ▸ hBetween source hMem
  · refine hOrdered.filterMap _ fun first second hLess entry hEntry entry' hEntry' => ?_
    obtain ⟨_, _, rfl⟩ := Option.map_eq_some_iff.mp hEntry
    obtain ⟨_, _, rfl⟩ := Option.map_eq_some_iff.mp hEntry'
    exact hLess
  · have hAll : (result.2.filterMap fun entry => (unexpired now entry.1).map fun pubdata =>
          ((pubdata.publish, pubdata.properties), entry.2)) =
        result.2.map fun entry => ((entry.1.publish, entry.1.properties), entry.2) := by
      rw [← List.filterMap_eq_map]
      refine List.filterMap_congr fun entry hEntry => ?_
      have hItem : entry.1 ∈ histories idx := by
        rw [← CommitLog.map_fst_stream data.log (histories idx)]
        exact List.mem_map_of_mem (hStream entry hEntry)
      rw [unexpired_lasting (hLasting _ hItem)]
      rfl
    rw [hAll, List.length_map] at hShort
    exact hRead.short hShort

/-- Reading retained messages leaves the logs as they are. -/
theorem Sound.readRetainedMessages (h : datalog.Sound histories) (order : IterationOrder)
    (filter : FilterName) (now : Instant) :
    ∃ datalog' found, datalog.readRetainedMessages order filter now = ok (datalog', found) ∧
      datalog.SameLogs datalog' ∧ datalog'.native = datalog.native := by
  obtain ⟨retained, hRetained⟩ : ∃ retained, (datalog.retainedPublishes.filterMap fun entry =>
      (unexpired now entry.2).map fun pubdata => (entry.1, pubdata)) = retained := ⟨_, rfl⟩
  have hOld : ∀ entry ∈ retained, ∃ old ∈ datalog.retainedPublishes, old.1 = entry.1 := by
    intro entry hEntry
    rw [← hRetained] at hEntry
    obtain ⟨old, hOld, hSome⟩ := List.mem_filterMap.mp hEntry
    obtain ⟨_, _, rfl⟩ := Option.map_eq_some_iff.mp hSome
    exact ⟨old, hOld, rfl⟩
  have hTopics : ∀ entry ∈ order.order retained, Cuttable entry.1 := by
    intro entry hEntry
    obtain ⟨old, hMem, hSame⟩ := hOld entry ((order.perm retained).mem_iff.mp hEntry)
    exact hSame ▸ h.retained old hMem
  obtain ⟨found, hFound⟩ : ∃ found, matchingRetained filter (order.order retained) = ok found :=
    ⟨_, matchingRetained_eq hTopics⟩
  refine ⟨{ datalog with retainedPublishes := retained }, found, ?_,
    ⟨rfl, rfl, rfl, hOld, fun _ => rfl⟩, rfl⟩
  rw [DataLog.readRetainedMessages, hRetained, hFound, ok_bind]

/-- Only the waiters of the logs change. -/
theorem sameLogs_of_native {native : List Data}
    (h : ∀ idx : FilterIdx, native[idx]?.map (fun data : Data => (data.filter, data.log)) =
      datalog.native[idx]?.map fun data : Data => (data.filter, data.log)) :
    datalog.SameLogs { datalog with native := native } :=
  ⟨rfl, rfl, rfl, fun entry hEntry => ⟨entry, hEntry, rfl⟩, h⟩

/-- The logs after a change of the waiters of one. -/
def modifyWaiters (datalog : DataLog) (idx : FilterIdx) (change : List Waiter → List Waiter) :
    DataLog :=
  { datalog with
    native := datalog.native.modify idx fun data => { data with waiters := change data.waiters } }

/-- The waiters of a log that is there are changed. -/
theorem modifyData_eq {idx : FilterIdx} (h : idx < datalog.native.length)
    (change : List Waiter → List Waiter) :
    datalog.modifyData idx (fun data => { data with waiters := change data.waiters }) =
      ok (datalog.modifyWaiters idx change) := by
  rw [modifyData, if_pos h]
  rfl

/-- Waiters come and go beside the messages. -/
theorem sameLogs_modifyWaiters (datalog : DataLog) (idx : FilterIdx)
    (change : List Waiter → List Waiter) : datalog.SameLogs (datalog.modifyWaiters idx change) := by
  refine sameLogs_of_native fun other => ?_
  rw [List.getElem?_modify]
  cases datalog.native[other]? with
  | none => rfl
  | some data => by_cases hHere : idx = other <;> simp [hHere]

/-- A change of waiters concerns one log. -/
theorem waitersAt_modifyWaiters {idx : FilterIdx} (h : idx < datalog.native.length)
    (change : List Waiter → List Waiter) (other : FilterIdx) :
    (datalog.modifyWaiters idx change).waitersAt other =
      if other = idx then change (datalog.waitersAt other) else datalog.waitersAt other := by
  rw [waitersAt, waitersAt]
  change ((datalog.native.modify idx _)[other]?.map Data.waiters).getD [] = _
  rw [List.getElem?_modify]
  by_cases hHere : other = idx
  · subst hHere
    rw [List.getElem?_eq_getElem h]
    simp
  · cases datalog.native[other]? <;> simp [hHere, Ne.symm hHere]

/-- Those that wait elsewhere stay. -/
theorem allWaiters_modifyWaiters {idx : FilterIdx} (h : idx < datalog.native.length)
    (change : List Waiter → List Waiter) :
    ∃ others, datalog.allWaiters.Perm (datalog.waitersAt idx ++ others) ∧
      (datalog.modifyWaiters idx change).allWaiters.Perm
        (change (datalog.waitersAt idx) ++ others) := by
  have hMem := List.mem_range.mpr h
  refine ⟨((List.range datalog.native.length).erase idx).flatMap datalog.waitersAt, ?_, ?_⟩
  · rw [allWaiters_eq]
    exact (List.perm_cons_erase hMem).flatMap_right _
  · have hOthers : ((List.range datalog.native.length).erase idx).flatMap datalog.waitersAt =
        ((List.range datalog.native.length).erase idx).flatMap
          (datalog.modifyWaiters idx change).waitersAt := by
      refine List.flatMap_congr fun other hOther => ?_
      rw [waitersAt_modifyWaiters h, if_neg (List.nodup_range.mem_erase_iff.mp hOther).1]
    rw [allWaiters_eq, (datalog.sameLogs_modifyWaiters idx change).length, hOthers]
    refine ((List.perm_cons_erase hMem).flatMap_right _).trans ?_
    rw [List.flatMap_cons, waitersAt_modifyWaiters h, if_pos rfl]

/-- A request that has read everything joins those that wait. -/
theorem Steady.park (h : datalog.Steady histories) (id : ConnectionId) {request : DataRequest}
    (hRequest : request.Sound datalog histories)
    (hEnd : Lasting datalog.config (histories request.filterIdx) →
      datalog.AtEnd request.filterIdx request.cursor) :
    ∃ datalog', datalog.park id request = ok datalog' ∧ datalog'.Steady histories ∧
      datalog.Grows histories datalog' histories ∧
      datalog'.allWaiters.Perm ((id, request) :: datalog.allWaiters) := by
  obtain ⟨data, hData, _⟩ := hRequest.placed
  have hBound := (List.getElem?_eq_some_iff.mp hData).1
  have hSame := datalog.sameLogs_modifyWaiters request.filterIdx fun waiters =>
    waiters ++ [(id, request)]
  have hGrows : datalog.Grows histories (datalog.modifyWaiters request.filterIdx _) histories :=
    hSame.grows
  refine ⟨_, modifyData_eq hBound fun waiters => waiters ++ [(id, request)],
    ⟨hSame.sound h.toSound, fun idx waiter hWaiter => ?_⟩, hGrows, ?_⟩
  · have hOld : waiter ∈ datalog.waitersAt idx ∨
        idx = request.filterIdx ∧ waiter = (id, request) := by
      rw [waitersAt_modifyWaiters hBound] at hWaiter
      split_ifs at hWaiter with hHere
      · simpa [hHere] using List.mem_append.mp hWaiter
      · exact .inl hWaiter
    rcases hOld with hOld | ⟨rfl, rfl⟩
    · obtain ⟨hIdx, hSound, hLast⟩ := h.waiting idx waiter hOld
      exact ⟨hIdx, hSound.mono hGrows,
        fun hLasting => hSame.atEnd (hLast (hSame.config ▸ hLasting))⟩
    · exact ⟨rfl, hRequest.mono hGrows,
        fun hLasting => hSame.atEnd (hEnd (hSame.config ▸ hLasting))⟩
  · obtain ⟨others, hBefore, hAfter⟩ := allWaiters_modifyWaiters hBound fun waiters =>
      waiters ++ [(id, request)]
    refine hAfter.trans ?_
    rw [List.append_assoc]
    exact List.perm_middle.trans (hBefore.symm.cons _)

/-- A client that goes leaves the messages. -/
theorem sameLogs_clean (datalog : DataLog) (id : ConnectionId) :
    datalog.SameLogs (datalog.clean id).1 := by
  refine sameLogs_of_native fun idx => ?_
  rw [List.getElem?_map, Option.map_map]
  rfl

/-- A connection that goes takes its requests with it. -/
theorem Steady.clean (h : datalog.Steady histories) (id : ConnectionId) :
    (datalog.clean id).1.Steady histories ∧
      datalog.Grows histories (datalog.clean id).1 histories ∧
      (datalog.clean id).1.allWaiters.Perm (datalog.allWaiters.filter (·.1 ≠ id)) ∧
      (datalog.clean id).2.Perm ((datalog.allWaiters.filter (·.1 = id)).map Prod.snd) := by
  have hSame := datalog.sameLogs_clean id
  refine ⟨hSame.steady h fun idx waiter hWaiter => ?_, hSame.grows, ?_, ?_⟩
  · have hCleaned : (datalog.clean id).1.waitersAt idx =
        (Waiters.remove (datalog.waitersAt idx) id).2 := by
      rw [waitersAt, waitersAt]
      change ((datalog.native.map _)[idx]?.map Data.waiters).getD [] = _
      rw [List.getElem?_map]
      cases datalog.native[idx]? <;> rfl
    rw [hCleaned, (Waiters.remove_spec (datalog.waitersAt idx) id).2.mem_iff] at hWaiter
    exact List.mem_of_mem_filter hWaiter
  · change ((datalog.native.map _).flatMap Data.waiters).Perm _
    rw [List.flatMap_map, allWaiters, List.filter_flatMap]
    exact List.Perm.flatMap_left _ fun data _ => (Waiters.remove_spec data.waiters id).2
  · change (datalog.native.flatMap fun data => (Waiters.remove data.waiters id).1).Perm _
    rw [allWaiters, List.filter_flatMap, List.map_flatMap]
    exact List.Perm.flatMap_left _ fun data _ => (Waiters.remove_spec data.waiters id).1

/-- An unsubscription takes the waiters of one client at one filter. -/
theorem Sound.sameLogs_removeWaitersForId (h : datalog.Sound histories) (id : ConnectionId)
    (filter : FilterName) :
    ∃ datalog', datalog.removeWaitersForId id filter = ok datalog' ∧ datalog.SameLogs datalog' ∧
      (∀ idx, ∀ waiter ∈ datalog'.waitersAt idx, waiter ∈ datalog.waitersAt idx) ∧
      (datalog'.allWaiters.Perm datalog.allWaiters ∧
          (∀ idx, (filter, idx) ∈ datalog.filterIndexes →
            ∀ waiter ∈ datalog.waitersAt idx, waiter.1 ≠ id) ∨
        ∃ idx removed, (filter, idx) ∈ datalog.filterIndexes ∧ removed ∈ datalog.waitersAt idx ∧
          removed.1 = id ∧ (removed :: datalog'.allWaiters).Perm datalog.allWaiters) := by
  rw [DataLog.removeWaitersForId]
  cases hKnown : datalog.filterIndexes.lookup filter with
  | none =>
      refine ⟨datalog, rfl, .refl _, fun _ _ hWaiter => hWaiter,
        .inl ⟨.refl _, fun idx hEntry => ?_⟩⟩
      exact absurd (List.mem_map_of_mem hEntry) (notMem_keys hKnown)
  | some filterIdx =>
      have hEntry := mem_of_lookup hKnown
      obtain ⟨data, hData, _⟩ := h.named _ _ hEntry
      have hBound := (List.getElem?_eq_some_iff.mp hData).1
      obtain ⟨change, hChange⟩ : ∃ change : List Waiter → List Waiter, change = fun waiters =>
          (waiters.findIdx? (·.1 = id)).elim waiters (Waiters.swapRemoveBack waiters) := ⟨_, rfl⟩
      have hSwap : ∀ waiters : List Waiter,
          change waiters = waiters ∧ (∀ waiter ∈ waiters, waiter.1 ≠ id) ∨
          ∃ removed : Waiter, removed.1 = id ∧ (removed :: change waiters).Perm waiters := by
        intro waiters
        rw [hChange]
        dsimp only
        cases hFound : waiters.findIdx? (·.1 = id) with
        | none =>
            exact .inl ⟨rfl, fun waiter hWaiter => of_decide_eq_false
              (List.findIdx?_eq_none_iff.mp hFound waiter hWaiter)⟩
        | some position =>
            obtain ⟨hPosition, hId, _⟩ := List.findIdx?_eq_some_iff_getElem.mp hFound
            exact .inr ⟨_, by simpa using hId, Waiters.perm_swapRemoveBack hPosition⟩
      obtain ⟨others, hBefore, hAfter⟩ := allWaiters_modifyWaiters hBound change
      refine ⟨_, ?_, datalog.sameLogs_modifyWaiters filterIdx change, fun idx waiter hWaiter => ?_,
        ?_⟩
      · refine Eq.trans ?_ (modifyData_eq hBound change)
        refine congrArg (datalog.modifyData filterIdx) (funext fun data => ?_)
        rw [hChange]
        dsimp only
        cases data.waiters.findIdx? (·.1 = id) <;> rfl
      · rw [waitersAt_modifyWaiters hBound] at hWaiter
        split_ifs at hWaiter
        · rcases hSwap (datalog.waitersAt idx) with ⟨hAll, _⟩ | ⟨removed, _, hPerm⟩
          · exact hAll ▸ hWaiter
          · exact hPerm.mem_iff.mp (List.mem_cons_of_mem _ hWaiter)
        · exact hWaiter
      · rcases hSwap (datalog.waitersAt filterIdx) with ⟨hAll, hNone⟩ | ⟨removed, hId, hPerm⟩
        · rw [hAll] at hAfter
          refine .inl ⟨hAfter.trans hBefore.symm, fun idx hOther => ?_⟩
          rw [lookup_of_mem h.keys hOther, Option.some.injEq] at hKnown
          exact hKnown ▸ hNone
        · refine .inr ⟨filterIdx, removed, hEntry, hPerm.mem_iff.mp List.mem_cons_self, hId, ?_⟩
          refine (hAfter.cons _).trans (List.Perm.trans ?_ hBefore.symm)
          rw [← List.cons_append]
          exact hPerm.append_right _

/-- A filter that is given up takes a request of its own log away, if any. -/
theorem Steady.removeWaitersForId (h : datalog.Steady histories) (id : ConnectionId)
    (filter : FilterName) :
    ∃ datalog' removed, datalog.removeWaitersForId id filter = ok datalog' ∧
      datalog'.Steady histories ∧ datalog.Grows histories datalog' histories ∧
      (removed ++ datalog'.allWaiters).Perm datalog.allWaiters ∧
      (∀ waiter ∈ removed, waiter.1 = id ∧ waiter.2.filter = filter) ∧
      (removed = [] → ∀ waiter ∈ datalog.allWaiters, waiter.1 = id → waiter.2.filter ≠ filter) := by
  obtain ⟨datalog', hRemove, hSame, hSubset, hWaiters⟩ :=
    h.toSound.sameLogs_removeWaitersForId id filter
  have hSteady := hSame.steady h hSubset
  rcases hWaiters with ⟨hPerm, hNone⟩ | ⟨idx, removed, hEntry, hMem, hId, hPerm⟩
  · refine ⟨datalog', [], hRemove, hSteady, hSame.grows, hPerm, by simp, ?_⟩
    intro _ waiter hWaiter hId hFilter
    obtain ⟨idx, hWaits⟩ := mem_allWaiters.mp hWaiter
    obtain ⟨hIdx, hRequest, _⟩ := h.waiting idx waiter hWaits
    have hKnown := hRequest.known
    rw [hIdx, hFilter] at hKnown
    exact hNone idx hKnown waiter hWaits hId
  · obtain ⟨hIdx, hRequest, _⟩ := h.waiting idx removed hMem
    have hKnown := hRequest.known
    rw [hIdx] at hKnown
    refine ⟨datalog', [removed], hRemove, hSteady, hSame.grows, hPerm, fun waiter hWaiter => ?_,
      fun hNil => absurd hNil (List.cons_ne_nil _ _)⟩
    rw [List.mem_singleton.mp hWaiter]
    exact ⟨hId, h.filter_eq hKnown hEntry⟩

end DataLog
end SnapEmu.Broker
