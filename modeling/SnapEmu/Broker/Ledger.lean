import SnapEmu.Broker.Requests
import SnapEmu.Semantics.FallibleRun

/-! The logs and the retained messages over a whole run, beside what was
subscribed to and published in it. -/
namespace SnapEmu.Broker

open Mqtt (Str)
open Semantics Exec

/-- What the router does with the logs and the retained messages. -/
inductive LogsInput where
  | subscribe (filter : FilterName)
  | record (publish : Publish) (properties : Option PublishProperties) (now : Instant)
  | readRetained (filter : FilterName) (now : Instant)
  | clean (id : ConnectionId)
  | removeWaiters (id : ConnectionId) (filter : FilterName)

namespace LogsInput

/-- The topics and filters may be cut behind their first byte. -/
def Fine : LogsInput → Prop
  | .subscribe filter => Cuttable filter
  | .record publish _ _ => Cuttable publish.topic
  | _ => True

def step (order : IterationOrder) (state : DataLog × List Waiter) :
    LogsInput → Exec Empty (DataLog × List Waiter)
  | .subscribe filter =>
      state.1.nextNativeOffset filter >>= fun result => ok (result.1, state.2)
  | .record publish properties now =>
      state.1.record order state.2 publish properties publish.topic now >>=
        fun result => ok (result.1, result.2.1)
  | .readRetained filter now =>
      state.1.readRetainedMessages order filter now >>= fun result => ok (result.1, state.2)
  | .clean id => ok ((state.1.clean id).1, state.2)
  | .removeWaiters id filter =>
      state.1.removeWaitersForId id filter >>= fun datalog => ok (datalog, state.2)

/-- What a filter has been sent since it is known. -/
def sent (filter : FilterName) (history : Option (List PublishData)) :
    LogsInput → Option (List PublishData)
  | .subscribe other => if other = filter then some (history.getD []) else history
  | .record publish properties now =>
      if under publish.topic filter then
        history.map fun items => items ++ [logged publish properties now]
      else history
  | _ => history

/-- The message retained for a topic: the last one that says so, unless an
empty one has come behind it. -/
def kept (topic : Topic) (message : Option PublishData) : LogsInput → Option PublishData
  | .record publish properties now =>
      if publish.topic ≠ topic then message
      else if publish.payload = [] then none
      else if publish.retain then
        some { publish := publish, properties := properties, timestamp := now }
      else message
  | _ => message

end LogsInput

namespace DataLog

variable {datalog datalog' : DataLog} {histories : FilterIdx → List PublishData}
  {ledger : FilterName → Option (List PublishData)}

/-- The known filters are those of the ledger, and have its histories. -/
structure Tracks (datalog : DataLog) (histories : FilterIdx → List PublishData)
    (ledger : FilterName → Option (List PublishData)) : Prop where
  sound : datalog.Sound histories
  known : ∀ filter idx, (filter, idx) ∈ datalog.filterIndexes → ledger filter = some (histories idx)
  listed : ∀ filter history, ledger filter = some history →
    ∃ idx, (filter, idx) ∈ datalog.filterIndexes

theorem SameLogs.tracks (h : datalog.SameLogs datalog')
    (hTracks : datalog.Tracks histories ledger) :
    datalog'.Tracks histories ledger :=
  ⟨h.sound hTracks.sound, h.filterIndexes ▸ hTracks.known, h.filterIndexes ▸ hTracks.listed⟩

/-- A subscription opens a log that tracks what comes from then on. -/
theorem Tracks.subscribe (h : datalog.Tracks histories ledger) {filter : FilterName}
    (hFilter : Cuttable filter) :
    ∃ datalog' idx cursor, datalog.nextNativeOffset filter = ok (datalog', idx, cursor) ∧
      datalog'.Tracks histories fun other => (LogsInput.subscribe filter).sent other (ledger other)
      := by
  cases hKnown : datalog.filterIndexes.lookup filter with
  | some idx =>
      obtain ⟨data, hNext, _⟩ := h.sound.nextNativeOffset_known hKnown
      have hSame :
          (fun other => (LogsInput.subscribe filter).sent other (ledger other)) = ledger := by
        funext other
        rw [LogsInput.sent]
        split_ifs with hOther
        · rw [← hOther, h.known _ _ (mem_of_lookup hKnown)]
          rfl
        · rfl
      refine ⟨datalog, idx, _, hNext, ?_⟩
      rw [hSame]
      exact h
  | none =>
      obtain ⟨log, hLog, hNext⟩ := h.sound.nextNativeOffset_new hFilter hKnown
      refine ⟨datalog.withFilter filter log, _, _, hNext, h.sound.addData hKnown hLog, ?_, ?_⟩
      · intro other idx hEntry
        rw [LogsInput.sent]
        rcases mem_insertKey.mp hEntry with ⟨hOld, hOther⟩ | hSame
        · rw [if_neg (Ne.symm hOther), h.known _ _ hOld]
        · cases hSame
          have hNobody : ledger filter = none := by
            refine Option.eq_none_iff_forall_ne_some.mpr fun history hHistory => ?_
            obtain ⟨idx, hMem⟩ := h.listed _ _ hHistory
            exact notMem_keys hKnown (List.mem_map_of_mem (f := Prod.fst) hMem)
          rw [if_pos rfl, hNobody, h.sound.beyond _ (Nat.le_refl _)]
          rfl
      · intro other history hHistory
        rw [LogsInput.sent] at hHistory
        split_ifs at hHistory with hOther
        · exact ⟨_, mem_insertKey.mpr (.inr (by rw [hOther]))⟩
        · obtain ⟨idx, hMem⟩ := h.listed _ _ hHistory
          exact ⟨idx, mem_insertKey.mpr (.inl ⟨hMem, Ne.symm hOther⟩)⟩

/-- A message comes to the ledger of each filter that has its topic. -/
theorem Tracks.record (h : datalog.Tracks histories ledger) (order : IterationOrder)
    (notifications : List Waiter) (publish : Publish) (properties : Option PublishProperties)
    (hTopic : Cuttable publish.topic) (now : Instant) :
    ∃ datalog' notifications' offset histories',
      datalog.record order notifications publish properties publish.topic now =
        ok (datalog', notifications', offset) ∧
      datalog'.Tracks histories' fun filter =>
        (LogsInput.record publish properties now).sent filter (ledger filter) := by
  obtain ⟨datalog', found, offset, hRecord, hFound, hRecorded, _, hSound⟩ :=
    h.sound.record order notifications publish properties hTopic now
  refine ⟨datalog', _, offset, _, hRecord, hSound, ?_, ?_⟩
  · intro filter idx hEntry
    rw [hRecorded.filterIndexes] at hEntry
    have hHistory := h.known _ _ hEntry
    have hUnder : idx ∈ found ↔ under publish.topic filter = true := by
      rw [hFound]
      constructor
      · rintro ⟨other, hOther, hMatch⟩
        exact h.sound.filter_eq hOther hEntry ▸ hMatch
      · exact fun hMatch => ⟨filter, hEntry, hMatch⟩
    rw [LogsInput.sent, hHistory, recordedIn]
    by_cases hMatch : under publish.topic filter = true
    · rw [if_pos hMatch, if_pos (hUnder.mpr hMatch)]
      rfl
    · rw [if_neg hMatch, if_neg (mt hUnder.mp hMatch)]
  · intro filter history hHistory
    rw [hRecorded.filterIndexes]
    rw [LogsInput.sent] at hHistory
    split_ifs at hHistory
    · obtain ⟨old, hOld, _⟩ := Option.map_eq_some_iff.mp hHistory
      exact h.listed filter old hOld
    · exact h.listed filter history hHistory

/-- A step does not fail, and the ledger has what it did. -/
theorem Tracks.step (h : datalog.Tracks histories ledger) (order : IterationOrder)
    (notifications : List Waiter) (input : LogsInput) (hFine : input.Fine) :
    ∃ state histories', input.step order (datalog, notifications) = ok state ∧
      state.1.Tracks histories' fun filter => input.sent filter (ledger filter) := by
  cases input with
  | subscribe filter =>
      obtain ⟨datalog', idx, cursor, hNext, hTracks⟩ := h.subscribe hFine
      exact ⟨_, histories, by rw [LogsInput.step, hNext, ok_bind], hTracks⟩
  | record publish properties now =>
      obtain ⟨datalog', notifications', offset, histories', hRecord, hTracks⟩ :=
        h.record order notifications publish properties hFine now
      exact ⟨_, histories', by rw [LogsInput.step, hRecord, ok_bind], hTracks⟩
  | readRetained filter now =>
      obtain ⟨datalog', found, hRead, hSame, _⟩ :=
        h.sound.readRetainedMessages order filter now
      exact ⟨_, histories, by rw [LogsInput.step, hRead, ok_bind], hSame.tracks h⟩
  | clean id => exact ⟨((datalog.clean id).1, notifications), histories, rfl,
      (datalog.sameLogs_clean id).tracks h⟩
  | removeWaiters id filter =>
      obtain ⟨datalog', hRemove, hSame, _⟩ := h.sound.sameLogs_removeWaitersForId id filter
      exact ⟨_, histories, by rw [LogsInput.step, hRemove, ok_bind], hSame.tracks h⟩

end DataLog

/-- The messages are the same but for what is left of their expiry interval. -/
structure PublishData.SameBut (message original : PublishData) : Prop where
  publish : message.publish = original.publish
  timestamp : message.timestamp = original.timestamp
  properties : message.properties.map (fun properties =>
      { properties with messageExpiryInterval := none }) =
    original.properties.map fun properties => { properties with messageExpiryInterval := none }

theorem PublishData.SameBut.refl (message : PublishData) : message.SameBut message :=
  ⟨rfl, rfl, rfl⟩

namespace DataLog

/-- A message that has waited is the same but for its expiry. -/
theorem sameBut_unexpired {message original left : PublishData} {now : Instant}
    (h : message.SameBut original) (hLeft : unexpired now message = some left) :
    left.SameBut original := by
  rw [unexpired] at hLeft
  cases hProperties : message.properties with
  | none =>
      rw [hProperties] at hLeft
      cases hLeft
      exact h
  | some properties =>
      rw [hProperties] at hLeft
      dsimp only at hLeft
      cases hInterval : properties.messageExpiryInterval with
      | none =>
          rw [hInterval] at hLeft
          cases hLeft
          exact h
      | some interval =>
          rw [hInterval] at hLeft
          dsimp only at hLeft
          split_ifs at hLeft
          cases hLeft
          refine ⟨h.publish, h.timestamp, Eq.trans ?_ h.properties⟩
          rw [hProperties]
          rfl

/-- What is retained, beside the messages that were said to be. -/
structure Keeps (datalog : DataLog) (spec : Topic → Option PublishData) : Prop where
  keys : (datalog.retainedPublishes.map Prod.fst).Nodup
  known : ∀ topic message, (topic, message) ∈ datalog.retainedPublishes →
    ∃ original, spec topic = some original ∧ message.SameBut original
  lasting : ∀ topic original, spec topic = some original →
    original.properties.bind PublishProperties.messageExpiryInterval = none →
    (topic, original) ∈ datalog.retainedPublishes

variable {datalog datalog' : DataLog} {spec : Topic → Option PublishData}

theorem Keeps.of_eq (h : datalog.Keeps spec)
    (hSame : datalog'.retainedPublishes = datalog.retainedPublishes) : datalog'.Keeps spec :=
  ⟨hSame ▸ h.keys, hSame ▸ h.known, hSame ▸ h.lasting⟩

/-- A retained message replaces the one of its topic. -/
theorem Keeps.insert (h : datalog.Keeps spec) (publish : Publish)
    (properties : Option PublishProperties) (topic : Topic) (now : Instant) :
    (datalog.insertToRetainedPublishes publish properties topic now).Keeps
      (Function.update spec topic
        (some { publish := publish, properties := properties, timestamp := now })) where
  keys := nodup_insertKey h.keys
  known other message hEntry := by
    rcases mem_insertKey.mp hEntry with ⟨hOld, hOther⟩ | hSame
    · rw [Function.update_of_ne hOther]
      exact h.known other message hOld
    · cases hSame
      exact ⟨_, Function.update_self _ _ _, .refl _⟩
  lasting other original hOriginal hLasting := by
    by_cases hSame : other = topic
    · subst hSame
      rw [Function.update_self, Option.some.injEq] at hOriginal
      exact mem_insertKey.mpr (.inr (by rw [hOriginal]))
    · rw [Function.update_of_ne hSame] at hOriginal
      exact mem_insertKey.mpr (.inl ⟨h.lasting other original hOriginal hLasting, hSame⟩)

/-- An empty retained message removes the one of its topic. -/
theorem Keeps.remove (h : datalog.Keeps spec) (topic : Topic) :
    (datalog.removeFromRetainedPublishes topic).Keeps (Function.update spec topic none) where
  keys := h.keys.sublist (List.filter_sublist.map _)
  known other message hEntry := by
    obtain ⟨hOld, hOther⟩ := List.mem_filter.mp hEntry
    rw [Function.update_of_ne (of_decide_eq_true hOther)]
    exact h.known other message hOld
  lasting other original hOriginal hLasting := by
    by_cases hSame : other = topic
    · subst hSame
      rw [Function.update_self] at hOriginal
      cases hOriginal
    · rw [Function.update_of_ne hSame] at hOriginal
      exact List.mem_filter.mpr ⟨h.lasting other original hOriginal hLasting, decide_eq_true hSame⟩

/-- A read leaves of each retained message what has not expired. -/
theorem Keeps.read (h : datalog.Keeps spec) (now : Instant) {retained : List (Topic × PublishData)}
    (hRetained : retained = datalog.retainedPublishes.filterMap fun entry =>
      (unexpired now entry.2).map fun pubdata => (entry.1, pubdata)) :
    { datalog with retainedPublishes := retained }.Keeps spec where
  keys := by
    have hTopics : ∀ entries : List (Topic × PublishData), ((entries.filterMap fun entry =>
        (unexpired now entry.2).map fun pubdata => (entry.1, pubdata)).map Prod.fst).Sublist
          (entries.map Prod.fst) := by
      intro entries
      induction entries with
      | nil => exact .slnil
      | cons entry entries ih =>
          rw [List.filterMap_cons]
          cases unexpired now entry.2 with
          | none => exact ih.cons _
          | some pubdata => exact ih.cons_cons _
    rw [hRetained]
    exact h.keys.sublist (hTopics _)
  known topic message hEntry := by
    rw [hRetained] at hEntry
    obtain ⟨⟨other, old⟩, hOld, hSome⟩ := List.mem_filterMap.mp hEntry
    obtain ⟨left, hLeft, hSame⟩ := Option.map_eq_some_iff.mp hSome
    cases hSame
    obtain ⟨original, hOriginal, hBut⟩ := h.known _ _ hOld
    exact ⟨original, hOriginal, sameBut_unexpired hBut hLeft⟩
  lasting topic original hOriginal hLasting := by
    rw [hRetained]
    refine List.mem_filterMap.mpr ⟨_, h.lasting topic original hOriginal hLasting, ?_⟩
    rw [unexpired_lasting hLasting]
    rfl

/-- Matching leaves the retained messages. -/
theorem matchesTopic_retained {order : IterationOrder} {topic : Topic} {found : List FilterIdx}
    (h : datalog.matchesTopic order topic = ok (datalog', found)) :
    datalog'.retainedPublishes = datalog.retainedPublishes := by
  unfold matchesTopic at h
  split at h
  · rw [ok.injEq, Prod.mk.injEq] at h
    rw [h.1]
  · obtain ⟨search, _, hResult⟩ := bind_eq_ok.mp h
    rw [ok.injEq, Prod.mk.injEq] at hResult
    rw [← hResult.1]
    split_ifs <;> rfl

/-- Appending leaves the retained messages. -/
theorem appendTo_retained {item : PublishData} {found : List FilterIdx}
    {notifications notifications' : List Waiter} {offset offset' : Offset}
    (h : appendTo item found datalog notifications offset =
      ok (datalog', notifications', offset')) :
    datalog'.retainedPublishes = datalog.retainedPublishes := by
  induction found generalizing datalog notifications offset with
  | nil =>
      rw [appendTo, ok.injEq, Prod.mk.injEq] at h
      rw [h.1]
  | cons idx found ih =>
      obtain ⟨data, _, hRest⟩ := bind_eq_ok.mp h
      exact (ih hRest :)

/-- Subscribing leaves the retained messages. -/
theorem nextNativeOffset_retained {filter : FilterName} {idx : FilterIdx} {cursor : Offset}
    (h : datalog.nextNativeOffset filter = ok (datalog', idx, cursor)) :
    datalog'.retainedPublishes = datalog.retainedPublishes := by
  unfold nextNativeOffset at h
  split at h
  · obtain ⟨data, _, hResult⟩ := bind_eq_ok.mp h
    rw [ok.injEq, Prod.mk.injEq] at hResult
    rw [hResult.1]
  · obtain ⟨data, _, hRest⟩ := bind_eq_ok.mp h
    obtain ⟨topics, _, hResult⟩ := bind_eq_ok.mp hRest
    rw [ok.injEq, Prod.mk.injEq] at hResult
    rw [← hResult.1]

/-- Unsubscribing leaves the retained messages. -/
theorem removeWaitersForId_retained {id : ConnectionId} {filter : FilterName}
    (h : datalog.removeWaitersForId id filter = ok datalog') :
    datalog'.retainedPublishes = datalog.retainedPublishes := by
  unfold removeWaitersForId at h
  split at h
  · rw [ok.injEq] at h
    rw [h]
  · unfold modifyData at h
    split_ifs at h
    rw [ok.injEq] at h
    rw [← h]

/-- A step leaves the messages retained that are said to be. -/
theorem Keeps.step (h : datalog.Keeps spec) {order : IterationOrder} {notifications : List Waiter}
    {input : LogsInput} {state : DataLog × List Waiter}
    (hStep : input.step order (datalog, notifications) = ok state) :
    state.1.Keeps fun topic => input.kept topic (spec topic) := by
  cases input with
  | subscribe filter =>
      obtain ⟨result, hNext, hState⟩ := bind_eq_ok.mp hStep
      rw [ok.injEq] at hState
      exact hState ▸ h.of_eq (nextNativeOffset_retained hNext)
  | record publish properties now =>
      obtain ⟨result, hRecord, hState⟩ := bind_eq_ok.mp hStep
      obtain ⟨search, hSearch, hAppend⟩ := bind_eq_ok.mp hRecord
      rw [ok.injEq] at hState
      have hSame := (appendTo_retained hAppend).trans (matchesTopic_retained hSearch)
      refine hState ▸ Keeps.of_eq ?_ hSame
      have hSpec :
          (fun topic => (LogsInput.record publish properties now).kept topic (spec topic)) =
          if publish.payload = [] then Function.update spec publish.topic none
          else if publish.retain then Function.update spec publish.topic
            (some { publish := publish, properties := properties, timestamp := now })
          else spec := by
        funext topic
        rw [LogsInput.kept]
        by_cases hTopic : publish.topic = topic
        · subst hTopic
          split_ifs <;> simp_all
        · split_ifs <;> simp_all [Function.update_of_ne (Ne.symm hTopic)]
      rw [hSpec]
      split_ifs
      · exact h.remove _
      · exact h.insert _ _ _ _
      · exact h
  | readRetained filter now =>
      obtain ⟨result, hRead, hState⟩ := bind_eq_ok.mp hStep
      obtain ⟨found, _, hResult⟩ := bind_eq_ok.mp hRead
      rw [ok.injEq] at hState hResult
      rw [← hState, ← hResult]
      exact h.read now rfl
  | clean id =>
      rw [LogsInput.step, ok.injEq] at hStep
      exact hStep ▸ h.of_eq rfl
  | removeWaiters id filter =>
      obtain ⟨result, hRemove, hState⟩ := bind_eq_ok.mp hStep
      rw [ok.injEq] at hState
      exact hState ▸ h.of_eq (removeWaitersForId_retained hRemove)

section Run

variable {config : RouterConfig} {inputs : List LogsInput}

/-- No step of a run fails, and the logs are those of what was done in it. -/
theorem run_tracks (hConfig : config.Valid) (hNew : DataLog.new config = ok datalog)
    (order : IterationOrder) (hFine : ∀ input ∈ inputs, input.Fine) :
    ∃ state histories, inputs.foldlM (LogsInput.step order) (datalog, []) = ok state ∧
      state.1.Tracks histories fun filter => inputs.foldl (LogsInput.sent filter)
        (if filter ∈ config.initializedFilters.getD [] then some [] else none) := by
  obtain ⟨hInitial, _, hKeys⟩ := initial_new hConfig hNew
  have hTracks : datalog.Tracks (fun _ => []) fun filter =>
      if filter ∈ config.initializedFilters.getD [] then some [] else none := by
    refine ⟨hInitial.sound, fun filter idx hEntry => ?_, fun filter history hHistory => ?_⟩
    · exact if_pos ((hKeys filter).mp ⟨idx, hEntry⟩)
    · refine (hKeys filter).mpr ?_
      by_contra hUnknown
      simp [hUnknown] at hHistory
  obtain ⟨state, hRun, histories, hTracks'⟩ := run_ok
    (fun past (state : DataLog × List Waiter) =>
      ∃ histories, state.1.Tracks histories fun filter => past.foldl (LogsInput.sent filter)
        (if filter ∈ config.initializedFilters.getD [] then some [] else none))
    LogsInput.Fine
    (fun past state input ⟨histories, hTracks⟩ hGood => by
      obtain ⟨state', histories', hStep, hNext⟩ := hTracks.step order state.2 input hGood
      refine ⟨state', hStep, histories', ?_⟩
      simpa only [List.foldl_append, List.foldl_cons, List.foldl_nil] using hNext)
    (datalog, []) ⟨_, hTracks⟩ hFine
  exact ⟨state, histories, hRun, hTracks'⟩

/-- Whatever the order of subscriptions and messages, and whether the filters
of a topic are searched or remembered, no step fails, and the log of each known
filter is that of the messages under it since it is known; for topics and
filters that can be cut behind their first byte. -/
theorem logs_hold (hConfig : config.Valid) (hNew : DataLog.new config = ok datalog)
    (order : IterationOrder) (hFine : ∀ input ∈ inputs, input.Fine) :
    ∃ state, inputs.foldlM (LogsInput.step order) (datalog, []) = ok state ∧
      ∀ filter,
        match inputs.foldl (LogsInput.sent filter)
          (if filter ∈ config.initializedFilters.getD [] then some [] else none) with
        | none => state.1.filterIndexes.lookup filter = none
        | some history => ∃ (idx : FilterIdx) (data : Data),
            state.1.filterIndexes.lookup filter = some idx ∧ state.1.native[idx]? = some data ∧
              data.filter = filter ∧ data.log.Holds history := by
  obtain ⟨state, histories, hRun, hTracks⟩ := run_tracks hConfig hNew order hFine
  refine ⟨state, hRun, fun filter => ?_⟩
  split
  · rename_i hNone
    cases hLookup : state.1.filterIndexes.lookup filter with
    | none => rfl
    | some idx =>
        have hSome := hTracks.known _ _ (mem_of_lookup hLookup)
        rw [hNone] at hSome
        cases hSome
  · rename_i history hSome
    obtain ⟨idx, hEntry⟩ := hTracks.listed filter history hSome
    obtain ⟨data, hData, hFilter⟩ := hTracks.sound.named _ _ hEntry
    have hHistory := hTracks.known _ _ hEntry
    rw [hSome, Option.some.injEq] at hHistory
    refine ⟨idx, data, hTracks.sound.lookup_iff.mpr hEntry, hData, hFilter, ?_⟩
    rw [hHistory]
    exact hTracks.sound.holds idx data hData

/-- A filter, a message under it, and one under another topic. -/
theorem logs_hold_two :
    ∃ datalog : DataLog, DataLog.new ⟨10, 10, 1024, 2, none, none, .RoundRobin⟩ = ok datalog ∧
      ∃ state, [LogsInput.subscribe [97, 47, 43],
          .record (Publish.new [97, 47, 98] [1] false) none 5,
          .record (Publish.new [98, 47, 98] [2] false) none 6].foldlM
          (LogsInput.step ⟨fun items => items, fun items => .refl items⟩) (datalog, []) =
            ok state ∧
        ∃ (idx : FilterIdx) (data : Data), state.1.native[idx]? = some data ∧
          data.log.Holds [logged (Publish.new [97, 47, 98] [1] false) none 5] := by
  have hConfig : RouterConfig.Valid ⟨10, 10, 1024, 2, none, none, .RoundRobin⟩ :=
    ⟨by decide, by decide, by simp⟩
  obtain ⟨datalog, hNew⟩ : ∃ datalog : DataLog,
    DataLog.new ⟨10, 10, 1024, 2, none, none, .RoundRobin⟩ = ok datalog := ⟨_, rfl⟩
  obtain ⟨state, hRun, hHold⟩ := logs_hold hConfig hNew
    ⟨fun items => items, fun items => .refl items⟩
    (show ∀ input ∈ [LogsInput.subscribe [97, 47, 43],
      .record (Publish.new [97, 47, 98] [1] false) none 5,
      .record (Publish.new [98, 47, 98] [2] false) none 6], input.Fine by
        simp [LogsInput.Fine, Cuttable, Publish.new, isCharBoundary])
  obtain ⟨idx, data, _, hData, _, hLog⟩ := hHold [97, 47, 43]
  exact ⟨datalog, hNew, state, hRun, idx, data, hData, hLog⟩

/-- At the start nothing is retained. -/
theorem new_retained (hNew : DataLog.new config = ok datalog) : datalog.retainedPublishes = [] := by
  have hKept : ∀ (past : List FilterName) (datalog : DataLog) (filter : FilterName),
      datalog.retainedPublishes = [] → True →
        (datalog.addFilter filter).Yields fun datalog' => datalog'.retainedPublishes = [] :=
    fun _ _ _ hBlank _ => yields_bind fun _ _ => yields_ok hBlank
  unfold DataLog.new at hNew
  exact run_yields (fun _ (datalog : DataLog) => datalog.retainedPublishes = []) (fun _ => True)
    hKept [] _ rfl (fun _ _ => trivial) datalog hNew

/-- What is retained for a topic is the last message that said so, but for what
is left of its expiry interval, and a message that does not expire stays. -/
theorem retained_hold (hNew : DataLog.new config = ok datalog) (order : IterationOrder)
    {state : DataLog × List Waiter}
    (hRun : inputs.foldlM (LogsInput.step order) (datalog, []) = ok state) (topic : Topic) :
    (∀ message, state.1.retainedPublishes.lookup topic = some message →
      ∃ original, inputs.foldl (LogsInput.kept topic) none = some original ∧
        message.SameBut original) ∧
      ∀ original, inputs.foldl (LogsInput.kept topic) none = some original →
        original.properties.bind PublishProperties.messageExpiryInterval = none →
        state.1.retainedPublishes.lookup topic = some original := by
  have hBlank := new_retained hNew
  have hStart : datalog.Keeps fun _ => none := by
    refine ⟨?_, fun topic message hEntry => ?_, fun _ _ hNone => by cases hNone⟩
    · rw [hBlank]
      exact List.nodup_nil
    · rw [hBlank] at hEntry
      cases hEntry
  have hKeeps : state.1.Keeps fun topic => inputs.foldl (LogsInput.kept topic) none :=
    run_yields (fun past (state : DataLog × List Waiter) =>
        state.1.Keeps fun topic => past.foldl (LogsInput.kept topic) none) (fun _ => True)
      (fun past state input hKeeps _ next hNext => by
        simpa only [List.foldl_append, List.foldl_cons, List.foldl_nil] using hKeeps.step hNext)
      [] _ hStart (fun _ _ => trivial) state hRun
  exact ⟨fun message hLookup => hKeeps.known topic message (mem_of_lookup hLookup),
    fun original hOriginal hLasting =>
      lookup_of_mem hKeeps.keys (hKeeps.lasting topic original hOriginal hLasting)⟩

/-- A message is retained in place of an earlier one. -/
theorem retained_hold_two :
    ∃ datalog : DataLog, DataLog.new ⟨10, 10, 1024, 2, none, none, .RoundRobin⟩ = ok datalog ∧
      ∃ state, [LogsInput.record (Publish.new [97] [1] true) none 5,
          .record (Publish.new [97] [2] true) none 6].foldlM
          (LogsInput.step ⟨fun items => items, fun items => .refl items⟩) (datalog, []) =
            ok state ∧
        state.1.retainedPublishes.lookup [97] =
          some { publish := Publish.new [97] [2] true, properties := none, timestamp := 6 } := by
  have hBoth : ∃ datalog state,
      DataLog.new ⟨10, 10, 1024, 2, none, none, .RoundRobin⟩ = ok datalog ∧
      [LogsInput.record (Publish.new [97] [1] true) none 5,
        .record (Publish.new [97] [2] true) none 6].foldlM
        (LogsInput.step ⟨fun items => items, fun items => .refl items⟩) (datalog, []) = ok state :=
    ⟨_, _, rfl, rfl⟩
  obtain ⟨datalog, state, hNew, hRun⟩ := hBoth
  exact ⟨datalog, hNew, state, hRun, (retained_hold hNew _ hRun [97]).2 _ rfl rfl⟩

end Run
end DataLog
end SnapEmu.Broker
