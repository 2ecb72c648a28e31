import SnapEmu.Broker.DataLog
import SnapEmu.Broker.Following

/-! What the logs of all filters hold. A topic whose filters are remembered has
the filters a search would find. -/
namespace SnapEmu.Broker

open Mqtt (Str)
open Semantics Exec

/-- The first byte may be cut off as a string. -/
def Cuttable (topic : Topic) : Prop := topic = [] ∨ isCharBoundary topic 1 = true

/-- The topic is under the filter. -/
def under (topic : Topic) (filter : FilterName) : Bool :=
  topic.head? ≠ some 36 && Mqtt.matchFrom (filter.splitOn 47) (topic.splitOn 47)

/-- On topics that may be cut the matcher does not panic, and decides whether a filter
has the topic. -/
theorem topicMatches_eq {ε : Type} {topic : Topic} (h : Cuttable topic) (filter : FilterName) :
    (topicMatches topic filter : Exec ε Bool) = ok (under topic filter) := by
  rw [topicMatches, under]
  cases topic with
  | nil => rfl
  | cons first rest =>
      have hCut := h.resolve_left (List.cons_ne_nil _ _)
      rw [Mqtt.topicMatches, hCut, List.head?_cons]
      by_cases hDollar : first = 36
      · simp [hDollar]
      · simp [hDollar]

section Keys

variable {α β : Type} [BEq α] [LawfulBEq α] {map : List (α × β)} {key : α} {value : β}

theorem mem_of_lookup (h : map.lookup key = some value) : (key, value) ∈ map := by
  obtain ⟨front, back, rfl, _⟩ := List.lookup_eq_some_iff.mp h
  exact List.mem_append_right _ List.mem_cons_self

/-- An entry is looked up, if no key is there twice. -/
theorem lookup_of_mem (hKeys : (map.map Prod.fst).Nodup) (h : (key, value) ∈ map) :
    map.lookup key = some value := by
  obtain ⟨front, back, rfl⟩ := List.append_of_mem h
  refine List.lookup_eq_some_iff.mpr ⟨front, back, rfl, fun entry hEntry => ?_⟩
  rw [List.map_append, List.nodup_append] at hKeys
  exact bne_iff_ne.mpr fun hSame =>
    hKeys.2.2 _ (List.mem_map_of_mem hEntry) key (by simp) hSame.symm

/-- What is not looked up is no key. -/
theorem notMem_keys (h : map.lookup key = none) : key ∉ map.map Prod.fst := by
  intro hMem
  obtain ⟨entry, hEntry, hKey⟩ := List.mem_map.mp hMem
  have hNone := List.lookup_eq_none_iff.mp h entry hEntry
  simp [hKey] at hNone

variable [DecidableEq α]

omit [BEq α] [LawfulBEq α] in
theorem mem_insertKey {entry : α × β} :
    entry ∈ insertKey map key value ↔ entry ∈ map ∧ entry.1 ≠ key ∨ entry = (key, value) := by
  simp [insertKey]

/-- An insertion under a new key comes last. -/
theorem insertKey_new (h : map.lookup key = none) :
    insertKey map key value = map ++ [(key, value)] := by
  rw [insertKey, List.filter_eq_self.mpr]
  intro entry hEntry
  exact decide_eq_true fun hKey => notMem_keys h (hKey ▸ List.mem_map_of_mem hEntry)

omit [BEq α] [LawfulBEq α] in
/-- After an insertion no key is there twice. -/
theorem nodup_insertKey (h : (map.map Prod.fst).Nodup) :
    ((insertKey map key value).map Prod.fst).Nodup := by
  rw [insertKey, List.map_append, List.nodup_append]
  refine ⟨h.sublist (List.filter_sublist.map _), by simp, ?_⟩
  intro first hFirst second hSecond
  obtain ⟨entry, hEntry, rfl⟩ := List.mem_map.mp hFirst
  rw [List.map_singleton, List.mem_singleton] at hSecond
  rw [hSecond]
  exact of_decide_eq_true (List.mem_filter.mp hEntry).2

end Keys

/-- The sizes of segments are ones a log may have. -/
structure RouterConfig.Valid (config : RouterConfig) : Prop where
  size : 1024 ≤ config.maxSegmentSize
  count : 1 ≤ config.maxSegmentCount
  custom : ∀ segment ∈ config.customSegment.getD [],
    1024 ≤ segment.2.maxSegmentSize ∧ 1 ≤ segment.2.maxSegmentCount

/-- A log is made of bounds that pass its checks. -/
theorem CommitLog.new_ok {T : Type} {maxSegmentSize maxMemSegments : Nat}
    (hSize : 1024 ≤ maxSegmentSize) (hCount : 1 ≤ maxMemSegments) :
    ∃ log : CommitLog T, CommitLog.new maxSegmentSize maxMemSegments = ok log := by
  rw [CommitLog.new, dif_neg (not_lt.mpr hSize), dif_neg (not_lt.mpr hCount)]
  exact ⟨_, rfl⟩

/-- The log of a filter is made of a configuration that passes its checks. -/
theorem Data.new_ok {config : RouterConfig} (hConfig : config.Valid) {filter : FilterName}
    (hFilter : Cuttable filter) :
    ∃ log : CommitLog PublishData, Data.new filter config = ok ⟨filter, log, []⟩ ∧
      log.Holds [] := by
  have hSizes : ∀ (segments : List (FilterName × SegmentConfig)) (sizes : Nat × Nat),
      (∀ segment ∈ segments, 1024 ≤ segment.2.maxSegmentSize ∧ 1 ≤ segment.2.maxSegmentCount) →
      1024 ≤ sizes.1 ∧ 1 ≤ sizes.2 →
      ∃ sizes' : Nat × Nat, segments.foldlM (fun sizes segment =>
          topicMatches filter segment.1 >>= fun isMatch =>
            (ok (if isMatch then (segment.2.maxSegmentSize, segment.2.maxSegmentCount)
              else sizes) : Exec Empty (Nat × Nat))) sizes = ok sizes' ∧
        1024 ≤ sizes'.1 ∧ 1 ≤ sizes'.2 := by
    intro segments
    induction segments with
    | nil => exact fun sizes _ hStart => ⟨sizes, rfl, hStart⟩
    | cons segment segments ih =>
        intro sizes hSegments hStart
        rw [List.foldlM_cons, topicMatches_eq hFilter, ok_bind, ok_bind]
        refine ih _ (fun other hOther => hSegments other (List.mem_cons_of_mem _ hOther)) ?_
        split_ifs
        · exact hSegments segment List.mem_cons_self
        · exact hStart
  obtain ⟨sizes, hFold, hSize, hCount⟩ :=
    hSizes (config.customSegment.getD []) (config.maxSegmentSize, config.maxSegmentCount)
      hConfig.custom ⟨hConfig.size, hConfig.count⟩
  obtain ⟨log, hLog⟩ := CommitLog.new_ok (T := PublishData) hSize hCount
  refine ⟨log, ?_, CommitLog.holds_new hLog⟩
  rw [Data.new, hFold, ok_bind, hLog, ok_bind]

namespace DataLog

/-- The filters that match are those that have the topic. -/
theorem matchingFilters_eq {topic : Topic} (h : Cuttable topic)
    (entries : List (FilterName × FilterIdx)) :
    matchingFilters topic entries =
      ok ((entries.filter fun entry => under topic entry.1).map Prod.snd) := by
  induction entries with
  | nil => rfl
  | cons entry entries ih =>
      obtain ⟨filter, filterIdx⟩ := entry
      rw [matchingFilters, topicMatches_eq h, ok_bind, ih, ok_bind, List.filter_cons]
      cases under topic filter <;> rfl

/-- A new filter joins the filters of the topics it has. -/
theorem joinTopics_eq {filter : FilterName} {filterIdx : FilterIdx}
    {topics : List (Topic × List FilterIdx)} (h : ∀ entry ∈ topics, Cuttable entry.1) :
    joinTopics filter filterIdx topics =
      ok (topics.map fun entry =>
        (entry.1, if under entry.1 filter then entry.2 ++ [filterIdx] else entry.2)) := by
  induction topics with
  | nil => rfl
  | cons entry topics ih =>
      obtain ⟨topic, filters⟩ := entry
      rw [joinTopics, topicMatches_eq (h _ List.mem_cons_self), ok_bind,
        ih fun other hOther => h other (List.mem_cons_of_mem _ hOther), ok_bind, List.map_cons]

/-- The retained messages that match are those whose topics the filter has. -/
theorem matchingRetained_eq {filter : FilterName} {retained : List (Topic × PublishData)}
    (h : ∀ entry ∈ retained, Cuttable entry.1) :
    matchingRetained filter retained =
      ok ((retained.filter fun entry => under entry.1 filter).map fun entry =>
        (entry.2.publish, entry.2.properties)) := by
  induction retained with
  | nil => rfl
  | cons entry retained ih =>
      obtain ⟨topic, pubdata⟩ := entry
      rw [matchingRetained, topicMatches_eq (h _ List.mem_cons_self), ok_bind,
        ih fun other hOther => h other (List.mem_cons_of_mem _ hOther), ok_bind, List.filter_cons]
      cases under topic filter <;> rfl

/-- The log is one of a filter the topic is under. -/
def Subscribed (datalog : DataLog) (topic : Topic) (idx : FilterIdx) : Prop :=
  ∃ filter, (filter, idx) ∈ datalog.filterIndexes ∧ under topic filter = true

/-- Each log holds its history, each filter has its log, and the remembered
filters of a topic are those it is under. -/
structure Sound (datalog : DataLog) (histories : FilterIdx → List PublishData) : Prop where
  config : datalog.config.Valid
  beyond : ∀ idx, datalog.native.length ≤ idx → histories idx = []
  holds : ∀ idx (data : Data), datalog.native[idx]? = some data → data.log.Holds (histories idx)
  keys : (datalog.filterIndexes.map Prod.fst).Nodup
  named : ∀ filter idx, (filter, idx) ∈ datalog.filterIndexes →
    ∃ data, datalog.native[idx]? = some data ∧ data.filter = filter
  cached : ∀ topic found, (topic, found) ∈ datalog.publishFilters →
    Cuttable topic ∧ found.Nodup ∧ ∀ idx, idx ∈ found ↔ datalog.Subscribed topic idx
  retained : ∀ entry ∈ datalog.retainedPublishes, Cuttable entry.1

/-- The requests that wait for messages of a filter. -/
def waitersAt (datalog : DataLog) (idx : FilterIdx) : List Waiter :=
  (datalog.native[idx]?.map Data.waiters).getD []

/-- All requests that wait, with their connections. -/
def allWaiters (datalog : DataLog) : List Waiter := datalog.native.flatMap Data.waiters

/-- All waiters are those of each log. -/
theorem allWaiters_eq (datalog : DataLog) :
    datalog.allWaiters = (List.range datalog.native.length).flatMap datalog.waitersAt := by
  have hNative : datalog.native.map Data.waiters =
      (List.range datalog.native.length).map datalog.waitersAt := by
    refine List.ext_getElem (by simp) fun idx hIdx _ => ?_
    rw [List.length_map] at hIdx
    rw [List.getElem_map, List.getElem_map, List.getElem_range, waitersAt,
      List.getElem?_eq_getElem hIdx]
    rfl
  rw [allWaiters, List.flatMap_def, hNative, ← List.flatMap_def]

/-- A waiter waits at some log. -/
theorem mem_allWaiters {datalog : DataLog} {waiter : Waiter} :
    waiter ∈ datalog.allWaiters ↔ ∃ idx, waiter ∈ datalog.waitersAt idx := by
  rw [allWaiters_eq, List.mem_flatMap]
  refine ⟨fun ⟨idx, _, hWaiter⟩ => ⟨idx, hWaiter⟩, fun ⟨idx, hWaiter⟩ => ⟨idx, ?_, hWaiter⟩⟩
  rw [List.mem_range]
  by_contra hOut
  rw [waitersAt, List.getElem?_eq_none (not_lt.mp hOut)] at hWaiter
  cases hWaiter

/-- The logs with an empty one for a new filter. -/
def withFilter (datalog : DataLog) (filter : FilterName) (log : CommitLog PublishData) : DataLog :=
  { datalog with
    native := datalog.native ++ [{ filter := filter, log := log, waiters := [] }]
    filterIndexes := insertKey datalog.filterIndexes filter datalog.native.length
    publishFilters := datalog.publishFilters.map fun entry =>
      (entry.1,
        if under entry.1 filter then entry.2 ++ [datalog.native.length] else entry.2) }

variable {datalog : DataLog} {histories : FilterIdx → List PublishData}

/-- A log with the new ones is an old log or the new one. -/
theorem withFilter_native {filter : FilterName} {log : CommitLog PublishData} {idx : FilterIdx}
    {data : Data} (h : (datalog.withFilter filter log).native[idx]? = some data) :
    datalog.native[idx]? = some data ∨
      idx = datalog.native.length ∧ data = { filter := filter, log := log, waiters := [] } := by
  change (datalog.native ++ [_])[idx]? = _ at h
  by_cases hOld : idx < datalog.native.length
  · rw [List.getElem?_append_left hOld] at h
    exact .inl h
  · rw [List.getElem?_append_right (not_lt.mp hOld), List.getElem?_singleton] at h
    split_ifs at h with hFirst
    cases h
    exact .inr ⟨le_antisymm (Nat.le_of_sub_eq_zero hFirst) (not_lt.mp hOld), rfl⟩

/-- A new log leaves the others in place. -/
theorem withFilter_native_old {filter : FilterName} {log : CommitLog PublishData} {idx : FilterIdx}
    {data : Data} (h : datalog.native[idx]? = some data) :
    (datalog.withFilter filter log).native[idx]? = some data :=
  (List.getElem?_append_left (List.getElem?_eq_some_iff.mp h).1).trans h

/-- At a new log nobody waits. -/
theorem allWaiters_withFilter (filter : FilterName) (log : CommitLog PublishData) :
    (datalog.withFilter filter log).allWaiters = datalog.allWaiters := by
  change (datalog.native ++ [_]).flatMap Data.waiters = _
  rw [List.flatMap_append]
  exact List.append_nil _

/-- At a new log nobody waits, and elsewhere the same. -/
theorem waitersAt_withFilter {filter : FilterName} {log : CommitLog PublishData} {idx : FilterIdx}
    {waiter : Waiter} (h : waiter ∈ (datalog.withFilter filter log).waitersAt idx) :
    waiter ∈ datalog.waitersAt idx := by
  rw [waitersAt] at h
  cases hNew : (datalog.withFilter filter log).native[idx]? with
  | none =>
      rw [hNew] at h
      cases h
  | some data =>
      rw [hNew] at h
      rcases withFilter_native hNew with hOld | ⟨_, rfl⟩
      · rw [waitersAt, hOld]
        exact h
      · cases h

namespace Sound

/-- An index belongs to one filter only. -/
theorem filter_eq (h : datalog.Sound histories) {first second : FilterName} {idx : FilterIdx}
    (hFirst : (first, idx) ∈ datalog.filterIndexes)
    (hSecond : (second, idx) ∈ datalog.filterIndexes) : first = second := by
  obtain ⟨data, hData, rfl⟩ := h.named _ _ hFirst
  obtain ⟨other, hOther, rfl⟩ := h.named _ _ hSecond
  rw [hData] at hOther
  cases hOther
  rfl

theorem lookup_iff (h : datalog.Sound histories) {filter : FilterName} {idx : FilterIdx} :
    datalog.filterIndexes.lookup filter = some idx ↔ (filter, idx) ∈ datalog.filterIndexes :=
  ⟨mem_of_lookup, lookup_of_mem h.keys⟩

/-- No two filters share an index. -/
theorem nodup_indexes (h : datalog.Sound histories) :
    (datalog.filterIndexes.map Prod.snd).Nodup := by
  refine (List.nodup_map_iff_inj_on (List.Nodup.of_map _ h.keys)).mpr ?_
  rintro ⟨first, idx⟩ hFirst ⟨second, other⟩ hSecond (rfl : idx = other)
  rw [h.filter_eq hFirst hSecond]

/-- A search finds the filters the topic is under, each once. -/
theorem matchesTopic (h : datalog.Sound histories) (order : IterationOrder) {topic : Topic}
    (hTopic : Cuttable topic) :
    ∃ datalog' found, datalog.matchesTopic order topic = ok (datalog', found) ∧
      found.Nodup ∧ (∀ idx, idx ∈ found ↔ datalog.Subscribed topic idx) ∧
      datalog'.Sound histories ∧ datalog'.native = datalog.native ∧
      datalog'.config = datalog.config ∧ datalog'.filterIndexes = datalog.filterIndexes ∧
      datalog'.retainedPublishes = datalog.retainedPublishes := by
  rw [DataLog.matchesTopic]
  cases hKnown : datalog.publishFilters.lookup topic with
  | some found =>
      obtain ⟨_, hNodup, hFound⟩ := h.cached _ _ (mem_of_lookup hKnown)
      exact ⟨datalog, found, rfl, hNodup, hFound, h, rfl, rfl, rfl, rfl⟩
  | none =>
      dsimp only
      rw [matchingFilters_eq hTopic, ok_bind]
      obtain ⟨found, hSearch⟩ : ∃ found, ((order.order datalog.filterIndexes).filter
          fun entry => under topic entry.1).map Prod.snd = found := ⟨_, rfl⟩
      rw [hSearch]
      have hPerm := order.perm datalog.filterIndexes
      have hNodup : found.Nodup := by
        rw [← hSearch]
        exact ((hPerm.map Prod.snd).nodup_iff.mpr h.nodup_indexes).sublist
          (List.filter_sublist.map _)
      have hFound : ∀ idx, idx ∈ found ↔ datalog.Subscribed topic idx := by
        intro idx
        rw [← hSearch, List.mem_map]
        constructor
        · rintro ⟨⟨filter, other⟩, hEntry, rfl⟩
          obtain ⟨hMem, hUnder⟩ := List.mem_filter.mp hEntry
          exact ⟨filter, hPerm.mem_iff.mp hMem, hUnder⟩
        · rintro ⟨filter, hMem, hUnder⟩
          exact ⟨(filter, idx), List.mem_filter.mpr ⟨hPerm.mem_iff.mpr hMem, hUnder⟩, rfl⟩
      split_ifs with hNone
      · exact ⟨datalog, found, rfl, hNodup, hFound, h, rfl, rfl, rfl, rfl⟩
      · refine ⟨_, found, rfl, hNodup, hFound, ?_, rfl, rfl, rfl, rfl⟩
        refine { h with cached := fun other found' hEntry => ?_ }
        rcases mem_insertKey.mp hEntry with ⟨hOld, _⟩ | hNew
        · exact h.cached _ _ hOld
        · cases hNew
          exact ⟨hTopic, hNodup, hFound⟩

/-- A new filter has an empty log, and joins the remembered topics under it. -/
theorem addData (h : datalog.Sound histories) {filter : FilterName}
    (hNew : datalog.filterIndexes.lookup filter = none) {log : CommitLog PublishData}
    (hLog : log.Holds []) : (datalog.withFilter filter log).Sound histories where
  config := h.config
  beyond idx hIdx := by
    rw [withFilter, List.length_append] at hIdx
    exact h.beyond idx (by omega)
  holds idx data hData := by
    rcases withFilter_native hData with hOld | ⟨rfl, rfl⟩
    · exact h.holds _ _ hOld
    · rw [h.beyond _ (le_refl _)]
      exact hLog
  keys := nodup_insertKey h.keys
  named other idx hEntry := by
    rcases mem_insertKey.mp hEntry with ⟨hOld, _⟩ | hSame
    · obtain ⟨data, hData, hFilter⟩ := h.named _ _ hOld
      exact ⟨data, withFilter_native_old hData, hFilter⟩
    · cases hSame
      exact ⟨_, List.getElem?_concat_length, rfl⟩
  cached topic found hEntry := by
    obtain ⟨⟨topic, found⟩, hOld, hSame⟩ := List.mem_map.mp hEntry
    cases hSame
    obtain ⟨hTopic, hNodup, hFound⟩ := h.cached _ _ hOld
    have hFresh : datalog.native.length ∉ found := by
      intro hMem
      obtain ⟨other, hOther, _⟩ := (hFound _).mp hMem
      obtain ⟨data, hData, _⟩ := h.named _ _ hOther
      exact absurd (List.getElem?_eq_some_iff.mp hData).1 (lt_irrefl _)
    have hSubscribed : ∀ idx, (datalog.withFilter filter log).Subscribed topic idx ↔
        datalog.Subscribed topic idx ∨ under topic filter = true ∧ idx = datalog.native.length := by
      intro idx
      rw [Subscribed, withFilter, insertKey_new hNew]
      simp only [List.mem_append, List.mem_singleton, Prod.mk.injEq, Subscribed]
      grind
    refine ⟨hTopic, ?_, fun idx => ?_⟩
    · split_ifs
      · exact List.nodup_append.mpr ⟨hNodup, List.nodup_singleton _, by
          rintro first hFirst second hSecond rfl
          exact hFresh (List.mem_singleton.mp hSecond ▸ hFirst)⟩
      · exact hNodup
    · refine Iff.trans ?_ (hSubscribed idx).symm
      rw [← hFound]
      split_ifs with hUnder <;> simp [hUnder]
  retained := h.retained

end Sound

/-- The cursor is a place in the log of a filter. -/
def Placed (datalog : DataLog) (histories : FilterIdx → List PublishData) (idx : FilterIdx)
    (cursor : Cursor) : Prop :=
  ∃ data, datalog.native[idx]? = some data ∧ data.log.Settled (histories idx) cursor

/-- A reader stands within the history of its log. -/
theorem Placed.le_length {idx : FilterIdx} {cursor : Cursor}
    (h : datalog.Placed histories idx cursor) : cursor.2 ≤ (histories idx).length := by
  obtain ⟨data, _, hSettled⟩ := h
  exact hSettled.stop.trans (CommitLog.startOf_le _ _ _)

/-- The filters and the places in their logs are still there. -/
structure Grows (datalog : DataLog) (histories : FilterIdx → List PublishData)
    (datalog' : DataLog) (histories' : FilterIdx → List PublishData) : Prop where
  config : datalog'.config = datalog.config
  filters : datalog.filterIndexes ⊆ datalog'.filterIndexes
  placed : ∀ idx cursor, datalog.Placed histories idx cursor → datalog'.Placed histories' idx cursor
  length : ∀ idx, (histories idx).length ≤ (histories' idx).length

namespace Grows

theorem refl (datalog : DataLog) (histories : FilterIdx → List PublishData) :
    datalog.Grows histories datalog histories :=
  ⟨rfl, List.Subset.refl _, fun _ _ h => h, fun _ => le_refl _⟩

theorem trans {first second third : DataLog}
    {histories histories' histories'' : FilterIdx → List PublishData}
    (h : first.Grows histories second histories') (h' : second.Grows histories' third histories'') :
    first.Grows histories third histories'' :=
  ⟨h'.config.trans h.config, fun _ hEntry => h'.filters (h.filters hEntry),
    fun idx cursor hPlaced => h'.placed idx cursor (h.placed idx cursor hPlaced),
    fun idx => (h.length idx).trans (h'.length idx)⟩

end Grows

/-- The log of a known filter is found. -/
theorem Sound.nextNativeOffset_known (h : datalog.Sound histories) {filter : FilterName}
    {idx : FilterIdx} (hKnown : datalog.filterIndexes.lookup filter = some idx) :
    ∃ data : Data, datalog.nextNativeOffset filter = ok (datalog, idx, data.log.nextOffset) ∧
      datalog.native[idx]? = some data := by
  obtain ⟨data, hData, _⟩ := h.named _ _ (mem_of_lookup hKnown)
  refine ⟨data, ?_, hData⟩
  rw [DataLog.nextNativeOffset, hKnown]
  dsimp only
  rw [index_eq_ok.mpr hData, ok_bind]

/-- A new filter gets a log. -/
theorem Sound.nextNativeOffset_new (h : datalog.Sound histories) {filter : FilterName}
    (hFilter : Cuttable filter) (hKnown : datalog.filterIndexes.lookup filter = none) :
    ∃ log : CommitLog PublishData, log.Holds [] ∧ datalog.nextNativeOffset filter =
      ok (datalog.withFilter filter log, datalog.native.length, log.nextOffset) := by
  obtain ⟨log, hNew, hLog⟩ := Data.new_ok h.config hFilter
  have hCuttable : ∀ entry ∈ datalog.publishFilters, Cuttable entry.1 :=
    fun entry hEntry => (h.cached _ _ hEntry).1
  refine ⟨log, hLog, ?_⟩
  rw [DataLog.nextNativeOffset, hKnown]
  dsimp only
  rw [hNew, ok_bind, joinTopics_eq hCuttable, ok_bind]
  rfl

/-- A new log leaves the histories of the others. -/
theorem withFilter_grows {filter : FilterName} {log : CommitLog PublishData}
    (hKnown : datalog.filterIndexes.lookup filter = none) :
    datalog.Grows histories (datalog.withFilter filter log) histories := by
  refine ⟨rfl, ?_, ?_, fun _ => le_refl _⟩
  · rw [withFilter, insertKey_new hKnown]
    exact List.subset_append_left _ _
  · rintro idx cursor ⟨data, hData, hSettled⟩
    exact ⟨data, withFilter_native_old hData, hSettled⟩

/-- A subscription starts at the end of the log of its filter. -/
theorem Sound.nextNativeOffset (h : datalog.Sound histories) {filter : FilterName}
    (hFilter : Cuttable filter) :
    ∃ (datalog' : DataLog) (idx : FilterIdx) (data : Data),
      datalog.nextNativeOffset filter = ok (datalog', idx, data.log.nextOffset) ∧
      datalog'.Sound histories ∧ datalog.Grows histories datalog' histories ∧
      (filter, idx) ∈ datalog'.filterIndexes ∧ datalog'.native[idx]? = some data ∧
      datalog'.allWaiters = datalog.allWaiters ∧
      (∀ other, ∀ waiter ∈ datalog'.waitersAt other, waiter ∈ datalog.waitersAt other) ∧
      datalog.native <+: datalog'.native := by
  cases hKnown : datalog.filterIndexes.lookup filter with
  | some idx =>
      obtain ⟨data, hNext, hData⟩ := h.nextNativeOffset_known hKnown
      exact ⟨datalog, idx, data, hNext, h, .refl _ _, mem_of_lookup hKnown, hData,
        rfl, fun _ _ hWaiter => hWaiter, List.prefix_refl _⟩
  | none =>
      obtain ⟨log, hLog, hNext⟩ := h.nextNativeOffset_new hFilter hKnown
      exact ⟨datalog.withFilter filter log, _, ⟨filter, log, []⟩, hNext, h.addData hKnown hLog,
        withFilter_grows hKnown, mem_insertKey.mpr (.inr rfl), List.getElem?_concat_length,
        allWaiters_withFilter _ _, fun _ _ hWaiter => waitersAt_withFilter hWaiter,
        List.prefix_append _ _⟩

/-- A new log belongs to its filter and is empty. -/
theorem Data.eq_of_new {config : RouterConfig} {filter : FilterName} {data : Data}
    (h : Data.new filter config = ok data) :
    data.filter = filter ∧ data.waiters = [] ∧ data.log.Holds [] := by
  obtain ⟨sizes, _, hRest⟩ := bind_eq_ok.mp h
  obtain ⟨log, hLog, hData⟩ := bind_eq_ok.mp hRest
  rw [ok.injEq] at hData
  subst hData
  exact ⟨rfl, rfl, CommitLog.holds_new hLog⟩

/-- The logs of the filters that exist from the start are empty. -/
structure Initial (datalog : DataLog) : Prop where
  sound : datalog.Sound fun _ => []
  fresh : datalog.publishFilters = []
  blank : datalog.retainedPublishes = []
  alone : ∀ idx, datalog.waitersAt idx = []

/-- A filter that is added at the start gets an empty log. -/
theorem Initial.addFilter (h : datalog.Initial) {filter : FilterName} {datalog' : DataLog}
    (hAdd : datalog.addFilter filter = ok datalog') :
    datalog'.Initial ∧ datalog'.config = datalog.config ∧
      ∀ other, (∃ idx, (other, idx) ∈ datalog'.filterIndexes) ↔
        (∃ idx, (other, idx) ∈ datalog.filterIndexes) ∨ other = filter := by
  obtain ⟨data, hNew, hResult⟩ := bind_eq_ok.mp hAdd
  rw [ok.injEq] at hResult
  subst hResult
  obtain ⟨hFilter, hWaiters, hHolds⟩ := Data.eq_of_new hNew
  have hNative : ∀ (idx : FilterIdx) (other : Data),
      (datalog.native ++ [data])[idx]? = some other →
      datalog.native[idx]? = some other ∨ other = data := by
    intro idx other hOther
    rw [List.getElem?_append] at hOther
    split_ifs at hOther with hOld
    · exact .inl hOther
    · exact .inr (List.mem_singleton.mp (List.mem_of_getElem? hOther))
  refine ⟨⟨⟨h.sound.config, fun _ _ => rfl, fun idx other hOther => ?_,
    nodup_insertKey h.sound.keys, fun other idx hEntry => ?_, ?_, h.sound.retained⟩, h.fresh,
    h.blank, fun idx => ?_⟩, rfl, fun other => ?_⟩
  · rcases hNative idx other hOther with hOld | rfl
    · exact h.sound.holds idx other hOld
    · exact hHolds
  · rcases mem_insertKey.mp hEntry with ⟨hOld, _⟩ | hSame
    · obtain ⟨old, hData, hName⟩ := h.sound.named other idx hOld
      exact ⟨old, (List.getElem?_append_left (List.getElem?_eq_some_iff.mp hData).1).trans hData,
        hName⟩
    · cases hSame
      exact ⟨data, List.getElem?_concat_length, hFilter⟩
  · intro topic found hEntry
    rw [h.fresh] at hEntry
    cases hEntry
  · rw [waitersAt]
    cases hData : (datalog.native ++ [data])[idx]? with
    | none => rfl
    | some other =>
        rcases hNative idx other hData with hOld | rfl
        · have hAlone := h.alone idx
          rw [waitersAt, hOld] at hAlone
          exact hAlone
        · exact hWaiters
  · constructor
    · rintro ⟨idx, hEntry⟩
      rcases mem_insertKey.mp hEntry with ⟨hOld, _⟩ | hSame
      · exact .inl ⟨idx, hOld⟩
      · exact .inr (congrArg Prod.fst hSame)
    · intro hKnown
      by_cases hSame : other = filter
      · exact ⟨_, mem_insertKey.mpr (.inr (by rw [hSame]))⟩
      · obtain ⟨idx, hOld⟩ := hKnown.resolve_right hSame
        exact ⟨idx, mem_insertKey.mpr (.inl ⟨hOld, hSame⟩)⟩

/-- At the start there are the filters of the configuration. -/
theorem initial_new {config : RouterConfig} (hConfig : config.Valid)
    (hNew : DataLog.new config = ok datalog) :
    datalog.Initial ∧ datalog.config = config ∧
      ∀ filter, (∃ idx, (filter, idx) ∈ datalog.filterIndexes) ↔
        filter ∈ config.initializedFilters.getD [] := by
  have hFold : ∀ (filters : List FilterName) (start : DataLog), start.Initial →
      filters.foldlM DataLog.addFilter start = ok datalog →
      datalog.Initial ∧ datalog.config = start.config ∧
        ∀ filter, (∃ idx, (filter, idx) ∈ datalog.filterIndexes) ↔
          (∃ idx, (filter, idx) ∈ start.filterIndexes) ∨ filter ∈ filters := by
    intro filters
    induction filters with
    | nil =>
        intro start hStart hRun
        rw [List.foldlM_nil, pure_eq, ok.injEq] at hRun
        subst hRun
        exact ⟨hStart, rfl, fun filter => by simp⟩
    | cons first filters ih =>
        intro start hStart hRun
        rw [List.foldlM_cons, bind_eq_ok] at hRun
        obtain ⟨next, hAdd, hRun⟩ := hRun
        obtain ⟨hNext, hSame, hKeys⟩ := hStart.addFilter hAdd
        obtain ⟨hEnd, hSame', hKeys'⟩ := ih next hNext hRun
        refine ⟨hEnd, hSame'.trans hSame, fun filter => ?_⟩
        rw [hKeys', hKeys, List.mem_cons, or_assoc]
  have hStart : Initial
      { config := config
        native := []
        filterIndexes := []
        retainedPublishes := []
        publishFilters := [] } :=
    ⟨⟨hConfig, fun _ _ => rfl, by simp, List.nodup_nil, by simp, by simp, by simp⟩, rfl, rfl,
      fun _ => rfl⟩
  obtain ⟨hInitial, hSame, hKeys⟩ := hFold _ _ hStart hNew
  exact ⟨hInitial, hSame, fun filter => by simpa using hKeys filter⟩

end DataLog

/-- The data of a filter behind one more message. -/
def Data.appended (data : Data) (item : PublishData) : Data :=
  { data with
    log := (data.log.append item).1
    waiters := [] }

/-- A message as it is kept in the logs. -/
def logged (publish : Publish) (properties : Option PublishProperties) (now : Instant) :
    PublishData where
  publish := { publish with retain := false }
  properties := properties
  timestamp := now

namespace DataLog

variable {datalog : DataLog} {histories : FilterIdx → List PublishData}

/-- The logs after a message for some filters, in which nobody waits any more. -/
structure Recorded (datalog datalog' : DataLog) (found : List FilterIdx) (item : PublishData) :
    Prop where
  config : datalog'.config = datalog.config
  filterIndexes : datalog'.filterIndexes = datalog.filterIndexes
  native : ∀ idx, datalog'.native[idx]? =
    datalog.native[idx]?.map fun data => if idx ∈ found then data.appended item else data

/-- The histories after the message. -/
def recordedIn (histories : FilterIdx → List PublishData) (found : List FilterIdx)
    (item : PublishData) (idx : FilterIdx) : List PublishData :=
  if idx ∈ found then histories idx ++ [item] else histories idx

/-- A message is appended to the log of each filter that has its topic. -/
theorem appendTo_eq (datalog : DataLog) (item : PublishData) {found : List FilterIdx}
    (notifications : List Waiter) (offset : Offset) (hNodup : found.Nodup)
    (hFound : ∀ idx ∈ found, idx < datalog.native.length) :
    ∃ native offset', appendTo item found datalog notifications offset =
        ok ({ datalog with native := native }, notifications ++ found.flatMap datalog.waitersAt,
          offset') ∧
      datalog.Recorded { datalog with native := native } found item := by
  induction found generalizing datalog notifications offset with
  | nil =>
      refine ⟨datalog.native, offset, by simp [appendTo], rfl, rfl, fun idx => ?_⟩
      simp
  | cons first found ih =>
      obtain ⟨hFresh, hNodup⟩ := List.nodup_cons.mp hNodup
      have hFirst := List.getElem?_eq_getElem (hFound first List.mem_cons_self)
      obtain ⟨data, hData⟩ : ∃ data, datalog.native[first]? = some data := ⟨_, hFirst⟩
      have hSet : ∀ idx, (datalog.native.set first (data.appended item))[idx]? =
          datalog.native[idx]?.map fun data =>
            if idx = first then data.appended item else data := by
        intro idx
        rw [List.getElem?_set]
        by_cases hSame : first = idx
        · subst hSame
          rw [if_pos rfl, if_pos (hFound first List.mem_cons_self), hData]
          simp
        · simp [hSame, Ne.symm hSame]
      have hWaiters : found.flatMap
            { datalog with native := datalog.native.set first (data.appended item) }.waitersAt =
          found.flatMap datalog.waitersAt := by
        refine List.flatMap_congr fun idx hIdx => ?_
        have hOther : idx ≠ first := fun hSame => hFresh (hSame ▸ hIdx)
        rw [waitersAt, waitersAt, hSet]
        simp [hOther]
      obtain ⟨native, offset', hAppend, hRecorded⟩ :=
        ih { datalog with native := datalog.native.set first (data.appended item) }
          (notifications ++ data.waiters) (data.log.append item).2 hNodup
          (fun idx hIdx => by
            rw [List.length_set]
            exact hFound idx (List.mem_cons_of_mem _ hIdx))
      refine ⟨native, offset', ?_, rfl, rfl, fun idx => ?_⟩
      · rw [appendTo, index_eq_ok.mpr hData, ok_bind, List.flatMap_cons, ← List.append_assoc,
          ← hWaiters]
        have hHere : datalog.waitersAt first = data.waiters := by rw [waitersAt, hData]; rfl
        rw [hHere]
        exact hAppend
      · refine (hRecorded.native idx).trans ?_
        change ((datalog.native.set first (data.appended item))[idx]?.map _) = _
        rw [hSet, Option.map_map]
        congr 1
        funext data
        by_cases hSame : idx = first
        · subst hSame
          simp [hFresh]
        · simp [hSame]

/-- A message that is recorded opens no log. -/
theorem Recorded.length {datalog' : DataLog} {found : List FilterIdx} {item : PublishData}
    (h : datalog.Recorded datalog' found item) :
    datalog'.native.length = datalog.native.length := by
  have hNone : ∀ idx, datalog'.native.length ≤ idx ↔ datalog.native.length ≤ idx := by
    intro idx
    rw [← List.getElem?_eq_none_iff, h.native, Option.map_eq_none_iff, List.getElem?_eq_none_iff]
  exact Nat.le_antisymm ((hNone _).mpr (Nat.le_refl _)) ((hNone _).mp (Nat.le_refl _))

/-- A message wakes those who wait at the logs it comes to. -/
theorem Recorded.waitersAt {datalog' : DataLog} {found : List FilterIdx} {item : PublishData}
    (h : datalog.Recorded datalog' found item) (idx : FilterIdx) :
    datalog'.waitersAt idx = if idx ∈ found then [] else datalog.waitersAt idx := by
  rw [DataLog.waitersAt, DataLog.waitersAt, h.native]
  cases datalog.native[idx]? with
  | none => simp
  | some data => by_cases hFound : idx ∈ found <;> simp [hFound, Data.appended]

/-- What waits no more is what waited for the filters. -/
theorem Recorded.allWaiters {datalog' : DataLog} {found : List FilterIdx} {item : PublishData}
    (h : datalog.Recorded datalog' found item) (hNodup : found.Nodup)
    (hFound : ∀ idx ∈ found, idx < datalog.native.length) :
    (found.flatMap datalog.waitersAt ++ datalog'.allWaiters).Perm datalog.allWaiters := by
  obtain ⟨others, hOthers⟩ : ∃ others,
      ((List.range datalog.native.length).filter fun idx => decide (idx ∉ found)) = others :=
    ⟨_, rfl⟩
  have hRange : (found ++ others).Perm (List.range datalog.native.length) := by
    have hMine : (found.Perm ((List.range datalog.native.length).filter fun idx =>
        decide (idx ∈ found))) := by
      refine (List.perm_ext_iff_of_nodup hNodup (List.nodup_range.filter _)).mpr fun idx => ?_
      rw [List.mem_filter, List.mem_range, decide_eq_true_eq]
      exact ⟨fun hMem => ⟨hFound idx hMem, hMem⟩, And.right⟩
    have hSplit := List.filter_append_perm (fun idx => decide (idx ∈ found))
      (List.range datalog.native.length)
    simp only [← decide_not] at hSplit
    rw [← hOthers]
    exact (hMine.append_right _).trans hSplit
  have hRest : datalog'.allWaiters.Perm (others.flatMap datalog.waitersAt) := by
    rw [allWaiters_eq, h.length]
    refine (hRange.symm.flatMap_right _).trans ?_
    rw [List.flatMap_append]
    have hNone : found.flatMap datalog'.waitersAt = [] := by
      rw [List.flatMap_eq_nil_iff]
      intro idx hIdx
      rw [h.waitersAt, if_pos hIdx]
    have hSame : others.flatMap datalog'.waitersAt = others.flatMap datalog.waitersAt := by
      refine List.flatMap_congr fun idx hIdx => ?_
      rw [← hOthers, List.mem_filter, decide_eq_true_eq] at hIdx
      rw [h.waitersAt, if_neg hIdx.2]
    rw [hNone, hSame, List.nil_append]
  rw [allWaiters_eq datalog]
  refine (hRest.append_left _).trans ?_
  rw [← List.flatMap_append]
  exact hRange.flatMap_right _

/-- The logs of the filters get the message, and the others stay as they are. -/
theorem Recorded.holds {datalog' : DataLog} {found : List FilterIdx} {item : PublishData}
    (h : datalog.Recorded datalog' found item)
    (hHolds : ∀ idx (data : Data), datalog.native[idx]? = some data →
      data.log.Holds (histories idx)) (idx : FilterIdx) (data : Data)
    (hData : datalog'.native[idx]? = some data) :
    data.log.Holds (recordedIn histories found item idx) := by
  rw [h.native, Option.map_eq_some_iff] at hData
  obtain ⟨old, hOld, rfl⟩ := hData
  rw [recordedIn]
  split_ifs
  · exact (hHolds idx old hOld).append item
  · exact hHolds idx old hOld

/-- A message that is recorded extends the histories it comes to. -/
theorem Recorded.grows {datalog' : DataLog} {found : List FilterIdx} {item : PublishData}
    (h : datalog.Recorded datalog' found item) (hSound : datalog.Sound histories) :
    datalog.Grows histories datalog' (recordedIn histories found item) := by
  refine ⟨h.config, h.filterIndexes ▸ List.Subset.refl _, ?_, fun idx => ?_⟩
  · rintro idx cursor ⟨data, hData, hSettled⟩
    refine ⟨_, (h.native idx).trans (congrArg _ hData), ?_⟩
    rw [recordedIn]
    split_ifs
    · exact hSettled.append (hSound.holds idx data hData) item
    · exact hSettled
  · rw [recordedIn]
    split_ifs
    · rw [List.length_append]
      exact Nat.le_add_right _ _
    · exact le_refl _

/-- A message that is recorded subscribes nobody. -/
theorem Recorded.subscribed_iff {datalog' : DataLog} {found : List FilterIdx} {item : PublishData}
    (h : datalog.Recorded datalog' found item) {topic : Topic} {idx : FilterIdx} :
    datalog'.Subscribed topic idx ↔ datalog.Subscribed topic idx := by
  rw [Subscribed, Subscribed, h.filterIndexes]

/-- A message is in the logs of the filters its topic is under, whether they
are found by a search or remembered, and what waits for it is notified. -/
theorem Sound.record (h : datalog.Sound histories) (order : IterationOrder)
    (notifications : List Waiter) (publish : Publish) (properties : Option PublishProperties)
    {topic : Topic} (hTopic : Cuttable topic) (now : Instant) :
    ∃ datalog' found offset,
      datalog.record order notifications publish properties topic now =
        ok (datalog', notifications ++ found.flatMap datalog.waitersAt, offset) ∧
      (∀ idx, idx ∈ found ↔ datalog.Subscribed topic idx) ∧
      datalog.Recorded datalog' found (logged publish properties now) ∧
      (found.flatMap datalog.waitersAt ++ datalog'.allWaiters).Perm datalog.allWaiters ∧
      datalog'.Sound (recordedIn histories found (logged publish properties now)) := by
  obtain ⟨kept, hKept⟩ : ∃ kept : DataLog, (if publish.payload = [] then
        datalog.removeFromRetainedPublishes topic
      else if publish.retain then datalog.insertToRetainedPublishes publish properties topic now
      else datalog) = kept := ⟨_, rfl⟩
  have hSound : kept.Sound histories := by
    rw [← hKept]
    split_ifs
    · exact { h with
        retained := fun entry hEntry => h.retained entry (List.mem_of_mem_filter hEntry) }
    · refine { h with retained := fun entry hEntry => ?_ }
      rcases mem_insertKey.mp hEntry with ⟨hOld, _⟩ | rfl
      · exact h.retained entry hOld
      · exact hTopic
    · exact h
  have hNative : kept.native = datalog.native := by
    rw [← hKept]
    split_ifs <;> rfl
  have hConfig : kept.config = datalog.config := by
    rw [← hKept]
    split_ifs <;> rfl
  have hIndexes : kept.filterIndexes = datalog.filterIndexes := by
    rw [← hKept]
    split_ifs <;> rfl
  obtain ⟨searched, found, hSearch, hNodup, hFound, hSearched, hSame, hConfig', hIndexes', _⟩ :=
    hSound.matchesTopic order hTopic
  have hSubscribed : ∀ idx, idx ∈ found ↔ datalog.Subscribed topic idx := by
    intro idx
    rw [hFound, Subscribed, Subscribed, hIndexes]
  have hBound : ∀ idx ∈ found, idx < searched.native.length := by
    intro idx hIdx
    obtain ⟨filter, hEntry, _⟩ := (hSubscribed idx).mp hIdx
    obtain ⟨data, hData, _⟩ := h.named _ _ hEntry
    rw [hSame, hNative]
    exact (List.getElem?_eq_some_iff.mp hData).1
  obtain ⟨native, offset, hAppend, hRecorded⟩ :=
    appendTo_eq searched (logged publish properties now) notifications (0, 0) hNodup hBound
  have hWaiters : searched.waitersAt = datalog.waitersAt := by
    funext idx
    rw [waitersAt, waitersAt, hSame, hNative]
  have hResult : datalog.Recorded { searched with native := native } found
      (logged publish properties now) := by
    refine ⟨hConfig'.trans hConfig, hIndexes'.trans hIndexes, fun idx => ?_⟩
    rw [hRecorded.native, hSame, hNative]
  have hBound' : ∀ idx ∈ found, idx < datalog.native.length := by
    rw [hSame, hNative] at hBound
    exact hBound
  refine ⟨{ searched with native := native }, found, offset, ?_, hSubscribed, hResult,
    hResult.allWaiters hNodup hBound', ?_⟩
  · rw [DataLog.record, hKept, hSearch, ok_bind, ← hWaiters]
    exact hAppend
  · have hLength := hRecorded.length
    refine ⟨hSearched.config, fun idx hIdx => ?_, hRecorded.holds hSearched.holds, hSearched.keys,
      fun filter idx hEntry => ?_, fun topic' found' hEntry => ?_, hSearched.retained⟩
    · have hOut : searched.native.length ≤ idx := hLength ▸ hIdx
      have hNot : idx ∉ found := fun hMem => absurd (hBound idx hMem) (Nat.not_lt.mpr hOut)
      rw [recordedIn, if_neg hNot]
      exact hSearched.beyond idx hOut
    · obtain ⟨data, hData, hFilter⟩ := hSearched.named _ _ hEntry
      refine ⟨_, (hRecorded.native idx).trans (congrArg _ hData), ?_⟩
      split_ifs
      · exact hFilter
      · exact hFilter
    · obtain ⟨hTopic', hNodup', hFound'⟩ := hSearched.cached _ _ hEntry
      exact ⟨hTopic', hNodup', fun idx => (hFound' idx).trans hRecorded.subscribed_iff.symm⟩

end DataLog
end SnapEmu.Broker
