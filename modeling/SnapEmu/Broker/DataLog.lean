import SnapEmu.Broker.Outgoing
import SnapEmu.Broker.Reading
import Mathlib.Data.List.Perm.Basic

/-! The logs of all filters, and the connections that wait for new messages of
a filter. -/
namespace SnapEmu.Broker

open Mqtt (Str)
open Semantics Exec

/-- What a connection wants from the log of a filter. -/
structure DataRequest where
  filter : FilterName
  filterIdx : FilterIdx
  qos : Nat
  cursor : Cursor
  readCount : Nat
  forwardRetained : Bool
  group : Option Str
  deriving DecidableEq

structure SegmentConfig where
  maxSegmentSize : Nat
  maxSegmentCount : Nat
  deriving DecidableEq

inductive Strategy where
  | RoundRobin | Random | Sticky
  deriving DecidableEq

structure RouterConfig where
  maxConnections : Nat
  maxOutgoingPacketCount : Nat
  maxSegmentSize : Nat
  maxSegmentCount : Nat
  customSegment : Option (List (FilterName × SegmentConfig))
  initializedFilters : Option (List FilterName)
  sharedSubscriptionsStrategy : Strategy
  deriving DecidableEq

/-- The matching of topics and filters, which reports no errors. -/
def topicMatches {ε : Type} (topic filter : Str) : Exec ε Bool :=
  match Mqtt.topicMatches topic filter with
  | ok result => ok result
  | _ => panic

/-- The order in which a hash map is gone through. -/
structure IterationOrder where
  order : ∀ {α : Type}, List α → List α
  perm : ∀ {α : Type} (items : List α), (order items).Perm items

/-- A request that waits, with its connection. -/
abbrev Waiter := ConnectionId × DataRequest

namespace Waiters

/-- The last item takes the place of the one that is removed. -/
def swapRemoveBack {α : Type} (items : List α) (position : Nat) : List α :=
  match items.getLast? with
  | none => items
  | some last => (items.set position last).dropLast

/-- The loop that takes the requests of a connection out, one in each round. -/
def removeLoop (id : ConnectionId) : Nat → List Waiter → List DataRequest × List Waiter
  | 0, current => ([], current)
  | rounds + 1, current =>
      match current.findIdx? (·.1 = id) with
      | none => ([], current)
      | some position =>
          let (requests, rest) := removeLoop id rounds (swapRemoveBack current position)
          ((current[position]?.map Prod.snd).toList ++ requests, rest)

def remove (current : List Waiter) (id : ConnectionId) : List DataRequest × List Waiter :=
  removeLoop id current.length current

/-- `swap_remove_back` takes one item and keeps the others. -/
theorem perm_swapRemoveBack {α : Type} {items : List α} {position : Nat}
    (h : position < items.length) :
    (items[position] :: swapRemoveBack items position).Perm items := by
  obtain ⟨front, last, hItems⟩ : ∃ front last, items = front ++ [last] :=
    ⟨_, _, (List.dropLast_append_getLast (List.ne_nil_of_length_pos (by omega))).symm⟩
  subst hItems
  have hSwap : swapRemoveBack (front ++ [last]) position =
      ((front ++ [last]).set position last).dropLast := by
    simp [swapRemoveBack]
  rw [hSwap]
  by_cases hFront : position < front.length
  · rw [List.set_append_left _ _ hFront, List.dropLast_concat, List.getElem_append_left hFront]
    have hSet := (List.set_perm_cons_eraseIdx hFront last).cons front[position]
    have hErase := (List.getElem_cons_eraseIdx_perm hFront).cons last
    exact (hSet.trans (.swap _ _ _)).trans (hErase.trans (List.perm_append_singleton _ _).symm)
  · have hLast : position = front.length := by
      rw [List.length_append, List.length_singleton] at h
      omega
    subst hLast
    rw [List.set_append_right _ _ (le_refl _), Nat.sub_self]
    simpa using (List.perm_append_singleton last front).symm

/-- The loop takes all waiters of a connection, and no other. -/
theorem removeLoop_spec (id : ConnectionId) {rounds : Nat} {current : List Waiter}
    (hRounds : current.length ≤ rounds) :
    (removeLoop id rounds current).1.Perm ((current.filter (·.1 = id)).map Prod.snd) ∧
      (removeLoop id rounds current).2.Perm (current.filter (·.1 ≠ id)) := by
  induction rounds generalizing current with
  | zero =>
      have hNil := List.length_eq_zero_iff.mp (Nat.le_zero.mp hRounds)
      subst hNil
      exact ⟨.refl _, .refl _⟩
  | succ rounds ih =>
      rw [removeLoop]
      split
      · rename_i hNone
        have hOther : ∀ waiter ∈ current, waiter.1 ≠ id := by
          simpa using List.findIdx?_eq_none_iff.mp hNone
        have hNobody : current.filter (·.1 = id) = [] := by
          simpa using hOther
        have hAll : current.filter (·.1 ≠ id) = current := by
          simpa using hOther
        rw [hNobody, hAll]
        exact ⟨.refl _, .refl _⟩
      · rename_i position hFound
        obtain ⟨hPosition, hId, _⟩ := List.findIdx?_eq_some_iff_getElem.mp hFound
        have hPerm := perm_swapRemoveBack hPosition
        have hLength := hPerm.length_eq
        rw [List.length_cons] at hLength
        have hShort : (swapRemoveBack current position).length ≤ rounds := by omega
        obtain ⟨hRequests, hRest⟩ := ih hShort
        have hMine : current[position].1 = id := by simpa using hId
        have hFilter := hPerm.filter (·.1 = id)
        have hOthers := hPerm.filter (·.1 ≠ id)
        rw [List.filter_cons_of_pos (by simpa using hMine)] at hFilter
        rw [List.filter_cons_of_neg (by simpa using hMine)] at hOthers
        dsimp only
        rw [List.getElem?_eq_getElem hPosition]
        exact ⟨(hRequests.cons _).trans (hFilter.map Prod.snd), hRest.trans hOthers⟩

/-- All requests of the connection are taken out, and no others. -/
theorem remove_spec (current : List Waiter) (id : ConnectionId) :
    (remove current id).1.Perm ((current.filter (·.1 = id)).map Prod.snd) ∧
      (remove current id).2.Perm (current.filter (·.1 ≠ id)) :=
  removeLoop_spec id (le_refl _)

end Waiters

structure Data where
  filter : FilterName
  log : CommitLog PublishData
  waiters : List Waiter
  deriving DecidableEq

namespace Data

def new (filter : FilterName) (config : RouterConfig) : Exec Empty Data :=
  ((config.customSegment.getD []).foldlM (fun sizes segment =>
      topicMatches filter segment.1 >>= fun isMatch =>
        ok (if isMatch then (segment.2.maxSegmentSize, segment.2.maxSegmentCount) else sizes))
    (config.maxSegmentSize, config.maxSegmentCount)) >>= fun sizes =>
  CommitLog.new sizes.1 sizes.2 >>= fun log =>
    ok { filter := filter, log := log, waiters := [] }

/-- The log with the message, and all waiters among the notifications. -/
def append (data : Data) (item : PublishData) (notifications : List Waiter) :
    Data × List Waiter × Offset :=
  let (log, offset) := data.log.append item
  ({ data with log := log, waiters := [] }, notifications ++ data.waiters, offset)

end Data

structure DataLog where
  config : RouterConfig
  native : List Data
  filterIndexes : List (FilterName × FilterIdx)
  retainedPublishes : List (Topic × PublishData)
  publishFilters : List (Topic × List FilterIdx)
  deriving DecidableEq

/-- `HashMap::insert`. -/
def insertKey {α β : Type} [DecidableEq α] (map : List (α × β)) (key : α) (value : β) :
    List (α × β) :=
  map.filter (·.1 ≠ key) ++ [(key, value)]

namespace DataLog

/-- One of the filters that exist from the start. -/
def addFilter (datalog : DataLog) (filter : FilterName) : Exec Empty DataLog :=
  Data.new filter datalog.config >>= fun data =>
    ok { datalog with
      native := datalog.native ++ [data]
      filterIndexes := insertKey datalog.filterIndexes filter datalog.native.length }

def new (config : RouterConfig) : Exec Empty DataLog :=
  (config.initializedFilters.getD []).foldlM addFilter
    { config := config
      native := []
      filterIndexes := []
      retainedPublishes := []
      publishFilters := [] }

/-- The indexes of the filters that match a topic. -/
def matchingFilters (topic : Topic) :
    List (FilterName × FilterIdx) → Exec Empty (List FilterIdx)
  | [] => ok []
  | (filter, filterIdx) :: rest =>
      topicMatches topic filter >>= fun isMatch =>
        matchingFilters topic rest >>= fun found =>
          ok (if isMatch then filterIdx :: found else found)

/-- The matching filters of a topic, remembered if there are any. -/
def matchesTopic (order : IterationOrder) (datalog : DataLog) (topic : Topic) :
    Exec Empty (DataLog × List FilterIdx) :=
  match datalog.publishFilters.lookup topic with
  | some found => ok (datalog, found)
  | none =>
      matchingFilters topic (order.order datalog.filterIndexes) >>= fun found =>
        ok (if found = [] then datalog
          else { datalog with publishFilters := insertKey datalog.publishFilters topic found },
        found)

/-- A new filter joins the remembered topics it matches. -/
def joinTopics (filter : FilterName) (filterIdx : FilterIdx) :
    List (Topic × List FilterIdx) → Exec Empty (List (Topic × List FilterIdx))
  | [] => ok []
  | (topic, filters) :: rest =>
      topicMatches topic filter >>= fun isMatch =>
        joinTopics filter filterIdx rest >>= fun topics =>
          ok ((topic, if isMatch then filters ++ [filterIdx] else filters) :: topics)

/-- The log of a filter, which is new if need be, and the end of it. -/
def nextNativeOffset (datalog : DataLog) (filter : FilterName) :
    Exec Empty (DataLog × FilterIdx × Offset) :=
  match datalog.filterIndexes.lookup filter with
  | some filterIdx =>
      index datalog.native filterIdx >>= fun data => ok (datalog, filterIdx, data.log.nextOffset)
  | none =>
      Data.new filter datalog.config >>= fun data =>
        joinTopics filter datalog.native.length datalog.publishFilters >>= fun publishFilters =>
          ok ({ datalog with
              native := datalog.native ++ [data]
              filterIndexes := insertKey datalog.filterIndexes filter datalog.native.length
              publishFilters := publishFilters },
            datalog.native.length, data.log.nextOffset)

/-- `(now - timestamp).as_secs() as u32`. -/
def secondsSpent (now timestamp : Instant) : UInt32 := UInt32.ofNat ((now - timestamp) / 1000000000)

/-- The message with what is left of its expiry interval, unless it is expired. -/
def unexpired (now : Instant) (pubdata : PublishData) : Option PublishData :=
  match pubdata.properties with
  | none => some pubdata
  | some properties =>
      match properties.messageExpiryInterval with
      | none => some pubdata
      | some interval =>
          let timeSpent := secondsSpent now pubdata.timestamp
          if timeSpent < interval then
            some
              { pubdata with
                properties := some
                  { properties with messageExpiryInterval := some (interval - timeSpent) } }
          else none

def nativeReadv (datalog : DataLog) (filterIdx : FilterIdx) (offset : Offset) (len : Nat)
    (now : Instant) : Exec Empty (Position × List (PubWithProp × Offset)) :=
  index datalog.native filterIdx >>= fun data =>
    data.log.readv offset len >>= fun result =>
      ok (result.1, result.2.filterMap fun entry =>
        (unexpired now entry.1).map fun pubdata =>
          ((pubdata.publish, pubdata.properties), entry.2))

/-- A message is appended to the logs of some filters. -/
def appendTo (item : PublishData) :
    List FilterIdx → DataLog → List Waiter → Offset → Exec Empty (DataLog × List Waiter × Offset)
  | [], datalog, notifications, offset => ok (datalog, notifications, offset)
  | filterIdx :: rest, datalog, notifications, _ =>
      index datalog.native filterIdx >>= fun data =>
        let (data, notifications, offset) := data.append item notifications
        appendTo item rest { datalog with native := datalog.native.set filterIdx data }
          notifications offset

def shadow (datalog : DataLog) (filter : FilterName) : Option PubWithProp := do
  let filterIdx ← datalog.filterIndexes.lookup filter
  let data ← datalog.native[filterIdx]?
  let pubdata ← data.log.last
  some (pubdata.publish, pubdata.properties)

/-- Change the data of a filter; there must be one. -/
def modifyData (datalog : DataLog) (filterIdx : FilterIdx) (change : Data → Data) :
    Exec Empty DataLog :=
  if filterIdx < datalog.native.length then
    ok { datalog with native := datalog.native.modify filterIdx change }
  else panic

def park (datalog : DataLog) (id : ConnectionId) (request : DataRequest) : Exec Empty DataLog :=
  datalog.modifyData request.filterIdx fun data =>
    { data with waiters := data.waiters ++ [(id, request)] }

/-- The requests of a connection, which waits no more. -/
def clean (datalog : DataLog) (id : ConnectionId) : DataLog × List DataRequest :=
  ({ datalog with
      native := datalog.native.map fun data =>
        { data with waiters := (Waiters.remove data.waiters id).2 } },
    datalog.native.flatMap fun data => (Waiters.remove data.waiters id).1)

def removeWaitersForId (datalog : DataLog) (id : ConnectionId) (filter : FilterName) :
    Exec Empty DataLog :=
  match datalog.filterIndexes.lookup filter with
  | none => ok datalog
  | some filterIdx =>
      datalog.modifyData filterIdx fun data =>
        match data.waiters.findIdx? (·.1 = id) with
        | none => data
        | some position => { data with waiters := Waiters.swapRemoveBack data.waiters position }

def insertToRetainedPublishes (datalog : DataLog) (publish : Publish)
    (properties : Option PublishProperties) (topic : Topic) (now : Instant) : DataLog :=
  { datalog with
    retainedPublishes := insertKey datalog.retainedPublishes topic
      { publish := publish, properties := properties, timestamp := now } }

def removeFromRetainedPublishes (datalog : DataLog) (topic : Topic) : DataLog :=
  { datalog with retainedPublishes := datalog.retainedPublishes.filter (·.1 ≠ topic) }

/-- The retained messages under a filter. -/
def matchingRetained (filter : FilterName) :
    List (Topic × PublishData) → Exec Empty (List PubWithProp)
  | [] => ok []
  | (topic, pubdata) :: rest =>
      topicMatches topic filter >>= fun isMatch =>
        matchingRetained filter rest >>= fun found =>
          ok (if isMatch then (pubdata.publish, pubdata.properties) :: found else found)

/-- Expired messages go; the others are kept with what is left of their expiry
interval. -/
def readRetainedMessages (order : IterationOrder) (datalog : DataLog) (filter : FilterName)
    (now : Instant) : Exec Empty (DataLog × List PubWithProp) :=
  let retained := datalog.retainedPublishes.filterMap fun entry =>
    (unexpired now entry.2).map fun pubdata => (entry.1, pubdata)
  matchingRetained filter (order.order retained) >>= fun found =>
    ok ({ datalog with retainedPublishes := retained }, found)

/-- What is done with a message under its topic: it is retained, if it says so,
and appended to the logs of the filters that match. -/
def record (order : IterationOrder) (datalog : DataLog) (notifications : List Waiter)
    (publish : Publish) (properties : Option PublishProperties) (topic : Topic) (now : Instant) :
    Exec Empty (DataLog × List Waiter × Offset) :=
  let datalog :=
    if publish.payload = [] then datalog.removeFromRetainedPublishes topic
    else if publish.retain then datalog.insertToRetainedPublishes publish properties topic now
    else datalog
  datalog.matchesTopic order topic >>= fun result =>
    appendTo
      { publish := { publish with retain := false }, properties := properties, timestamp := now }
      result.2 result.1 notifications (0, 0)

end DataLog
end SnapEmu.Broker
