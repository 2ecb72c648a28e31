import SnapEmu.Broker.Packets
import SnapEmu.Semantics.Chunks
import SnapEmu.Semantics.Exec
import SnapEmu.Semantics.Run

/-! The log of a filter: segments in memory, the last one active. A full active
segment is followed by a new one, and the oldest goes when there are too many. -/
namespace SnapEmu.Broker

open Semantics Exec

/-- A segment index and an absolute offset. -/
abbrev Offset := Nat × Nat

/-- Where a reader is. -/
abbrev Cursor := Nat × Nat

inductive Position where
  | next (start stop : Cursor)
  | done (start stop : Cursor)
  deriving DecidableEq

/-- The cursor to go on with. -/
def Position.stop : Position → Cursor
  | .next _ stop => stop
  | .done _ stop => stop

def Position.caughtUp : Position → Bool
  | .next _ _ => false
  | .done _ _ => true

class Storage (T : Type) where
  size : T → Nat

instance instStoragePublishData : Storage PublishData where
  size := PublishData.size

inductive SegmentPosition where
  | next (offset : Nat)
  | done (offset : Nat)
  deriving DecidableEq

structure Segment (T : Type) where
  data : List T
  totalSize : Nat
  absoluteOffset : Nat
  deriving DecidableEq

variable {T : Type}

namespace Segment

def withOffset (absoluteOffset : Nat) : Segment T where
  data := []
  absoluteOffset := absoluteOffset
  totalSize := 0

def new : Segment T where
  data := []
  absoluteOffset := 0
  totalSize := 0

def len (segment : Segment T) : Nat := segment.data.length

def nextOffset (segment : Segment T) : Nat := segment.absoluteOffset + segment.len

def push [Storage T] (segment : Segment T) (innerType : T) : Segment T :=
  { segment with
    totalSize := segment.totalSize + Storage.size innerType
    data := segment.data ++ [innerType] }

def last (segment : Segment T) : Option T := segment.data.getLast?

/-- The position behind what is read, and what is read. -/
def readv (segment : Segment T) (cursor : Cursor) (len : Nat) :
    Exec Empty (SegmentPosition × List (T × Offset)) :=
  if cursor.2 < segment.absoluteOffset then panic
  else
    let idx := cursor.2 - segment.absoluteOffset
    if segment.len ≤ idx then ok (.done segment.nextOffset, [])
    else
      let limit := min (idx + len) segment.len
      let offsets := (List.range' cursor.2 limit).map fun offset => (cursor.1, offset)
      slice segment.data idx limit >>= fun data =>
        ok (if segment.len ≤ idx + len then .done segment.nextOffset
          else .next (segment.absoluteOffset + (idx + len)), data.zip offsets)

end Segment

/-- The bounds are the ones `new` asks for, and there is an active segment. -/
@[ext] structure CommitLog (T : Type) where
  head : Nat
  tail : Nat
  maxSegmentSize : Nat
  maxMemSegments : Nat
  segments : List (Segment T)
  hSegmentSize : 1024 ≤ maxSegmentSize
  hMemSegments : 1 ≤ maxMemSegments
  hActive : segments ≠ []
  deriving DecidableEq

namespace CommitLog

def new (maxSegmentSize maxMemSegments : Nat) : Exec Empty (CommitLog T) :=
  if hSize : maxSegmentSize < 1024 then panic
  else if hCount : maxMemSegments < 1 then panic
  else ok
    { head := 0
      tail := 0
      maxSegmentSize := maxSegmentSize
      maxMemSegments := maxMemSegments
      segments := [.new]
      hSegmentSize := not_lt.mp hSize
      hMemSegments := not_lt.mp hCount
      hActive := List.cons_ne_nil _ _ }

/-- A new log has the bounds it is made with. -/
theorem new_bounds {maxSegmentSize maxMemSegments : Nat} {log : CommitLog T}
    (h : new maxSegmentSize maxMemSegments = ok log) :
    log.maxSegmentSize = maxSegmentSize ∧ log.maxMemSegments = maxMemSegments := by
  unfold new at h
  split_ifs at h
  cases h
  exact ⟨rfl, rfl⟩

def activeSegment (log : CommitLog T) : Segment T := log.segments.getLast log.hActive

def nextOffset (log : CommitLog T) : Offset := (log.tail, log.activeSegment.nextOffset)

def memorySegmentsCount (log : CommitLog T) : Nat := log.segments.length

def last (log : CommitLog T) : Option T := log.activeSegment.last

/-- The oldest segment goes, or none. -/
def popFront (log : CommitLog T) : Nat × List (Segment T) :=
  if log.maxMemSegments ≤ log.memorySegmentsCount then (log.head + 1, log.segments.tail)
  else (log.head, log.segments)

def applyRetention (log : CommitLog T) : CommitLog T :=
  if log.maxSegmentSize ≤ log.activeSegment.totalSize then
    { log with
      head := log.popFront.1
      tail := log.tail + 1
      segments := log.popFront.2 ++ [.withOffset log.activeSegment.nextOffset]
      hActive := List.append_ne_nil_of_right_ne_nil _ (List.cons_ne_nil _ _) }
  else log

/-- `active_segment.push(message)`. -/
def pushActive [Storage T] (log : CommitLog T) (message : T) : CommitLog T :=
  { log with
    segments := log.segments.dropLast ++ [log.activeSegment.push message]
    hActive := List.append_ne_nil_of_right_ne_nil _ (List.cons_ne_nil _ _) }

/-- Each message that is appended extends the history that the log holds. -/
def append [Storage T] (log : CommitLog T) (message : T) : CommitLog T × Offset :=
  let log := log.applyRetention.pushActive message
  (log, (log.tail, log.activeSegment.nextOffset))

/-- The loop over the segments before the active one, of which `remaining` are
left, and the read from the active one. -/
def readSegments (log : CommitLog T) (start : Cursor) :
    Nat → Nat → Cursor → Nat → List (T × Offset) → Exec Empty (Position × List (T × Offset))
  | 0, idx, cursor, len, out =>
      index log.segments idx >>= fun currSegment =>
        if currSegment.nextOffset ≤ cursor.2 then ok (.done start cursor, out)
        else currSegment.readv cursor len >>= fun
          | (.next offset, read) => ok (.next start (cursor.1, offset), out ++ read)
          | (.done offset, read) => ok (.done start (cursor.1, offset), out ++ read)
  | remaining + 1, idx, cursor, len, out =>
      index log.segments idx >>= fun currSegment =>
        currSegment.readv cursor len >>= fun
          | (.next offset, read) => ok (.next start (cursor.1, offset), out ++ read)
          | (.done nextOffset, read) =>
              (if cursor.2 ≤ nextOffset then
                if len < nextOffset - cursor.2 then panic else ok (len - (nextOffset - cursor.2))
              else ok len) >>= fun len =>
                if len = 0 then ok (.next start (cursor.1 + 1, nextOffset), out ++ read)
                else readSegments log start remaining (idx + 1) (cursor.1 + 1, nextOffset) len
                  (out ++ read)

def readv (log : CommitLog T) (start : Cursor) (len : Nat) :
    Exec Empty (Position × List (T × Offset)) :=
  if log.tail < start.1 then ok (.done start start, [])
  else
    (if start.1 < log.head then
      index log.segments 0 >>= fun front => ok (log.head, front.absoluteOffset)
    else ok start) >>= fun cursor =>
      index log.segments (cursor.1 - log.head) >>= fun currSegment =>
        let cursor := (cursor.1, max cursor.2 currSegment.absoluteOffset)
        log.readSegments cursor (log.tail - cursor.1) (cursor.1 - log.head) cursor len []

end CommitLog

/-- A message that fills a segment of the least size. -/
def largeMessage (byte : UInt8) : PublishData := .plain [47] (List.replicate 1024 byte)

theorem size_largeMessage (byte : UInt8) : Storage.size (largeMessage byte) = 1029 := by
  change 4 + 1 + (List.replicate 1024 byte).length = 1029
  rw [List.length_replicate]

section Refinement

open Chunks

variable [Storage T]

/-- Segments for consecutive chunks, the first one at the given offset. -/
def layout : Nat → List (List T) → List (Segment T)
  | _, [] => []
  | offset, chunk :: chunks =>
      { data := chunk, totalSize := total Storage.size chunk, absoluteOffset := offset } ::
        layout (offset + chunk.length) chunks

/-- Each large message has a segment of its own. -/
theorem divide_large (first second third : UInt8) :
    divide Storage.size 1024 [largeMessage first, largeMessage second, largeMessage third] =
      ⟨[[largeMessage first], [largeMessage second]], [largeMessage third]⟩ := by
  simp [divide, Division.push, size_largeMessage]

@[simp] theorem layout_nil (offset : Nat) : layout offset ([] : List (List T)) = [] := rfl

@[simp] theorem layout_length (offset : Nat) (chunks : List (List T)) :
    (layout offset chunks).length = chunks.length := by
  induction chunks generalizing offset with
  | nil => rfl
  | cons chunk chunks ih => simp [layout, ih]

/-- Segments that follow others begin where those end. -/
theorem layout_append (offset : Nat) (first second : List (List T)) :
    layout offset (first ++ second) =
      layout offset first ++ layout (offset + first.flatten.length) second := by
  induction first generalizing offset with
  | nil => rfl
  | cons chunk first ih =>
      rw [List.cons_append, layout, layout, ih, List.cons_append, List.flatten_cons,
        List.length_append, Nat.add_assoc]

/-- Segments that are left keep their offsets. -/
theorem layout_drop (offset count : Nat) (chunks : List (List T)) :
    (layout offset chunks).drop count =
      layout (offset + (chunks.take count).flatten.length) (chunks.drop count) := by
  by_cases hCount : count ≤ chunks.length
  · have hSplit := layout_append offset (chunks.take count) (chunks.drop count)
    rw [List.take_append_drop] at hSplit
    rw [hSplit, List.drop_left']
    rw [layout_length, List.length_take, Nat.min_eq_left hCount]
  · have hAll : chunks.length ≤ count := by omega
    rw [List.drop_eq_nil_of_le hAll, List.drop_eq_nil_of_le (by rw [layout_length]; exact hAll),
      layout_nil]

/-- Neighbouring segments are contiguous. -/
theorem isChain_layout (offset : Nat) (chunks : List (List T)) :
    List.IsChain (fun first second => first.nextOffset = second.absoluteOffset)
      (layout offset chunks) := by
  induction chunks generalizing offset with
  | nil => exact .nil
  | cons chunk chunks ih =>
      cases chunks with
      | nil => exact .singleton _
      | cons other chunks => exact List.isChain_cons_cons.mpr ⟨rfl, ih (offset + chunk.length)⟩

namespace CommitLog

/-- The stream of all messages, cut at the segment size. -/
def division (log : CommitLog T) (history : List T) : Division T :=
  divide Storage.size log.maxSegmentSize history

/-- The log has the last segments of the stream, as many as it may have. -/
structure Holds (log : CommitLog T) (history : List T) : Prop where
  head : log.head = (log.division history).closed.length + 1 - log.maxMemSegments
  tail : log.tail = (log.division history).closed.length
  segments : log.segments = (layout 0 (log.division history).chunks).drop log.head

variable {log : CommitLog T} {history : List T} {message : T}

/-- A new log holds no message. -/
theorem holds_new {maxSegmentSize maxMemSegments : Nat}
    (h : new maxSegmentSize maxMemSegments = ok log) : log.Holds [] := by
  unfold new at h
  split_ifs at h with hSize hCount
  cases h
  refine ⟨?_, rfl, rfl⟩
  change 0 = 0 + 1 - maxMemSegments
  omega

namespace Holds

/-- The oldest segment in memory is none after the active one. -/
theorem head_le (h : log.Holds history) : log.head ≤ log.tail := by
  have hCount := log.hMemSegments
  rw [h.head, h.tail]
  omega

theorem length_chunks (h : log.Holds history) :
    (log.division history).chunks.length = log.tail + 1 := by
  rw [Division.chunks, List.length_append, h.tail, List.length_singleton]

/-- The segments before the active one, and the active one. -/
theorem segments_eq (h : log.Holds history) :
    log.segments = (layout 0 (log.division history).closed).drop log.head ++
      [{ data := (log.division history).last
         totalSize := total Storage.size (log.division history).last
         absoluteOffset := (log.division history).closed.flatten.length }] := by
  have hHead : log.head ≤ (layout 0 (log.division history).closed).length := by
    rw [layout_length, ← h.tail]
    exact h.head_le
  rw [h.segments, Division.chunks, layout_append, List.drop_append_of_le_length hHead, Nat.zero_add]
  rfl

/-- The active segment has the last chunk. -/
theorem activeSegment_eq (h : log.Holds history) :
    log.activeSegment =
      { data := (log.division history).last
        totalSize := total Storage.size (log.division history).last
        absoluteOffset := (log.division history).closed.flatten.length } := by
  rw [activeSegment, List.getLast_eq_iff_getLast?_eq_some, h.segments_eq, List.getLast?_concat]

/-- The active segment ends with the history. -/
theorem active_nextOffset (h : log.Holds history) :
    log.activeSegment.nextOffset = history.length := by
  have hAll := congrArg List.length (flatten_chunks Storage.size log.maxSegmentSize history)
  rw [Division.chunks, List.flatten_concat, List.length_append] at hAll
  rw [h.activeSegment_eq]
  exact hAll

theorem nextOffset_eq (h : log.Holds history) : log.nextOffset = (log.tail, history.length) := by
  rw [nextOffset, h.active_nextOffset]

theorem count_eq (h : log.Holds history) : log.memorySegmentsCount = log.tail + 1 - log.head := by
  rw [memorySegmentsCount, h.segments, List.length_drop, layout_length, h.length_chunks]

end Holds
/-- A full active segment is closed, and a new one takes the message. -/
theorem append_of_full (hFull : log.maxSegmentSize ≤ log.activeSegment.totalSize) (message : T) :
    (log.append message).1 =
      { log with
        head := log.popFront.1
        tail := log.tail + 1
        segments := log.popFront.2 ++
          [{ data := [message]
             totalSize := Storage.size message
             absoluteOffset := log.activeSegment.nextOffset }]
        hActive := List.append_ne_nil_of_right_ne_nil _ (List.cons_ne_nil _ _) } := by
  rw [append, applyRetention, if_pos hFull]
  ext1 <;> simp [pushActive, activeSegment, Segment.push, Segment.withOffset]

/-- The active segment takes the message. -/
theorem append_of_room (hRoom : ¬log.maxSegmentSize ≤ log.activeSegment.totalSize) (message : T) :
    (log.append message).1 = log.pushActive message := by
  rw [append, applyRetention, if_neg hRoom]

namespace Holds

/-- Retention leaves the segments the next message needs. -/
theorem popFront_eq (h : log.Holds history) :
    log.popFront.1 = log.tail + 2 - log.maxMemSegments ∧
      log.popFront.2 = (layout 0 (log.division history).chunks).drop log.popFront.1 := by
  have hHead := h.head
  have hTail := h.tail
  have hCount := h.count_eq
  unfold popFront
  split_ifs with hFull
  · refine ⟨by dsimp only; omega, ?_⟩
    rw [h.segments, List.tail_drop]
  · exact ⟨by dsimp only; omega, h.segments⟩

/-- A message that finds the active segment full opens another. -/
theorem append_full (h : log.Holds history)
    (hFull : log.maxSegmentSize ≤ log.activeSegment.totalSize) (message : T) :
    (log.append message).1.Holds (history ++ [message]) := by
  have hDivision : divide Storage.size log.maxSegmentSize (history ++ [message]) =
      ⟨(log.division history).chunks, [message]⟩ := by
    rw [h.activeSegment_eq] at hFull
    rw [divide_append_singleton, Division.push]
    exact if_pos hFull
  have hFlat : (log.division history).chunks.flatten.length = history.length := by
    rw [division, flatten_chunks]
  have hBound : log.popFront.1 ≤ (layout 0 (log.division history).chunks).length := by
    have hMem := log.hMemSegments
    rw [layout_length, h.length_chunks, h.popFront_eq.1]
    omega
  rw [append_of_full hFull]
  refine ⟨?_, ?_, ?_⟩
  · change log.popFront.1 = (divide Storage.size log.maxSegmentSize _).closed.length + 1 - _
    rw [hDivision, h.popFront_eq.1, h.length_chunks]
  · change log.tail + 1 = (divide Storage.size log.maxSegmentSize _).closed.length
    rw [hDivision, h.length_chunks]
  · change log.popFront.2 ++ _ =
      (layout 0 (divide Storage.size log.maxSegmentSize _).chunks).drop log.popFront.1
    rw [hDivision, Division.chunks, layout_append, List.drop_append_of_le_length hBound,
      ← h.popFront_eq.2, hFlat, h.active_nextOffset]
    simp [layout]

/-- A message that finds room joins the active segment. -/
theorem append_room (h : log.Holds history)
    (hRoom : ¬log.maxSegmentSize ≤ log.activeSegment.totalSize) (message : T) :
    (log.append message).1.Holds (history ++ [message]) := by
  have hDivision : divide Storage.size log.maxSegmentSize (history ++ [message]) =
      ⟨(log.division history).closed, (log.division history).last ++ [message]⟩ := by
    rw [h.activeSegment_eq] at hRoom
    rw [divide_append_singleton, Division.push]
    exact if_neg hRoom
  have hBound : log.head ≤ (layout 0 (log.division history).closed).length := by
    rw [layout_length, ← h.tail]
    exact h.head_le
  rw [append_of_room hRoom]
  refine ⟨?_, ?_, ?_⟩
  · change log.head = (divide Storage.size log.maxSegmentSize _).closed.length + 1 - _
    rw [hDivision]
    exact h.head
  · change log.tail = (divide Storage.size log.maxSegmentSize _).closed.length
    rw [hDivision]
    exact h.tail
  · change log.segments.dropLast ++ [log.activeSegment.push message] =
      (layout 0 (divide Storage.size log.maxSegmentSize _).chunks).drop log.head
    rw [hDivision, Division.chunks, layout_append, List.drop_append_of_le_length hBound,
      h.activeSegment_eq, h.segments_eq, List.dropLast_concat]
    simp [Segment.push, layout]

theorem append (h : log.Holds history) (message : T) :
    (log.append message).1.Holds (history ++ [message]) := by
  by_cases hFull : log.maxSegmentSize ≤ log.activeSegment.totalSize
  · exact h.append_full hFull message
  · exact h.append_room hFull message

end Holds

@[simp] theorem append_maxSegmentSize (log : CommitLog T) (message : T) :
    (log.append message).1.maxSegmentSize = log.maxSegmentSize := by
  rw [append, applyRetention]
  split_ifs <;> rfl

@[simp] theorem append_maxMemSegments (log : CommitLog T) (message : T) :
    (log.append message).1.maxMemSegments = log.maxMemSegments := by
  rw [append, applyRetention]
  split_ifs <;> rfl

/-- The log after more messages. -/
def extend (log : CommitLog T) (messages : List T) : CommitLog T :=
  run (fun log message => (log.append message).1) log messages

/-- Messages that are appended extend the history. -/
theorem Holds.extend (h : log.Holds history) (messages : List T) :
    (log.extend messages).Holds (history ++ messages) := by
  induction messages generalizing log history with
  | nil => simpa [CommitLog.extend] using h
  | cons message messages ih => simpa [CommitLog.extend] using ih (h.append message)

/-- Appending keeps the bounds of the log. -/
theorem extend_bounds (log : CommitLog T) (messages : List T) :
    (log.extend messages).maxSegmentSize = log.maxSegmentSize ∧
      (log.extend messages).maxMemSegments = log.maxMemSegments :=
  ⟨run_unchanged maxSegmentSize append_maxSegmentSize log messages,
    run_unchanged maxMemSegments append_maxMemSegments log messages⟩

/-- A segment of a layout has one of its chunks and the size of that. -/
theorem mem_layout {offset : Nat} {chunks : List (List T)} {segment : Segment T}
    (h : segment ∈ layout offset chunks) :
    segment.data ∈ chunks ∧ segment.totalSize = total Storage.size segment.data := by
  induction chunks generalizing offset with
  | nil => simp at h
  | cons chunk chunks ih =>
      rcases List.mem_cons.mp h with rfl | hRest
      · exact ⟨List.mem_cons_self, rfl⟩
      · exact ⟨List.mem_cons_of_mem _ (ih hRest).1, (ih hRest).2⟩

/-- Every segment before the active one has reached the limit. -/
theorem Holds.limit_le_of_closed (h : log.Holds history) {segment : Segment T}
    (hSegment : segment ∈ log.segments.dropLast) : log.maxSegmentSize ≤ segment.totalSize := by
  rw [h.segments_eq, List.dropLast_concat] at hSegment
  obtain ⟨hData, hTotal⟩ := mem_layout (List.mem_of_mem_drop hSegment)
  rw [hTotal]
  exact limit_le_of_mem_closed hData

/-- After any messages, the log has the last of the segments they are cut
into, as many as it may have, and knows how many messages and segments there
were. -/
theorem segments_after_appends {maxSegmentSize maxMemSegments : Nat}
    (hNew : new maxSegmentSize maxMemSegments = ok log) (messages : List T) :
    let chunks := (divide Storage.size maxSegmentSize messages).chunks
    let log := log.extend messages
    log.head = chunks.length - maxMemSegments ∧ log.tail = chunks.length - 1 ∧
      log.segments = (layout 0 chunks).drop (chunks.length - maxMemSegments) ∧
      log.nextOffset = (chunks.length - 1, messages.length) := by
  intro chunks final
  have hHolds : final.Holds messages := (holds_new hNew).extend messages
  have hSize : final.maxSegmentSize = maxSegmentSize :=
    (log.extend_bounds messages).1.trans (new_bounds hNew).1
  have hCount : final.maxMemSegments = maxMemSegments :=
    (log.extend_bounds messages).2.trans (new_bounds hNew).2
  have hChunks : (final.division messages).chunks = chunks := by rw [division, hSize]
  have hLength : chunks.length = final.tail + 1 := hChunks ▸ hHolds.length_chunks
  have hTail : final.tail = chunks.length - 1 := by omega
  have hHead : final.head = chunks.length - maxMemSegments := by
    rw [hHolds.head, ← hHolds.tail, hCount, hLength]
  refine ⟨hHead, hTail, ?_, ?_⟩
  · rw [hHolds.segments, hChunks, hHead]
  · rw [hHolds.nextOffset_eq, hTail]

/-- Three messages that fill a segment each, in a log of two segments. -/
theorem segments_after_appends_three :
    ∃ log : CommitLog PublishData, new 1024 2 = ok log ∧
      let log := log.extend [largeMessage 1, largeMessage 2, largeMessage 3]
      log.head = 1 ∧ log.tail = 2 ∧
        log.segments = [⟨[largeMessage 2], 1029, 1⟩, ⟨[largeMessage 3], 1029, 2⟩] ∧
        log.nextOffset = (2, 3) := by
  have hNew : ∃ log : CommitLog PublishData, new 1024 2 = ok log := ⟨_, rfl⟩
  obtain ⟨log, hNew⟩ := hNew
  have hAppends := segments_after_appends hNew [largeMessage 1, largeMessage 2, largeMessage 3]
  rw [divide_large] at hAppends
  refine ⟨log, hNew, ?_⟩
  simpa [Division.chunks, layout, size_largeMessage] using hAppends

/-- The active segment has index `tail`, segments are contiguous, none is beyond
the bound by more than its last message, and there is at least one and not more
than allowed; each but the active one is full. -/
theorem segments_bounded {maxSegmentSize maxMemSegments : Nat}
    (hNew : new maxSegmentSize maxMemSegments = ok log) (messages : List T) :
    let log := log.extend messages
    log.head + log.segments.length = log.tail + 1 ∧
      List.IsChain (fun first second => first.nextOffset = second.absoluteOffset) log.segments ∧
      (∀ segment ∈ log.segments, segment.totalSize = total Storage.size segment.data ∧
        total Storage.size segment.data.dropLast < maxSegmentSize) ∧
      0 < log.segments.length ∧ log.segments.length ≤ maxMemSegments ∧
      (∀ segment ∈ log.segments.dropLast, maxSegmentSize ≤ segment.totalSize) ∧
      (0 < log.head → log.segments.length = maxMemSegments) := by
  intro final
  have hHolds : final.Holds messages := (holds_new hNew).extend messages
  have hSize : final.maxSegmentSize = maxSegmentSize :=
    (log.extend_bounds messages).1.trans (new_bounds hNew).1
  have hCount : final.maxMemSegments = maxMemSegments :=
    (log.extend_bounds messages).2.trans (new_bounds hNew).2
  have hLength := hHolds.count_eq
  have hHead := hHolds.head
  have hTail := hHolds.tail
  have hMem := final.hMemSegments
  rw [memorySegmentsCount] at hLength
  rw [hCount] at hHead hMem
  refine ⟨by omega, ?_, fun segment hSegment => ?_, by omega, by omega, fun segment hClosed => ?_,
    by omega⟩
  · rw [hHolds.segments, layout_drop]
    exact isChain_layout _ _
  · rw [hHolds.segments] at hSegment
    obtain ⟨hData, hTotal⟩ := mem_layout (List.mem_of_mem_drop hSegment)
    have hLimit : 0 < final.maxSegmentSize := lt_of_lt_of_le (by decide) final.hSegmentSize
    exact ⟨hTotal, hSize ▸ dropLast_lt_limit hLimit hData⟩
  · exact hSize ▸ hHolds.limit_le_of_closed hClosed

/-- Of three segments the last two are left, the first of them full. -/
theorem segments_bounded_three :
    ∃ log : CommitLog PublishData, new 1024 2 = ok log ∧
      let log := log.extend [largeMessage 1, largeMessage 2, largeMessage 3]
      0 < log.head ∧ log.segments.length = 2 ∧
        ∀ segment ∈ log.segments.dropLast, 1024 ≤ segment.totalSize := by
  have hNew : ∃ log : CommitLog PublishData, new 1024 2 = ok log ∧
      0 < (log.extend [largeMessage 1, largeMessage 2, largeMessage 3]).head :=
    ⟨_, rfl, by decide +kernel⟩
  obtain ⟨log, hNew, hHead⟩ := hNew
  obtain ⟨_, _, _, _, _, hClosed, hFull⟩ :=
    segments_bounded hNew [largeMessage 1, largeMessage 2, largeMessage 3]
  exact ⟨log, hNew, hHead, hFull hHead, hClosed⟩

end CommitLog
end Refinement

end SnapEmu.Broker
