import SnapEmu.Broker.Reading
import SnapEmu.Semantics.Feed

/-! Subscribers of one filter: each reads the log from the cursor its last read
left, while messages are appended and old segments go. -/
namespace SnapEmu.Broker

open Semantics Exec Chunks

variable {T : Type} [Storage T]

namespace CommitLog

variable {log : CommitLog T} {history : List T} {message : T}

/-- The cursor is at a message of its segment, or at the end of it. -/
structure Settled (log : CommitLog T) (history : List T) (cursor : Cursor) : Prop where
  tail : cursor.1 ≤ log.tail
  start : log.startOf history cursor.1 ≤ cursor.2
  stop : cursor.2 ≤ log.startOf history (cursor.1 + 1)

theorem startOf_mono (log : CommitLog T) (history : List T) {idx later : Nat} (h : idx ≤ later) :
    log.startOf history idx ≤ log.startOf history later := offset_mono _ h

theorem Holds.startOf_tail_succ (h : log.Holds history) :
    log.startOf history (log.tail + 1) = history.length := by
  rw [startOf, offset, List.take_of_length_le h.length_chunks.le, division, flatten_chunks]

/-- A message that is appended is pushed on the division of the history. -/
theorem division_append (log : CommitLog T) (history : List T) (message : T) :
    (log.append message).1.division (history ++ [message]) =
      Division.push Storage.size log.maxSegmentSize (log.division history) message := by
  rw [division, append_maxSegmentSize, divide_append_singleton]
  rfl

namespace Holds

/-- The active segment only moves on. -/
theorem tail_le_append (h : log.Holds history) (message : T) :
    log.tail ≤ (log.append message).1.tail := by
  rw [h.tail, (h.append message).tail, division_append]
  exact length_closed_le_push _ _

/-- The oldest segment only moves on. -/
theorem head_le_append (h : log.Holds history) (message : T) :
    log.head ≤ (log.append message).1.head := by
  have hTail := h.tail_le_append message
  have hNew := h.append message
  rw [h.head, hNew.head, ← h.tail, ← hNew.tail, append_maxMemSegments]
  omega

theorem startOf_append (h : log.Holds history) (message : T) {idx : Nat} (hIdx : idx ≤ log.tail) :
    (log.append message).1.startOf (history ++ [message]) idx = log.startOf history idx := by
  rw [startOf, division_append, offset_push message (h.tail ▸ hIdx), startOf]

/-- The active segment starts in front of the new message. -/
theorem startOf_append_tail (h : log.Holds history) (message : T) :
    (log.append message).1.startOf (history ++ [message]) (log.append message).1.tail ≤
      history.length := by
  rw [startOf, (h.append message).tail, division_append]
  refine (offset_push_last_le _ _).trans ?_
  rw [division, flatten_chunks]

/-- The end of a segment does not move back. -/
theorem startOf_le_append (h : log.Holds history) (message : T) (idx : Nat) :
    log.startOf history idx ≤ (log.append message).1.startOf (history ++ [message]) idx := by
  by_cases hIdx : idx ≤ log.tail
  · rw [h.startOf_append message hIdx]
  · refine (startOf_le _ _ idx).trans ?_
    have hEnd := length_le_offset_push Storage.size log.maxSegmentSize (log.division history)
      message (h.tail ▸ not_le.mp hIdx)
    rw [division, flatten_chunks] at hEnd
    rw [startOf, division_append]
    exact hEnd

/-- A reader at the next offset has settled. -/
theorem settled_nextOffset (h : log.Holds history) : log.Settled history log.nextOffset where
  tail := by rw [h.nextOffset_eq]
  start := by
    rw [h.nextOffset_eq]
    exact startOf_le _ _ _
  stop := by rw [h.nextOffset_eq, h.startOf_tail_succ]

end Holds

/-- A reader that has settled stays so while messages come. -/
theorem Settled.append {cursor : Cursor} (hSettled : log.Settled history cursor)
    (h : log.Holds history) (message : T) :
    (log.append message).1.Settled (history ++ [message]) cursor where
  tail := hSettled.tail.trans (h.tail_le_append message)
  start := by
    rw [h.startOf_append message hSettled.tail]
    exact hSettled.start
  stop := hSettled.stop.trans (h.startOf_le_append message _)

/-- A read from such a cursor begins there, or with the oldest message left. -/
theorem Settled.target_eq {cursor : Cursor} (hSettled : log.Settled history cursor) :
    log.target history cursor = max cursor.2 (log.startOf history log.head) := by
  have hStop := hSettled.stop
  have hStart := hSettled.start
  unfold target clamp
  dsimp only
  split_ifs with hOld hTail hTail
  all_goals dsimp only at hTail ⊢
  · have hMono := startOf_mono log history (Nat.succ_le_iff.mpr hOld)
    have hNext := startOf_mono log history (Nat.le_add_right log.head 1)
    rw [Nat.min_eq_left hNext, Nat.max_eq_right (hStop.trans hMono)]
  · have hMono := startOf_mono log history (Nat.succ_le_iff.mpr hOld)
    rw [Nat.max_eq_right (hStop.trans hMono)]
  · have hMono := startOf_mono log history (not_lt.mp hOld)
    rw [Nat.max_eq_left hStart, Nat.min_eq_left hStop, Nat.max_eq_left (hMono.trans hStart)]
  · have hMono := startOf_mono log history (not_lt.mp hOld)
    rw [Nat.max_eq_left hStart, Nat.max_eq_left (hMono.trans hStart)]

/-- The stream grows by the new message. -/
theorem Holds.stream_append (h : log.Holds history) (message : T) :
    (log.append message).1.stream (history ++ [message]) =
      log.stream history ++ [(message, (log.append message).1.tail, history.length)] := by
  have hTail := (h.append message).tail
  have hAll : (log.division history).chunks.flatten = history := flatten_chunks _ _ history
  rw [hTail, stream, division_append, stream]
  generalize log.division history = cut at hAll ⊢
  rw [← hAll, Division.push]
  split_ifs
  · rw [Division.chunks, layout_append, entries_append, layout_length]
    simp [layout, entries, Segment.entries, Division.chunks]
  · rw [Division.chunks, Division.chunks, layout_append, layout_append, entries_append,
      entries_append, layout_length, List.append_assoc, List.flatten_concat, List.length_append]
    simp [layout, entries, Segment.entries, List.zipIdx_append]

/-- An entry stands in the segment that its offset names. -/
theorem place_of_entries_layout {index start position : Nat} {chunks : List (List T)}
    {entry : T × Offset} (h : (entries index (layout start chunks))[position]? = some entry) :
    ∃ number < chunks.length, entry.2.1 = index + number ∧ offset chunks number ≤ position ∧
      position < offset chunks (number + 1) := by
  induction chunks generalizing index start position with
  | nil => simp [entries] at h
  | cons chunk chunks ih =>
      have hLength : (Segment.entries index
          { data := chunk, totalSize := total Storage.size chunk, absoluteOffset := start }
          ).length = chunk.length := Segment.entries_length _ _
      rw [layout, entries] at h
      by_cases hHere : position < chunk.length
      · rw [List.getElem?_append_left (by omega), Segment.getElem?_entries,
          Option.map_eq_some_iff] at h
        obtain ⟨item, _, rfl⟩ := h
        exact ⟨0, by simp, rfl, by simp [offset], by simpa [offset] using hHere⟩
      · rw [List.getElem?_append_right (by omega), hLength] at h
        obtain ⟨number, hNumber, hIndex, hStart, hStop⟩ := ih h
        have hShift : ∀ count, offset (chunk :: chunks) (count + 1) =
            chunk.length + offset chunks count := by simp [offset]
        refine ⟨number + 1, Nat.succ_lt_succ hNumber, by omega, ?_, ?_⟩
        · rw [hShift]
          omega
        · rw [hShift]
          omega

/-- The offset of a message is a cursor that stands for it. -/
theorem Holds.settled_of_stream (h : log.Holds history) {position : Nat} {entry : T × Offset}
    (hEntry : (log.stream history)[position]? = some entry) : log.Settled history entry.2 := by
  obtain ⟨number, hNumber, hIndex, hStart, hStop⟩ := place_of_entries_layout hEntry
  have hOffset := offset_of_stream hEntry
  have hLength := h.length_chunks
  rw [Nat.zero_add] at hIndex
  refine ⟨by omega, ?_, ?_⟩
  · rw [hOffset, hIndex]
    exact hStart
  · rw [hOffset, hIndex]
    exact hStop.le

end CommitLog

namespace CommitLog

variable {log : CommitLog T} {history : List T}

/-- What a read returns: the next messages that are left, and the place behind
them, which is the end of the log exactly if the read is caught up. -/
structure ReadResult (log : CommitLog T) (history : List T) (cursor : Cursor) (len : Nat)
    (result : Position × List (T × Offset)) : Prop where
  read : result.2 =
    ((log.stream history).drop (max cursor.2 (log.startOf history log.head))).take len
  settled : log.Settled history result.1.stop
  stop : result.1.stop.2 = max cursor.2 (log.startOf history log.head) + result.2.length
  caughtUp : result.1.caughtUp = true ↔ result.1.stop = log.nextOffset
  short : result.2.length < len → result.1.caughtUp = true

/-- A reader that has settled reads what is next in the history. -/
theorem Settled.readv {cursor : Cursor} (hSettled : log.Settled history cursor)
    (h : log.Holds history) (len : Nat) :
    ∃ result, log.readv cursor len = ok result ∧ log.ReadResult history cursor len result := by
  have hRead := h.readv_eq hSettled.tail len
  dsimp only at hRead
  rw [hSettled.target_eq] at hRead
  refine ⟨_, hRead, ?_⟩
  have hPlace : max cursor.2 (log.startOf history log.head) ≤ history.length :=
    max_le (hSettled.stop.trans (startOf_le _ _ _)) (startOf_le _ _ _)
  obtain ⟨place, hFrom⟩ : ∃ place, max cursor.2 (log.startOf history log.head) = place := ⟨_, rfl⟩
  rw [hFrom] at hPlace ⊢
  have hLength : ((log.stream history).drop place).length = history.length - place := by
    rw [List.length_drop, stream_length]
  cases hUnread : ((log.stream history).drop place).drop len with
  | nil =>
      have hAll : ((log.stream history).drop place).length ≤ len := List.drop_eq_nil_iff.mp hUnread
      have hStop : (positionAfter (log.clamp history cursor) ([] : List (T × Offset))
          (log.tail, max place history.length)).stop = log.nextOffset := by
        rw [h.nextOffset_eq, Nat.max_eq_right hPlace]
        rfl
      refine ⟨by rw [hFrom], hStop ▸ h.settled_nextOffset, ?_, ⟨fun _ => hStop, fun _ => rfl⟩,
        fun _ => rfl⟩
      rw [hStop, hFrom, h.nextOffset_eq, List.take_of_length_le hAll, hLength]
      omega
  | cons entry rest =>
      have hEntry : (log.stream history)[place + len]? = some entry := by
        rw [← List.head?_drop, ← List.drop_drop, hUnread]
        rfl
      have hBefore : place + len < history.length := by
        rw [← stream_length log history]
        exact (List.getElem?_eq_some_iff.mp hEntry).1
      have hOffset := offset_of_stream hEntry
      have hRead : (((log.stream history).drop place).take len).length = len := by
        rw [List.length_take, hLength]
        omega
      refine ⟨by rw [hFrom], h.settled_of_stream hEntry, ?_, ⟨nofun, fun hStop => ?_⟩,
        fun hShort => ?_⟩
      · rw [hRead, hFrom]
        exact hOffset
      · rw [h.nextOffset_eq] at hStop
        have hEnd : entry.2.2 = history.length := congrArg Prod.snd hStop
        omega
      · exact absurd hRead hShort.ne

end CommitLog

/-- A subscriber: where it started, where it goes on, and what it has read. -/
structure Subscriber (T : Type) where
  start : Cursor
  cursor : Cursor
  read : List (T × Offset)

structure LogState (T : Type) where
  log : CommitLog T
  subscribers : List (Subscriber T)

inductive LogInput (T : Type) where
  | append (message : T)
  | subscribe
  | read (number len : Nat)

def LogInput.message : LogInput T → List T
  | .append message => [message]
  | .subscribe => []
  | .read _ _ => []

namespace LogState

def step (state : LogState T) : LogInput T → Exec Empty (LogState T)
  | .append message => ok { state with log := (state.log.append message).1 }
  | .subscribe =>
      let start := state.log.nextOffset
      ok { state with subscribers := state.subscribers ++ [⟨start, start, []⟩] }
  | .read number len =>
      match state.subscribers[number]? with
      | none => ok state
      | some subscriber =>
          state.log.readv subscriber.cursor len >>= fun result =>
            ok { state with
              subscribers := state.subscribers.set number
                { subscriber with
                  cursor := result.1.stop
                  read := subscriber.read ++ result.2 } }

/-- The subscriber as a reader of the stream. -/
structure Shows (log : CommitLog T) (history : List T) (subscriber : Subscriber T)
    (reader : Feed.Reader (T × Offset)) : Prop where
  settled : log.Settled history subscriber.cursor
  since : subscriber.start.2 = reader.since
  position : subscriber.cursor.2 = reader.position
  read : subscriber.read = reader.received.map Prod.fst

structure Refines (state : LogState T) (history : List T) (feed : Feed.State (T × Offset)) :
    Prop where
  holds : state.log.Holds history
  items : feed.items = state.log.stream history
  first : feed.first = state.log.startOf history state.log.head
  length : state.subscribers.length = feed.readers.length
  shows : ∀ (number : Nat) subscriber reader, state.subscribers[number]? = some subscriber →
    feed.readers[number]? = some reader → Shows state.log history subscriber reader

variable {state : LogState T} {history : List T} {feed : Feed.State (T × Offset)}

/-- A message that is appended comes to the history. -/
theorem Refines.append (h : Refines state history feed) (message : T) :
    Refines { state with log := (state.log.append message).1 } (history ++ [message])
      (feed.step (.grow (message, (state.log.append message).1.tail, history.length)
        ((state.log.append message).1.startOf (history ++ [message])
          (state.log.append message).1.head))) where
  holds := h.holds.append message
  items := by
    rw [h.holds.stream_append, ← h.items]
    rfl
  first := by
    have hHead := h.holds.head_le_append message
    have hKept : state.log.startOf history state.log.head ≤
        (state.log.append message).1.startOf (history ++ [message])
          (state.log.append message).1.head :=
      (h.holds.startOf_le_append message _).trans (CommitLog.startOf_mono _ _ hHead)
    have hOld : (state.log.append message).1.startOf (history ++ [message])
        (state.log.append message).1.head ≤ history.length :=
      (CommitLog.startOf_mono _ _ (h.holds.append message).head_le).trans
        (h.holds.startOf_append_tail message)
    have hLength : feed.items.length = history.length := by
      rw [h.items, CommitLog.stream_length]
    change min (max feed.first _) feed.items.length = _
    rw [h.first, hLength, Nat.max_eq_right hKept, Nat.min_eq_left hOld]
  length := h.length
  shows := by
    intro number subscriber reader hSubscriber hReader
    have hShows := h.shows number subscriber reader hSubscriber hReader
    exact { hShows with settled := hShows.settled.append h.holds message }

/-- A subscriber starts at the end of the history. -/
theorem Refines.subscribe (h : Refines state history feed) :
    Refines
      { state with
        subscribers := state.subscribers ++ [⟨state.log.nextOffset, state.log.nextOffset, []⟩] }
      history (feed.step .join) where
  holds := h.holds
  items := h.items
  first := h.first
  length := by
    change (state.subscribers ++ [_]).length = (feed.readers ++ [_]).length
    rw [List.length_append, List.length_append, h.length]
    rfl
  shows := by
    intro number subscriber reader hSubscriber hReader
    change (state.subscribers ++ [_])[number]? = some subscriber at hSubscriber
    change (feed.readers ++ [_])[number]? = some reader at hReader
    by_cases hOld : number < state.subscribers.length
    · rw [List.getElem?_append_left hOld] at hSubscriber
      rw [List.getElem?_append_left (h.length ▸ hOld)] at hReader
      exact h.shows number subscriber reader hSubscriber hReader
    · rw [List.getElem?_append_right (not_lt.mp hOld), List.getElem?_singleton] at hSubscriber
      rw [List.getElem?_append_right (h.length ▸ not_lt.mp hOld),
        List.getElem?_singleton] at hReader
      split_ifs at hSubscriber hReader
      cases hSubscriber
      cases hReader
      have hLength : feed.items.length = history.length := by
        rw [h.items, CommitLog.stream_length]
      have hOffset : state.log.nextOffset.2 = feed.items.length := by
        rw [h.holds.nextOffset_eq, hLength]
      exact ⟨h.holds.settled_nextOffset, hOffset, hOffset, rfl⟩

/-- A read gives the subscriber what the feed has for it. -/
theorem Refines.read (h : Refines state history feed) {number : Nat} {subscriber : Subscriber T}
    (hSubscriber : state.subscribers[number]? = some subscriber) (len : Nat) :
    ∃ result, state.log.readv subscriber.cursor len = ok result ∧
      Refines
        { state with
          subscribers := state.subscribers.set number
            { subscriber with cursor := result.1.stop, read := subscriber.read ++ result.2 } }
        history (feed.step (.read number len)) := by
  have hNumber : number < feed.readers.length :=
    h.length ▸ (List.getElem?_eq_some_iff.mp hSubscriber).1
  have hReader := List.getElem?_eq_getElem hNumber
  have hShows := h.shows number subscriber _ hSubscriber hReader
  obtain ⟨result, hResult, hRead⟩ := hShows.settled.readv h.holds len
  have hGot : (feed.readers[number].got feed.items feed.first len).map Prod.fst = result.2 := by
    rw [Feed.Reader.got, List.map_take, List.map_drop, List.zipIdx_map_fst, h.items, h.first,
      ← hShows.position, hRead.read]
  have hNew : Shows state.log history
      { subscriber with cursor := result.1.stop, read := subscriber.read ++ result.2 }
      (feed.readers[number].read feed.items feed.first len) := by
    refine ⟨hRead.settled, hShows.since, ?_, ?_⟩
    · change result.1.stop.2 = max feed.readers[number].position feed.first +
        (feed.readers[number].got feed.items feed.first len).length
      rw [hRead.stop, ← hGot, List.length_map, h.first, hShows.position]
    · change subscriber.read ++ result.2 = (feed.readers[number].received ++
        feed.readers[number].got feed.items feed.first len).map Prod.fst
      rw [List.map_append, hGot, hShows.read]
  refine ⟨result, hResult, h.holds, h.items, h.first, ?_, ?_⟩
  · change (state.subscribers.set number _).length = (feed.readers.modify number _).length
    rw [List.length_set, List.length_modify, h.length]
  · intro other subscriber' reader' hSubscriber' hReader'
    change (state.subscribers.set number _)[other]? = some subscriber' at hSubscriber'
    change (feed.readers.modify number _)[other]? = some reader' at hReader'
    rw [List.getElem?_set] at hSubscriber'
    rw [List.getElem?_modify] at hReader'
    by_cases hSame : number = other
    · subst hSame
      rw [if_pos rfl, if_pos (h.length ▸ hNumber)] at hSubscriber'
      simp only [if_true, hReader] at hReader'
      cases hSubscriber'
      cases hReader'
      exact hNew
    · rw [if_neg hSame] at hSubscriber'
      simp only [if_neg hSame, id_map'] at hReader'
      exact h.shows other subscriber' reader' hSubscriber' hReader'

/-- A step does not fail and is a step of the feed. -/
theorem Refines.step (h : Refines state history feed) (input : LogInput T) :
    ∃ state' feedInput, state.step input = ok state' ∧
      Refines state' (history ++ input.message) (feed.step feedInput) := by
  cases input with
  | append message => exact ⟨_, _, rfl, h.append message⟩
  | subscribe => exact ⟨_, _, rfl, by simpa [LogInput.message] using h.subscribe⟩
  | read number len =>
      rw [LogInput.message, List.append_nil, LogState.step]
      cases hSubscriber : state.subscribers[number]? with
      | none =>
          refine ⟨state, .read number len, rfl, ?_⟩
          have hBeyond : feed.readers.length ≤ number :=
            h.length ▸ List.getElem?_eq_none_iff.mp hSubscriber
          rw [Feed.State.step, List.modify_eq_self hBeyond]
          exact h
      | some subscriber =>
          obtain ⟨result, hResult, hRefines⟩ := h.read hSubscriber len
          refine ⟨_, .read number len, ?_, hRefines⟩
          change state.log.readv subscriber.cursor len >>= _ = _
          rw [hResult, ok_bind]

/-- The same for a run, in which readers follow the feed. -/
theorem Refines.run (h : Refines state history feed) (hFollowed : feed.Followed)
    (inputs : List (LogInput T)) :
    ∃ state' feed', inputs.foldlM LogState.step state = ok state' ∧
      Refines state' (history ++ inputs.flatMap LogInput.message) feed' ∧ feed'.Followed := by
  induction inputs generalizing state history feed with
  | nil => exact ⟨state, feed, rfl, by simpa using h, hFollowed⟩
  | cons input inputs ih =>
      obtain ⟨next, feedInput, hStep, hNext⟩ := h.step input
      obtain ⟨state', feed', hRun, hRefines, hFollowed'⟩ := ih hNext (hFollowed.step feedInput)
      refine ⟨state', feed', ?_, ?_, hFollowed'⟩
      · rw [List.foldlM_cons, hStep, ok_bind, hRun]
      · rw [List.flatMap_cons, ← List.append_assoc]
        exact hRefines

/-- What a reader received and may have missed, for the subscriber. -/
theorem Shows.follows {log : CommitLog T} {subscriber : Subscriber T}
    {reader : Feed.Reader (T × Offset)} (h : Shows log history subscriber reader)
    (hFollows : reader.Follows (log.stream history) (log.startOf history log.head)) :
    subscriber.read.Sublist
        (Feed.stretch (log.stream history) subscriber.start.2 subscriber.cursor.2) ∧
      ∀ entry ∈ Feed.stretch (log.stream history) subscriber.start.2 subscriber.cursor.2,
        log.startOf history log.head ≤ entry.2.2 → entry ∈ subscriber.read := by
  have hMap : (Feed.stretch (log.stream history).zipIdx reader.since reader.position).map Prod.fst =
      Feed.stretch (log.stream history) subscriber.start.2 subscriber.cursor.2 := by
    rw [Feed.stretch, List.map_take, List.map_drop, List.zipIdx_map_fst, h.since, h.position,
      Feed.stretch]
  refine ⟨?_, fun entry hEntry hKept => ?_⟩
  · rw [h.read, ← hMap]
    exact hFollows.sublist.map _
  · obtain ⟨position, hPosition⟩ := List.mem_iff_getElem?.mp hEntry
    rw [Feed.getElem?_stretch, h.since, h.position] at hPosition
    split_ifs at hPosition with hBefore
    have hOffset := CommitLog.offset_of_stream hPosition
    rw [h.read]
    exact List.mem_map_of_mem (f := Prod.fst) (hFollows.complete (reader.since + position) entry
      (Nat.le_add_right _ _) (by omega) (by omega) hPosition)

end LogState

/-- Whatever the order of appends, subscriptions and reads, no read fails, and
each subscriber has read, once and in order, the messages between its start and
its cursor, but for messages that went with their segment before it came. -/
theorem subscribers_follow {log : CommitLog T} {maxSegmentSize maxMemSegments : Nat}
    (hNew : CommitLog.new maxSegmentSize maxMemSegments = ok log) (inputs : List (LogInput T)) :
    ∃ state, inputs.foldlM LogState.step ⟨log, []⟩ = ok state ∧
      let history := inputs.flatMap LogInput.message
      let stream := state.log.stream history
      stream.map Prod.fst = history ∧
      ∀ subscriber ∈ state.subscribers,
        subscriber.start.2 ≤ subscriber.cursor.2 ∧ subscriber.cursor.2 ≤ history.length ∧
        subscriber.read.Sublist (Feed.stretch stream subscriber.start.2 subscriber.cursor.2) ∧
        ∀ entry ∈ Feed.stretch stream subscriber.start.2 subscriber.cursor.2,
          state.log.startOf history state.log.head ≤ entry.2.2 → entry ∈ subscriber.read := by
  have hHolds := CommitLog.holds_new hNew
  have hFirst : log.startOf ([] : List T) log.head = 0 :=
    Nat.le_zero.mp (CommitLog.startOf_le _ _ _)
  have hStart : LogState.Refines ⟨log, []⟩ ([] : List T) Feed.State.empty :=
    { holds := hHolds
      items := rfl
      first := hFirst.symm
      length := rfl
      shows := by simp }
  obtain ⟨state, feed, hRun, hRefines, hFollowed⟩ := hStart.run Feed.State.followed_empty inputs
  rw [List.nil_append] at hRefines
  refine ⟨state, hRun, CommitLog.map_fst_stream _ _, fun subscriber hSubscriber => ?_⟩
  obtain ⟨number, hNumber⟩ := List.mem_iff_getElem?.mp hSubscriber
  have hBound : number < feed.readers.length :=
    hRefines.length ▸ (List.getElem?_eq_some_iff.mp hNumber).1
  have hReader := List.getElem?_eq_getElem hBound
  have hShows := hRefines.shows number subscriber _ hNumber hReader
  have hFollows := hFollowed.readers _ (List.mem_of_getElem? hReader)
  refine ⟨?_, ?_, ?_⟩
  · rw [hShows.since, hShows.position]
    exact hFollows.joined
  · exact hShows.settled.stop.trans (CommitLog.startOf_le _ _ _)
  · rw [hRefines.items, hRefines.first] at hFollows
    exact hShows.follows hFollows

/-- A subscriber that comes too late for the first of three segments. -/
def lateReader : List (LogInput PublishData) :=
  [.subscribe, .append (largeMessage 1), .append (largeMessage 2), .append (largeMessage 3),
    .read 0 5]

theorem subscribers_follow_late :
    ∃ log : CommitLog PublishData, CommitLog.new 1024 2 = ok log ∧
      ∃ state, lateReader.foldlM LogState.step ⟨log, []⟩ = ok state ∧
        let stream := state.log.stream [largeMessage 1, largeMessage 2, largeMessage 3]
        state.log.head = 1 ∧
          state.subscribers.map (fun subscriber => subscriber.read.map Prod.fst) =
            [[largeMessage 2, largeMessage 3]] ∧
          ∀ subscriber ∈ state.subscribers,
            ∀ entry ∈ Feed.stretch stream subscriber.start.2 subscriber.cursor.2,
              state.log.startOf [largeMessage 1, largeMessage 2, largeMessage 3] state.log.head ≤
                entry.2.2 → entry ∈ subscriber.read := by
  have hRead : ∃ log : CommitLog PublishData, CommitLog.new 1024 2 = ok log ∧
      (lateReader.foldlM LogState.step ⟨log, []⟩ >>= fun state => ok (state.log.head,
        state.subscribers.map fun subscriber => subscriber.read.map Prod.fst)) =
          ok (1, [[largeMessage 2, largeMessage 3]]) := ⟨_, rfl, by decide +kernel⟩
  obtain ⟨log, hNew, hRead⟩ := hRead
  obtain ⟨state, hRun, _, hState⟩ := subscribers_follow hNew lateReader
  rw [hRun, ok_bind, ok.injEq, Prod.mk.injEq] at hRead
  exact ⟨log, hNew, state, hRun, hRead.1, hRead.2, fun subscriber hSubscriber =>
    (hState subscriber hSubscriber).2.2.2⟩

end SnapEmu.Broker
