import SnapEmu.Broker.CommitLog

/-! Reading a log from a cursor: whatever the cursor, what is read is a stretch
of the stream of all messages, each with its offset. -/
namespace SnapEmu.Broker

open Semantics Exec Chunks

variable {T : Type}

namespace Segment

/-- The messages of a segment with their offsets. -/
def entries (index : Nat) (segment : Segment T) : List (T × Offset) :=
  (segment.data.zipIdx segment.absoluteOffset).map fun entry => (entry.1, index, entry.2)

@[simp] theorem entries_length (index : Nat) (segment : Segment T) :
    (segment.entries index).length = segment.len := by
  simp [entries, len]

/-- An entry of a segment has its place and its offset. -/
theorem getElem?_entries (index position : Nat) (segment : Segment T) :
    (segment.entries index)[position]? =
      segment.data[position]?.map fun item => (item, index, segment.absoluteOffset + position) := by
  simp [entries, Function.comp_def]

/-- From a place within a segment the entries go on there. -/
theorem entries_drop (index : Nat) {segment : Segment T} {position : Nat}
    (h : position < segment.len) : ∃ item rest,
      (segment.entries index).drop position =
        (item, index, segment.absoluteOffset + position) :: rest := by
  have hLength : position < (segment.entries index).length := by rwa [entries_length]
  have hItem : position < segment.data.length := h
  have hEntry : (segment.entries index)[position] =
      (segment.data[position], index, segment.absoluteOffset + position) := by
    rw [← Option.some_inj, ← List.getElem?_eq_getElem hLength, getElem?_entries,
      List.getElem?_eq_getElem hItem]
    rfl
  exact ⟨segment.data[position], (segment.entries index).drop (position + 1), by
    rw [List.drop_eq_getElem_cons hLength, hEntry]⟩

/-- A read within a segment gives the entries from the cursor on. -/
theorem readv_eq (segment : Segment T) (cursor : Cursor) (len : Nat)
    (hStart : segment.absoluteOffset ≤ cursor.2) :
    segment.readv cursor len = ok
      (if segment.nextOffset ≤ cursor.2 + len then .done segment.nextOffset
        else .next (cursor.2 + len),
      ((segment.entries cursor.1).drop (cursor.2 - segment.absoluteOffset)).take len) := by
  obtain ⟨index, offset⟩ := cursor
  obtain ⟨idx, rfl⟩ := Nat.exists_eq_add_of_le hStart
  dsimp only at hStart ⊢
  rw [readv, if_neg (by dsimp only; omega)]
  dsimp only
  rw [Nat.add_sub_cancel_left]
  by_cases hIdx : segment.len ≤ idx
  · have hEnd : segment.nextOffset ≤ segment.absoluteOffset + idx + len := by
      rw [nextOffset]
      omega
    have hNothing : (segment.entries index).drop idx = [] :=
      List.drop_eq_nil_of_le (by rw [entries_length]; exact hIdx)
    rw [if_pos hIdx, if_pos hEnd, hNothing, List.take_nil]
  · have hSlice : (slice segment.data idx (min (idx + len) segment.len) : Exec Empty (List T)) =
        ok ((segment.data.drop idx).take (min (idx + len) segment.len - idx)) :=
      if_pos ⟨by omega, by rw [Segment.len]; omega⟩
    have hEnd : segment.len ≤ idx + len ↔
        segment.nextOffset ≤ segment.absoluteOffset + idx + len := by
      rw [nextOffset]
      omega
    rw [if_neg hIdx, hSlice, ok_bind]
    congr 2
    · simp only [hEnd, Nat.add_assoc]
    · apply List.ext_getElem?
      intro position
      rw [List.zip_eq_zipWith, List.getElem?_zipWith]
      simp only [List.getElem?_take, List.getElem?_drop, List.getElem?_map, getElem?_entries]
      by_cases hRead : position < min (idx + len) segment.len - idx
      · have hLen : position < len := by omega
        have hItem : idx + position < segment.data.length := by
          rw [← Segment.len]
          omega
        rw [if_pos hRead, if_pos hLen, List.getElem?_range' (by omega),
          List.getElem?_eq_getElem hItem, Nat.one_mul, Nat.add_assoc]
        rfl
      · rw [if_neg hRead]
        split_ifs with hLen
        · have hNone : segment.data[idx + position]? = none := by
            rw [List.getElem?_eq_none_iff, ← Segment.len]
            omega
          rw [hNone]
          rfl
        · rfl

end Segment

/-- The messages of segments, the first of them with the given index. -/
def entries : Nat → List (Segment T) → List (T × Offset)
  | _, [] => []
  | index, segment :: segments => segment.entries index ++ entries (index + 1) segments

/-- Entries of segments one after another. -/
theorem entries_append (index : Nat) (first second : List (Segment T)) :
    entries index (first ++ second) =
      entries index first ++ entries (index + first.length) second := by
  induction first generalizing index with
  | nil => rfl
  | cons segment first ih =>
      rw [List.cons_append, entries, entries, ih, List.append_assoc, List.length_cons,
        Nat.add_assoc, Nat.add_comm 1]

/-- Where the segments end. -/
def stopOf : Segment T → List (Segment T) → Nat
  | segment, [] => segment.nextOffset
  | _, segment :: segments => stopOf segment segments

/-- Contiguous segments of which only the first may be empty. -/
def Contiguous : Segment T → List (Segment T) → Prop
  | _, [] => True
  | first, segment :: segments =>
      segment.absoluteOffset = first.nextOffset ∧ 0 < segment.len ∧ Contiguous segment segments

/-- Contiguous segments have an entry for each offset. -/
theorem length_entries {first : Segment T} {segments : List (Segment T)}
    (h : Contiguous first segments) (index : Nat) :
    first.absoluteOffset + (entries index (first :: segments)).length = stopOf first segments := by
  induction segments generalizing first index with
  | nil => simp [entries, stopOf, Segment.nextOffset]
  | cons segment segments ih =>
      obtain ⟨hNext, _, hRest⟩ := h
      have hLength := ih hRest (index + 1)
      rw [entries, List.length_append, Segment.entries_length, stopOf, ← hLength, hNext,
        Segment.nextOffset, Nat.add_assoc]

/-- Contiguous segments end after their first. -/
theorem stopOf_le {first : Segment T} {segments : List (Segment T)}
    (h : Contiguous first segments) : first.nextOffset ≤ stopOf first segments := by
  rw [← length_entries h 0, entries, List.length_append, Segment.entries_length, Segment.nextOffset]
  omega

/-- The position behind a read: the offset of the first message not read. -/
def positionAfter (start : Cursor) (unread : List (T × Offset)) (stop : Cursor) : Position :=
  match unread with
  | [] => .done start stop
  | (_, offset) :: _ => .next start offset

namespace CommitLog

/-- A segment that is there is indexed. -/
theorem index_of_drop {log : CommitLog T} {segment : Segment T} {segments : List (Segment T)}
    {idx : Nat} (h : log.segments.drop idx = segment :: segments) :
    (index log.segments idx : Exec Empty (Segment T)) = ok segment := by
  rw [index_eq_ok, ← List.head?_drop, h]
  rfl

/-- The read from the active segment. -/
theorem readSegments_last (log : CommitLog T) (start : Cursor) {segment : Segment T} {idx : Nat}
    (hIdx : log.segments.drop idx = [segment]) {cursor : Cursor}
    (hCursor : segment.absoluteOffset ≤ cursor.2) (len : Nat) (out : List (T × Offset)) :
    let stream := (segment.entries cursor.1).drop (cursor.2 - segment.absoluteOffset)
    log.readSegments start 0 idx cursor len out = ok
      (positionAfter start (stream.drop len) (cursor.1, max cursor.2 segment.nextOffset),
        out ++ stream.take len) := by
  intro stream
  have hLength : stream.length = segment.nextOffset - cursor.2 := by
    rw [List.length_drop, Segment.entries_length, Segment.nextOffset]
    omega
  rw [readSegments, index_of_drop hIdx, ok_bind]
  split_ifs with hEnd
  · have hNothing : stream = [] := List.length_eq_zero_iff.mp (by omega)
    rw [hNothing, List.drop_nil, List.take_nil, List.append_nil, positionAfter,
      Nat.max_eq_left hEnd]
  · rw [Segment.readv_eq _ _ _ hCursor, ok_bind]
    split_ifs with hMore
    · have hRest : stream.drop len = [] := List.drop_eq_nil_of_le (by omega)
      rw [hRest, positionAfter, Nat.max_eq_right (by omega)]
    · have hInside : cursor.2 - segment.absoluteOffset + len < segment.len := by
        rw [Segment.nextOffset] at hMore
        omega
      obtain ⟨item, rest, hRest⟩ := Segment.entries_drop cursor.1 hInside
      have hOffset : segment.absoluteOffset + (cursor.2 - segment.absoluteOffset + len) =
          cursor.2 + len := by omega
      rw [hOffset] at hRest
      rw [List.drop_drop, hRest]
      rfl

/-- The read from a segment on, with the cursor behind its start. A cursor
behind the end of a segment that is not the last one is put on its end. -/
theorem readSegments_eq (log : CommitLog T) (start : Cursor) {segment : Segment T}
    {segments : List (Segment T)} (hContiguous : Contiguous segment segments) {idx : Nat}
    (hIdx : log.segments.drop idx = segment :: segments) {cursor : Cursor}
    (hCursor : segment.absoluteOffset ≤ cursor.2) (len : Nat) (out : List (T × Offset)) :
    let point := if segments = [] then cursor.2 else min cursor.2 segment.nextOffset
    let stream := (entries cursor.1 (segment :: segments)).drop (point - segment.absoluteOffset)
    log.readSegments start segments.length idx cursor len out = ok
      (positionAfter start (stream.drop len)
        (cursor.1 + segments.length, max point (stopOf segment segments)),
        out ++ stream.take len) := by
  induction segments generalizing segment idx cursor len out with
  | nil =>
      intro point stream
      have hPoint : point = cursor.2 := if_pos rfl
      have hStream : stream =
          (segment.entries cursor.1).drop (cursor.2 - segment.absoluteOffset) := by
        simp [stream, entries, hPoint]
      rw [hStream, hPoint]
      exact log.readSegments_last start hIdx hCursor len out
  | cons other segments ih =>
      intro point stream
      obtain ⟨hNext, hSome, hRest⟩ := hContiguous
      have hPoint : point = min cursor.2 segment.nextOffset := if_neg (List.cons_ne_nil _ _)
      have hStart : segment.nextOffset = segment.absoluteOffset + segment.len := rfl
      have hHere : (segment.entries cursor.1).drop (point - segment.absoluteOffset) =
          (segment.entries cursor.1).drop (cursor.2 - segment.absoluteOffset) := by
        by_cases hBefore : cursor.2 ≤ segment.nextOffset
        · rw [hPoint, Nat.min_eq_left hBefore]
        · rw [List.drop_eq_nil_of_le, List.drop_eq_nil_of_le] <;>
            rw [Segment.entries_length] <;> omega
      have hStream : stream =
          (segment.entries cursor.1).drop (cursor.2 - segment.absoluteOffset) ++
            entries (cursor.1 + 1) (other :: segments) := by
        rw [← hHere]
        refine List.drop_append_of_le_length ?_
        rw [Segment.entries_length]
        omega
      have hLength : ((segment.entries cursor.1).drop
          (cursor.2 - segment.absoluteOffset)).length = segment.nextOffset - point := by
        rw [← hHere, List.length_drop, Segment.entries_length]
        omega
      have hStop : segment.nextOffset ≤ stopOf other segments := by
        have hOther : other.nextOffset = other.absoluteOffset + other.len := rfl
        have hLe := stopOf_le hRest
        omega
      have hPointStop : point ≤ segment.nextOffset := hPoint ▸ Nat.min_le_right _ _
      rw [List.length_cons, readSegments, index_of_drop hIdx, ok_bind,
        Segment.readv_eq _ _ _ hCursor, ok_bind, hStream]
      split_ifs with hMore
      · -- The segment is read to its end, and the loop goes on with what is left of `len`.
        have hLen : (if cursor.2 ≤ segment.nextOffset then
              if len < segment.nextOffset - cursor.2 then panic
              else ok (len - (segment.nextOffset - cursor.2))
            else ok len : Exec Empty Nat) = ok (len - (segment.nextOffset - point)) := by
          split_ifs with hBefore hShort
          · omega
          · rw [hPoint, Nat.min_eq_left hBefore]
          · rw [hPoint, Nat.min_eq_right (by omega), Nat.sub_self, Nat.sub_zero]
        have hFits : segment.nextOffset - point ≤ len := by omega
        have hTaken := List.take_of_length_le (hLength.trans_le hFits)
        have hDropped := List.drop_eq_nil_of_le (hLength.trans_le hFits)
        dsimp only
        rw [hLen, ok_bind, List.take_append, List.drop_append, hLength, hTaken, hDropped,
          List.nil_append]
        split_ifs with hDone
        · obtain ⟨item, rest, hFirst⟩ := Segment.entries_drop (cursor.1 + 1) hSome
          rw [List.drop_zero, Nat.add_zero, hNext] at hFirst
          rw [hDone, List.drop_zero, List.take_zero, List.append_nil, entries, hFirst]
          rfl
        · have hIdxNext : log.segments.drop (idx + 1) = other :: segments := by
            rw [← List.drop_drop, hIdx]
            rfl
          have hNextCursor : other.absoluteOffset ≤
              ((cursor.1 + 1, segment.nextOffset) : Cursor).2 := le_of_eq hNext
          have hRead := ih hRest hIdxNext hNextCursor (len - (segment.nextOffset - point))
            (out ++ (segment.entries cursor.1).drop (cursor.2 - segment.absoluteOffset))
          have hHead : (if segments = [] then segment.nextOffset
              else min segment.nextOffset other.nextOffset) = segment.nextOffset := by
            split_ifs
            · rfl
            · exact Nat.min_eq_left (by rw [Segment.nextOffset, Segment.nextOffset, hNext]; omega)
          dsimp only at hRead
          rw [hHead, hNext, Nat.sub_self, List.drop_zero] at hRead
          rw [hRead, List.append_assoc, stopOf, Nat.max_eq_right hStop,
            Nat.max_eq_right (hPointStop.trans hStop), Nat.add_assoc, Nat.add_comm 1]
      · have hInside : cursor.2 - segment.absoluteOffset + len < segment.len := by omega
        obtain ⟨item, rest, hFirst⟩ := Segment.entries_drop cursor.1 hInside
        have hOffset : segment.absoluteOffset + (cursor.2 - segment.absoluteOffset + len) =
            cursor.2 + len := by omega
        rw [hOffset] at hFirst
        rw [List.take_append_of_le_length (by omega), List.drop_append_of_le_length (by omega),
          List.drop_drop, hFirst]
        rfl

section Stream

variable [Storage T]

/-- A layout has an entry for each message. -/
theorem length_entries_layout (index offset : Nat) (chunks : List (List T)) :
    (entries index (layout offset chunks)).length = chunks.flatten.length := by
  induction chunks generalizing index offset with
  | nil => rfl
  | cons chunk chunks ih =>
      rw [layout, entries, List.length_append, Segment.entries_length, ih, List.flatten_cons,
        List.length_append]
      rfl

/-- The entries of a layout are its messages. -/
theorem map_fst_entries_layout (index offset : Nat) (chunks : List (List T)) :
    (entries index (layout offset chunks)).map Prod.fst = chunks.flatten := by
  induction chunks generalizing index offset with
  | nil => rfl
  | cons chunk chunks ih =>
      rw [layout, entries, List.map_append, ih, List.flatten_cons, Segment.entries, List.map_map]
      congr 1
      exact List.zipIdx_map_fst _ _

/-- The offsets of the stream count its messages. -/
theorem offset_entries_layout {index offset position : Nat} {chunks : List (List T)}
    {entry : T × Offset} (h : (entries index (layout offset chunks))[position]? = some entry) :
    entry.2.2 = offset + position := by
  induction chunks generalizing index offset position with
  | nil => simp [entries] at h
  | cons chunk chunks ih =>
      rw [layout, entries] at h
      by_cases hHere : position < chunk.length
      · rw [List.getElem?_append_left (by rwa [Segment.entries_length]), Segment.getElem?_entries,
          Option.map_eq_some_iff] at h
        obtain ⟨item, _, rfl⟩ := h
        rfl
      · have hLength : (Segment.entries index
            { data := chunk, totalSize := total Storage.size chunk, absoluteOffset := offset }
            ).length = chunk.length := Segment.entries_length _ _
        rw [List.getElem?_append_right (by omega), hLength] at h
        rw [ih h]
        omega

/-- A layout of chunks that are not empty is contiguous. -/
theorem contiguous_layout (offset : Nat) (chunk : List T) {chunks : List (List T)}
    (h : ∀ other ∈ chunks, other ≠ []) :
    Contiguous
      { data := chunk, totalSize := total Storage.size chunk, absoluteOffset := offset }
      (layout (offset + chunk.length) chunks) := by
  induction chunks generalizing chunk offset with
  | nil => trivial
  | cons other chunks ih =>
      refine ⟨rfl, List.length_pos_iff.mpr (h other List.mem_cons_self), ?_⟩
      exact ih _ _ fun next hNext => h next (List.mem_cons_of_mem _ hNext)

/-- All messages there ever were, with their offsets. -/
def stream (log : CommitLog T) (history : List T) : List (T × Offset) :=
  entries 0 (layout 0 (log.division history).chunks)

/-- The offset a segment starts with. -/
def startOf (log : CommitLog T) (history : List T) (idx : Nat) : Nat :=
  offset (log.division history).chunks idx

/-- Where a read from a cursor begins. -/
def clamp (log : CommitLog T) (history : List T) (cursor : Cursor) : Cursor :=
  if cursor.1 < log.head then (log.head, log.startOf history log.head)
  else (cursor.1, max cursor.2 (log.startOf history cursor.1))

/-- The place in the stream where a read begins. -/
def target (log : CommitLog T) (history : List T) (cursor : Cursor) : Nat :=
  let cursor := log.clamp history cursor
  if cursor.1 < log.tail then min cursor.2 (log.startOf history (cursor.1 + 1)) else cursor.2

variable {log : CommitLog T} {history : List T}

@[simp] theorem stream_length (log : CommitLog T) (history : List T) :
    (log.stream history).length = history.length := by
  rw [stream, length_entries_layout, division, flatten_chunks]

/-- The stream is the history. -/
@[simp] theorem map_fst_stream (log : CommitLog T) (history : List T) :
    (log.stream history).map Prod.fst = history := by
  rw [stream, map_fst_entries_layout, division, flatten_chunks]

/-- No segment starts after the history. -/
theorem startOf_le (log : CommitLog T) (history : List T) (idx : Nat) :
    log.startOf history idx ≤ history.length := by
  have hSplit := congrArg (fun chunks => chunks.flatten.length)
    (List.take_append_drop idx (log.division history).chunks)
  have hAll : (log.division history).chunks.flatten = history := flatten_chunks _ _ history
  simp only [List.flatten_append, List.length_append, hAll] at hSplit
  rw [startOf, offset]
  omega

theorem offset_of_stream {position : Nat} {entry : T × Offset}
    (h : (log.stream history)[position]? = some entry) : entry.2.2 = position := by
  rw [offset_entries_layout h, Nat.zero_add]

/-- What is behind the start of a segment. -/
theorem entries_drop_layout {idx : Nat} (hIdx : idx ≤ (log.division history).chunks.length) :
    entries idx ((layout 0 (log.division history).chunks).drop idx) =
      (log.stream history).drop (log.startOf history idx) := by
  have hSplit := layout_append 0 ((log.division history).chunks.take idx)
    ((log.division history).chunks.drop idx)
  rw [List.take_append_drop] at hSplit
  rw [layout_drop, stream, hSplit, entries_append, layout_length, List.length_take,
    Nat.min_eq_left hIdx, Nat.zero_add, Nat.zero_add]
  refine (List.drop_left' ?_).symm
  rw [length_entries_layout, startOf, offset]

/-- The segments from one that is in memory on. -/
theorem Holds.segments_drop (h : log.Holds history) {idx : Nat} (hHead : log.head ≤ idx)
    (hTail : idx ≤ log.tail) :
    ∃ segment segments, log.segments.drop (idx - log.head) = segment :: segments ∧
      segments.length = log.tail - idx ∧ Contiguous segment segments ∧
      segment.absoluteOffset = log.startOf history idx ∧
      segment.nextOffset = log.startOf history (idx + 1) ∧
      stopOf segment segments = history.length := by
  have hLength := h.length_chunks
  have hIdx : idx < (log.division history).chunks.length := by omega
  have hCut := List.drop_eq_getElem_cons hIdx
  have hAll : log.segments.drop (idx - log.head) =
      (layout 0 (log.division history).chunks).drop idx := by
    rw [h.segments, List.drop_drop, Nat.add_sub_cancel' hHead]
  have hEntries := congrArg List.length (entries_drop_layout hIdx.le)
  rw [layout_drop, hCut, layout, Nat.zero_add] at hAll hEntries
  have hContiguous : Contiguous
      { data := (log.division history).chunks[idx]
        totalSize := total Storage.size (log.division history).chunks[idx]
        absoluteOffset := log.startOf history idx }
      (layout (log.startOf history idx + (log.division history).chunks[idx].length)
        ((log.division history).chunks.drop (idx + 1))) := by
    refine contiguous_layout _ _ fun other hOther => ?_
    have hLimit : 0 < log.maxSegmentSize := lt_of_lt_of_le (by decide) log.hSegmentSize
    refine ne_nil_of_mem_chunks hLimit ?_ (List.mem_of_mem_drop hOther)
    rintro rfl
    have hOne : (log.division ([] : List T)).chunks.length = 1 := rfl
    rw [List.drop_eq_nil_of_le (by omega)] at hOther
    exact absurd hOther List.not_mem_nil
  refine ⟨_, _, hAll, ?_, hContiguous, rfl, ?_, ?_⟩
  · rw [layout_length, List.length_drop]
    omega
  · rw [startOf, offset, List.take_succ_eq_append_getElem hIdx, List.flatten_concat,
      List.length_append]
    rfl
  · have hStop := length_entries hContiguous idx
    rw [List.length_drop, stream_length] at hEntries
    have hStart := startOf_le log history idx
    refine hStop.symm.trans ?_
    exact (congrArg (log.startOf history idx + ·) hEntries).trans (Nat.add_sub_cancel' hStart)

/-- A read from any cursor of the log is the next stretch of the stream, with
where to go on: at the offset of the first message not read, or at the end. -/
theorem Holds.readv_eq (h : log.Holds history) {cursor : Cursor} (hCursor : cursor.1 ≤ log.tail)
    (len : Nat) :
    let unread := (log.stream history).drop (log.target history cursor)
    log.readv cursor len = ok
      (positionAfter (log.clamp history cursor) (unread.drop len)
        (log.tail, max (log.target history cursor) history.length), unread.take len) := by
  intro unread
  have hHeadTail := h.head_le
  have hBounds : log.head ≤ (log.clamp history cursor).1 ∧
      (log.clamp history cursor).1 ≤ log.tail := by
    unfold clamp
    split_ifs with hOld
    · exact ⟨le_refl _, hHeadTail⟩
    · exact ⟨not_lt.mp hOld, hCursor⟩
  obtain ⟨segment, segments, hDrop, hCount, hContiguous, hStart, hNext, hStop⟩ :=
    h.segments_drop hBounds.1 hBounds.2
  have hOld : (if cursor.1 < log.head then
        index log.segments 0 >>= fun front => ok (log.head, front.absoluteOffset)
      else ok cursor : Exec Empty Cursor) =
        ok ((log.clamp history cursor).1,
          if cursor.1 < log.head then log.startOf history log.head else cursor.2) := by
    unfold clamp
    split_ifs with hGone
    · obtain ⟨front, rest, hFront, _, _, hFrontStart, _⟩ := h.segments_drop le_rfl hHeadTail
      rw [Nat.sub_self] at hFront
      rw [index_of_drop hFront, ok_bind, hFrontStart]
    · rfl
  have hClamp : ((log.clamp history cursor).1,
      max (if cursor.1 < log.head then log.startOf history log.head else cursor.2)
        segment.absoluteOffset) = log.clamp history cursor := by
    rw [hStart]
    unfold clamp
    split_ifs
    · rw [Nat.max_self]
    · rfl
  have hTarget : log.target history cursor =
      if segments = [] then (log.clamp history cursor).2
      else min (log.clamp history cursor).2 segment.nextOffset := by
    have hLast : segments = [] ↔ ¬(log.clamp history cursor).1 < log.tail := by
      rw [← List.length_eq_zero_iff]
      omega
    rw [target, hNext]
    simp only [hLast, ite_not]
  have hStartLe : segment.absoluteOffset ≤ (log.clamp history cursor).2 := by
    rw [← hClamp]
    exact Nat.le_max_right _ _
  have hStream : (entries (log.clamp history cursor).1 (segment :: segments)).drop
      (log.target history cursor - segment.absoluteOffset) = unread := by
    have hChunks := h.length_chunks
    have hAll : log.segments.drop ((log.clamp history cursor).1 - log.head) =
        (layout 0 (log.division history).chunks).drop (log.clamp history cursor).1 := by
      rw [h.segments, List.drop_drop, Nat.add_sub_cancel' hBounds.1]
    have hStop : segment.absoluteOffset ≤ segment.nextOffset := Nat.le_add_right _ _
    rw [← hDrop, hAll, entries_drop_layout (by omega), List.drop_drop, ← hStart,
      Nat.add_sub_cancel']
    rw [hTarget]
    split_ifs
    · exact hStartLe
    · exact Nat.le_min.mpr ⟨hStartLe, hStop⟩
  have hRead := log.readSegments_eq (log.clamp history cursor) hContiguous hDrop hStartLe len []
  dsimp only at hRead
  rw [← hTarget, hStream, hStop, hCount, Nat.add_sub_cancel' hBounds.2, List.nil_append] at hRead
  rw [readv, if_neg (not_lt.mpr hCursor), hOld, ok_bind, index_of_drop hDrop, ok_bind]
  dsimp only
  rw [hClamp]
  exact hRead

omit [Storage T] in
/-- A cursor behind the log reads nothing and stays. -/
theorem readv_behind (log : CommitLog T) {cursor : Cursor} (hCursor : log.tail < cursor.1)
    (len : Nat) : log.readv cursor len = ok (.done cursor cursor, []) :=
  if_pos hCursor

/-- Whatever was appended and whatever the cursor, a read does not fail, and is
a stretch of the stream, whose messages are numbered in the order they came. -/
theorem readv_after_appends {maxSegmentSize maxMemSegments : Nat}
    (hNew : new maxSegmentSize maxMemSegments = ok log) (messages : List T) (cursor : Cursor)
    (len : Nat) :
    let log := log.extend messages
    let stream := log.stream messages
    let unread := stream.drop (log.target messages cursor)
    stream.map Prod.fst = messages ∧
      (∀ (position : Nat) entry, stream[position]? = some entry → entry.2.2 = position) ∧
      log.readv cursor len = ok
        (if log.tail < cursor.1 then (.done cursor cursor, [])
        else (positionAfter (log.clamp messages cursor) (unread.drop len)
          (log.tail, max (log.target messages cursor) messages.length), unread.take len)) := by
  have hHolds : (log.extend messages).Holds messages := (holds_new hNew).extend messages
  refine ⟨map_fst_stream _ _, fun position entry => offset_of_stream, ?_⟩
  split_ifs with hBehind
  · exact readv_behind _ hBehind len
  · exact hHolds.readv_eq (not_lt.mp hBehind) len

/-- A read from the start of a log whose first segment is gone. -/
theorem readv_after_appends_three :
    ∃ log : CommitLog PublishData, new 1024 2 = ok log ∧
      (log.extend [largeMessage 1, largeMessage 2, largeMessage 3]).readv (0, 0) 1 =
        ok (.next (1, 1) (2, 2), [(largeMessage 2, 1, 1)]) := by
  have hNew : (new 1024 2 : Exec Empty (CommitLog PublishData)) = ok _ := rfl
  have hRead := readv_after_appends hNew [largeMessage 1, largeMessage 2, largeMessage 3] (0, 0) 1
  exact ⟨_, hNew, hRead.2.2.trans (by decide +kernel)⟩

end Stream
end CommitLog
end SnapEmu.Broker
