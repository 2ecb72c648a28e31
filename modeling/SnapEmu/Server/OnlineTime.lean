import Mathlib.Data.List.Chain
import SnapEmu.Semantics.Calculation
import SnapEmu.Server.Database

/-! Whether a device is online: by its period, or by the time between its last
two samples, in builds with and without overflow checks. -/
namespace SnapEmu.Server

open Device Management Semantics User Calculation

/-- Why a request ends without a response: a step has left the range of its
numbers, in a build with overflow checks, or has failed. -/
inductive Stop where
  | overflow
  | failed (error : ApiError)

/-- The milliseconds of a time, as an unsigned number. -/
def timestampMillis (time : Timestamp) : UInt64 := UInt64.ofInt (time.micros / 1000)

def cmpPeriod (checks : Bool) (period : Int32) (now : UInt64) (active : Option Timestamp) :
    Calculation Stop Bool :=
  match active with
  | none => return false
  | some active => do
      let elapsed ← sub checks .overflow now (timestampMillis active)
      let bound ← mul checks .overflow period.toInt64.toUInt64 2000
      return elapsed < bound

namespace DeviceService

/-- What `DEVICE_DATA_RAW_SQL` returns: of each device the last two samples, in
no particular order. -/
structure LastTwo (stored : List DeviceDataModel) (devices : List Id)
    (rows : List DeviceDataModel) : Prop where
  held : rows.Subperm (stored.filter fun row => row.deviceId ∈ devices)
  count : ∀ id ∈ devices, (rows.filter fun row => row.deviceId = id).length =
    min 2 (stored.filter fun row => row.deviceId = id).length
  last : ∀ row ∈ rows, ∀ other ∈ stored, other.deviceId = row.deviceId → other ∉ rows →
    other.createTime.micros ≤ row.createTime.micros

/-- The loop over the rows; `predata` is the row that a later one of its device
is compared with. -/
def onlineTimes (checks : Bool) : Option (Id × UInt64) → (Id → Option UInt64) →
    List DeviceDataModel → Calculation Stop (Id → Option UInt64)
  | _, times, [] => return times
  | none, times, data :: rest =>
      onlineTimes checks (some (data.deviceId, timestampMillis data.createTime)) times rest
  | some (preId, preTime), times, data :: rest =>
      if preId = data.deviceId then do
        let time ← sub checks .overflow preTime (timestampMillis data.createTime)
        onlineTimes checks (some (preId, preTime)) (Function.update times preId (some time)) rest
      else onlineTimes checks (some (data.deviceId, timestampMillis data.createTime)) times rest

def queryDeviceOnlineWithIds (checks : Bool) (devices : List Id) (rows : List DeviceDataModel) :
    Calculation Stop (Id → Option UInt64) :=
  if devices.isEmpty then return fun _ => none else onlineTimes checks none (fun _ => none) rows

/-- Of neighbours of one device the newer comes first. -/
def NewestFirst (rows : List DeviceDataModel) : Prop :=
  rows.IsChain fun first second => first.deviceId = second.deviceId →
    timestampMillis second.createTime ≤ timestampMillis first.createTime

/-- The time between neighbours of a device. -/
def sampleTime (id : Id) : List DeviceDataModel → Option UInt64
  | first :: second :: rest =>
      if first.deviceId = id ∧ second.deviceId = id then
        some (timestampMillis first.createTime - timestampMillis second.createTime)
      else sampleTime id (second :: rest)
  | _ => none

section

variable {row first second : DeviceDataModel} {rows rest : List DeviceDataModel} {id : Id}
  {checks : Bool}

/-- Samples are in order one after another. -/
theorem newestFirst_cons_cons :
    NewestFirst (first :: second :: rest) ↔
      (first.deviceId = second.deviceId →
        timestampMillis second.createTime ≤ timestampMillis first.createTime) ∧
          NewestFirst (second :: rest) :=
  List.isChain_cons_cons

/-- A row that is alone with its device. -/
theorem newestFirst_cons (h : ∀ other ∈ rows, row.deviceId ≠ other.deviceId) :
    NewestFirst (row :: rows) ↔ NewestFirst rows := by
  cases rows with
  | nil => exact ⟨fun _ => List.isChain_nil, fun _ => List.isChain_singleton row⟩
  | cons second rest =>
      rw [newestFirst_cons_cons]
      exact and_iff_right fun hSame => absurd hSame (h second List.mem_cons_self)

/-- A sample of another device does not matter. -/
theorem sampleTime_cons (h : ∀ other ∈ rows, row.deviceId ≠ other.deviceId) :
    sampleTime id (row :: rows) = sampleTime id rows := by
  cases rows with
  | nil => rfl
  | cons second rest =>
      refine if_neg fun hBoth => h second List.mem_cons_self ?_
      exact hBoth.1.trans hBoth.2.symm

/-- A device without samples has no time. -/
theorem sampleTime_none (h : ∀ other ∈ rows, other.deviceId ≠ id) : sampleTime id rows = none := by
  induction rows with
  | nil => rfl
  | cons row rows ih =>
      have hRest := ih fun other hOther => h other (List.mem_cons_of_mem row hOther)
      cases rows with
      | nil => rfl
      | cons second rest =>
          exact (if_neg fun hBoth => h row List.mem_cons_self hBoth.1).trans hRest

/-- Of each device there are at most two rows. -/
def AtMostTwo (rows : List DeviceDataModel) : Prop :=
  ∀ id, (rows.filter fun row => row.deviceId = id).length ≤ 2

theorem AtMostTwo.tail (h : AtMostTwo (row :: rows)) : AtMostTwo rows := fun id =>
  (((List.sublist_cons_self row rows).filter _).length_le).trans (h id)

/-- After two rows of a device there is none. -/
theorem AtMostTwo.other (h : AtMostTwo (first :: second :: rows))
    (hSame : first.deviceId = second.deviceId) :
    ∀ other ∈ rows, first.deviceId ≠ other.deviceId := by
  intro other hOther hEq
  have hPair : (first :: second :: rows).filter (fun row => row.deviceId = first.deviceId) =
      first :: second :: rows.filter fun row => row.deviceId = first.deviceId := by
    simp [hSame]
  have hTwo := h first.deviceId
  have hMem : other ∈ rows.filter fun row => row.deviceId = first.deviceId :=
    List.mem_filter.mpr ⟨hOther, decide_eq_true hEq.symm⟩
  have hPos := List.length_pos_of_mem hMem
  rw [hPair, List.length_cons, List.length_cons] at hTwo
  omega

/-- The rest of the loop, seen from the row that it compares with. -/
theorem onlineTimes_cases (times : Id → Option UInt64) (hTwo : AtMostTwo (row :: rows)) :
    (NewestFirst (row :: rows) ∧ ∃ found,
      onlineTimes checks (some (row.deviceId, timestampMillis row.createTime)) times rows =
          pure found ∧
        ∀ id, found id = (sampleTime id (row :: rows)).or (times id)) ∨
    (¬NewestFirst (row :: rows) ∧
      (onlineTimes checks (some (row.deviceId, timestampMillis row.createTime)) times
        rows).underflowed = true) := by
  induction rows generalizing row times with
  | nil => exact .inl ⟨List.isChain_singleton row, times, rfl, fun _ => rfl⟩
  | cons data rest ih =>
      rw [onlineTimes]
      by_cases hSame : row.deviceId = data.deviceId
      · have hRow := hTwo.other hSame
        have hData : ∀ other ∈ rest, data.deviceId ≠ other.deviceId := hSame ▸ hRow
        rw [if_pos hSame, newestFirst_cons_cons, newestFirst_cons hData]
        by_cases hOrder : timestampMillis data.createTime ≤ timestampMillis row.createTime
        · rw [sub_of_le hOrder, value_bind, and_iff_right fun _ => hOrder]
          have hRest : AtMostTwo (row :: rest) := fun id =>
            ((((List.sublist_cons_self data rest).cons_cons row).filter _).length_le).trans
              (hTwo id)
          have hRun := ih (Function.update times row.deviceId
            (some (timestampMillis row.createTime - timestampMillis data.createTime))) hRest
          rw [newestFirst_cons hRow] at hRun
          refine hRun.imp_left fun hFound => ?_
          obtain ⟨hNewest, found, hFound, hTimes⟩ := hFound
          refine ⟨hNewest, found, hFound, fun id => ?_⟩
          rw [hTimes id, sampleTime_cons hRow, sampleTime]
          by_cases hId : row.deviceId = id
          · rw [if_pos ⟨hId, hSame ▸ hId⟩, sampleTime_none fun other hOther hOtherId =>
              hRow other hOther (hId.trans hOtherId.symm), hId, Function.update_self]
            rfl
          · rw [if_neg fun hBoth => hId hBoth.1, sampleTime_cons hData,
              Function.update_of_ne (Ne.symm hId)]
        · exact .inr ⟨fun hNewest => hOrder (hNewest.1 hSame),
            underflowed_bind (underflowed_sub hOrder) _⟩
      · rw [if_neg hSame, newestFirst_cons_cons, and_iff_right fun hEq => absurd hEq hSame]
        refine (ih times hTwo.tail).imp_left fun hFound => ?_
        obtain ⟨hNewest, found, hFound, hTimes⟩ := hFound
        refine ⟨hNewest, found, hFound, fun id => ?_⟩
        rw [hTimes id, sampleTime, if_neg fun hBoth => hSame (hBoth.1.trans hBoth.2.symm)]

/-- The query returns two samples of a device at most. -/
theorem LastTwo.atMostTwo {stored : List DeviceDataModel} {devices : List Id}
    (h : LastTwo stored devices rows) : AtMostTwo rows := by
  intro id
  by_cases hId : id ∈ devices
  · rw [h.count id hId]
    exact Nat.min_le_left 2 _
  · have hNone : rows.filter (fun row => row.deviceId = id) = [] := by
      refine List.filter_eq_nil_iff.mpr fun row hRow hRowId => hId ?_
      have hDevice := (List.mem_filter.mp (h.held.subset hRow)).2
      rw [decide_eq_true_eq] at hRowId hDevice
      exact hRowId ▸ hDevice
    rw [hNone]
    exact Nat.zero_le 2

/-- The times are those between neighbours, and they underflow exactly where
neighbours of a device do not come newest first. -/
theorem queryDeviceOnlineWithIds_cases {stored : List DeviceDataModel} {devices : List Id}
    (h : LastTwo stored devices rows) :
    (NewestFirst rows ∧ ∃ found, queryDeviceOnlineWithIds checks devices rows = pure found ∧
      ∀ id, found id = sampleTime id rows) ∨
    (¬NewestFirst rows ∧
      (queryDeviceOnlineWithIds checks devices rows).underflowed = true) := by
  unfold queryDeviceOnlineWithIds
  cases rows with
  | nil =>
      refine .inl ⟨List.isChain_nil, fun _ => none, ?_, fun _ => rfl⟩
      split_ifs <;> rfl
  | cons row rest =>
      have hDevice := (List.mem_filter.mp (h.held.subset (List.mem_cons_self))).2
      have hSome : devices.isEmpty = false := by
        rw [List.isEmpty_eq_false_iff]
        exact List.ne_nil_of_mem (of_decide_eq_true hDevice)
      rw [hSome, if_neg Bool.false_ne_true, onlineTimes]
      refine (onlineTimes_cases _ h.atMostTwo).imp_left fun hFound => ?_
      obtain ⟨hNewest, found, hFound, hTimes⟩ := hFound
      exact ⟨hNewest, found, hFound, fun id => (hTimes id).trans (Option.or_none)⟩

end

end DeviceService
end SnapEmu.Server
