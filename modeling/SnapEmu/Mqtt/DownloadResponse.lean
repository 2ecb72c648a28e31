import SnapEmu.Device.Types
import SnapEmu.Semantics.Registry
import SnapEmu.Semantics.Run

/-! Forwarded downlinks that wait for the next uplink of their device. Each
access to the table of their senders locks it anew. -/
namespace SnapEmu.Mqtt

open Device Semantics Registry

/-- The table holds the calls whose senders stand in it. -/
structure DownloadResponse where
  data : Eui → Option Nat

namespace DownloadResponse

def has (table : DownloadResponse) (eui : Eui) : Bool := (table.data eui).isSome

def get (table : DownloadResponse) (eui : Eui) : Option Nat × DownloadResponse :=
  (table.data eui, { data := Function.update table.data eui none })

/-- The sender that stood there before is returned, and dropped by the caller. -/
def insert (table : DownloadResponse) (eui : Eui) (call : Nat) : Option Nat × DownloadResponse :=
  (table.data eui, { data := Function.update table.data eui (some call) })

/-- Taking a sender clears its slot. -/
theorem get_data (table : DownloadResponse) (eui slot : Eui) (call : Nat) :
    (table.get eui).2.data slot = some call ↔ slot ≠ eui ∧ table.data slot = some call := by
  unfold get
  by_cases hSlot : slot = eui
  · subst hSlot
    simp [Function.update_self]
  · dsimp only
    rw [Function.update_of_ne hSlot]
    simp [hSlot]

/-- Inserting a sender fills its slot. -/
theorem insert_data (table : DownloadResponse) (eui slot : Eui) (call owner : Nat) :
    (table.insert eui call).2.data slot = some owner ↔
      (slot = eui ∧ owner = call) ∨ (slot ≠ eui ∧ table.data slot = some owner) := by
  unfold insert
  by_cases hSlot : slot = eui
  · subst hSlot
    simp [Function.update_self, eq_comm]
  · dsimp only
    rw [Function.update_of_ne hSlot]
    simp [hSlot]

end DownloadResponse

/-- Where a call of `process_downlink` stands. `expired` is the time between
the end of its wait and the removal of its entry. -/
inductive CallPhase where
  | started | checked | waiting | expired | returned
  deriving DecidableEq

namespace CallPhase

/-- The call has a sender in the table, or had one that was taken, and has
not dealt with it. -/
def pending : CallPhase → Bool
  | .waiting | .expired => true
  | .started | .checked | .returned => false

def entered : CallPhase → Bool
  | .started | .checked => false
  | .waiting | .expired | .returned => true

end CallPhase

structure Call where
  eui : Eui
  timeout : UInt32
  phase : CallPhase
  deriving DecidableEq

/-- `taken` holds the senders that uplinks have taken and not used yet,
`dropped` which call dropped the sender of which. -/
structure ForwardState where
  table : DownloadResponse
  calls : Nat → Option Call
  taken : Nat → Option Nat
  dropped : List (Nat × Nat)

inductive ForwardEvent where
  | start (call : Nat) (eui : Eui) (timeout : UInt32)
  | check (call : Nat)
  | insert (call : Nat)
  | expire (call : Nat)
  | clean (call : Nat)
  | take (uplink : Nat) (eui : Eui)
  | send (uplink : Nat)
  deriving DecidableEq

namespace ForwardState

def initial : ForwardState :=
  { table := { data := fun _ => none }, calls := fun _ => none, taken := fun _ => none,
    dropped := [] }

def set (state : ForwardState) (number : Nat) (call : Call) : ForwardState :=
  { state with calls := Function.update state.calls number (some call) }

/-- The table after an access by a call, which drops the sender it was given. -/
def access (state : ForwardState) (number : Nat) (result : Option Nat × DownloadResponse) :
    ForwardState :=
  { state with
    table := result.2, dropped := result.1.toList.map (number, ·) ++ state.dropped }

end ForwardState

def startCall (state : ForwardState) (number : Nat) (eui : Eui) (timeout : UInt32) :
    ForwardState :=
  match state.calls number with
  | some _ => state
  | none => state.set number { eui := eui, timeout := timeout, phase := .started }

/-- The first lock of `add`. A call that finds an entry answers at once. -/
def checkAdd (state : ForwardState) (number : Nat) (call : Call) : ForwardState :=
  match call.phase with
  | .started =>
      if state.table.has call.eui then state.set number { call with phase := .returned }
      else state.set number { call with phase := .checked }
  | _ => state

/-- The second lock of `add`. The caller returns if its time is over 60. -/
def insertAdd (state : ForwardState) (number : Nat) (call : Call) : ForwardState :=
  match call.phase with
  | .checked =>
      (state.access number (state.table.insert call.eui number)).set number
        { call with phase := if call.timeout > 60 then .returned else .waiting }
  | _ => state

/-- The wait ends without an answer: its time is over, or its sender was dropped. -/
def expire (state : ForwardState) (number : Nat) (call : Call) : ForwardState :=
  match call.phase with
  | .waiting => state.set number { call with phase := .expired }
  | _ => state

def cleanUp (state : ForwardState) (number : Nat) (call : Call) : ForwardState :=
  match call.phase with
  | .expired =>
      (state.access number (state.table.get call.eui)).set number { call with phase := .returned }
  | _ => state

def onCall (state : ForwardState) (number : Nat)
    (act : ForwardState → Nat → Call → ForwardState) : ForwardState :=
  match state.calls number with
  | none => state
  | some call => act state number call

/-- `get` of `decode_payload`. -/
def takeSender (state : ForwardState) (uplink : Nat) (eui : Eui) : ForwardState :=
  match state.taken uplink with
  | some _ => state
  | none =>
      { state with
        table := (state.table.get eui).2
        taken := Function.update state.taken uplink (state.table.get eui).1 }

/-- `tx.send`: the receiver has gone if the call no longer waits. -/
def answer (state : ForwardState) (number : Nat) (call : Call) : ForwardState :=
  match call.phase with
  | .waiting => state.set number { call with phase := .returned }
  | _ => state

def sendTaken (state : ForwardState) (uplink : Nat) : ForwardState :=
  match state.taken uplink with
  | none => state
  | some number =>
      onCall { state with taken := Function.update state.taken uplink none } number answer

def forwardStep (state : ForwardState) : ForwardEvent → ForwardState
  | .start number eui timeout => startCall state number eui timeout
  | .check number => onCall state number checkAdd
  | .insert number => onCall state number insertAdd
  | .expire number => onCall state number expire
  | .clean number => onCall state number cleanUp
  | .take uplink eui => takeSender state uplink eui
  | .send uplink => sendTaken state uplink

end SnapEmu.Mqtt
