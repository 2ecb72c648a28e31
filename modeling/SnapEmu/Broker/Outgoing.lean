import SnapEmu.Broker.CommitLog
import SnapEmu.Semantics.CyclicWindow
import Mathlib.Logic.Function.Basic

/-! What goes out to a connection: acknowledgements, messages, and the messages
the client has not acknowledged yet, the oldest first. -/
namespace SnapEmu.Broker

open Semantics Exec CyclicWindow

def maxInflight : Nat := 100

def maxPkid : UInt16 := 100

def maxChannelCapacity : Nat := 200

inductive Ack where
  | ConnAck (id : ConnectionId) (connack : ConnAck) (topicAliasMax : Option UInt16)
  | PubAck (puback : PubAck)
  | SubAck (suback : SubAck)
  | PubRec (pubrec : PubRec)
  | PubRel (pubrel : PubRel)
  | PubComp (pubcomp : PubComp)
  | UnsubAck (unsuback : UnsubAck)
  | PingResp
  deriving DecidableEq

structure Forward where
  cursor : Option Cursor
  publish : Publish
  properties : Option PublishProperties
  deriving DecidableEq

structure ShadowReply where
  topic : Bytes
  payload : Bytes
  deriving DecidableEq

inductive Notification where
  | Forward (forward : Forward)
  | DeviceAck (ack : Ack)
  | Shadow (reply : ShadowReply)
  | Unschedule
  | Disconnect (reason : DisconnectReasonCode)
  deriving DecidableEq

/-- A message in flight: its packet identifier, the log it is from, and its
offset there, which retained messages do not have. -/
abbrev Inflight := UInt16 × FilterIdx × Option Cursor

structure Outgoing where
  clientId : ClientId
  dataBuffer : List Notification
  inflightBuffer : List Inflight
  unackedPubrels : List UInt16
  lastPkid : UInt16
  deriving DecidableEq

namespace Outgoing

def new (clientId : ClientId) : Outgoing where
  clientId := clientId
  dataBuffer := []
  inflightBuffer := []
  unackedPubrels := []
  lastPkid := 0

/-- `MAX_INFLIGHT - self.inflight_buffer.len()`. -/
def freeSlots {ε : Type} (outgoing : Outgoing) : Exec ε Nat :=
  if maxInflight < outgoing.inflightBuffer.length then panic
  else ok (maxInflight - outgoing.inflightBuffer.length)

def pushNotification (outgoing : Outgoing) (notification : Notification) : Outgoing × Nat :=
  let buffer := outgoing.dataBuffer ++ [notification]
  ({ outgoing with dataBuffer := buffer }, buffer.length)

/-- One message with a packet identifier. -/
def pushForward (filterIdx : FilterIdx) (outgoing : Outgoing) (forward : Forward) : Outgoing :=
  let pkid := outgoing.lastPkid + 1
  { outgoing with
    inflightBuffer := outgoing.inflightBuffer ++ [(pkid, filterIdx, forward.cursor)]
    lastPkid := if pkid = maxPkid then 0 else pkid
    dataBuffer := outgoing.dataBuffer ++
      [.Forward { forward with publish := { forward.publish with pkid := pkid } }] }

/-- Messages that are sent take the next identifiers of the window. -/
def pushForwards (outgoing : Outgoing) (publishes : List Forward) (qos : Nat)
    (filterIdx : FilterIdx) : Outgoing × Nat × Nat :=
  let outgoing :=
    if qos = 0 then
      { outgoing with dataBuffer := outgoing.dataBuffer ++ publishes.map .Forward }
    else publishes.foldl (pushForward filterIdx) outgoing
  (outgoing, outgoing.dataBuffer.length, outgoing.inflightBuffer.length)

/-- The oldest message is no longer in flight, whatever is acknowledged. -/
def registerAck (outgoing : Outgoing) (pkid : UInt16) : Outgoing × Option Unit :=
  match outgoing.inflightBuffer with
  | [] => (outgoing, none)
  | (head, _, _) :: rest =>
      ({ outgoing with inflightBuffer := rest }, if pkid ≠ head then none else some ())

def registerPubrec (outgoing : Outgoing) (pkid : UInt16) : Outgoing :=
  { outgoing with unackedPubrels := outgoing.unackedPubrels ++ [pkid] }

def registerPubcomp (outgoing : Outgoing) (pkid : UInt16) : Outgoing × Option Unit :=
  match outgoing.unackedPubrels with
  | [] => (outgoing, none)
  | id :: rest => ({ outgoing with unackedPubrels := rest }, if pkid ≠ id then none else some ())

/-- One round of the loop over the messages in flight. -/
def retransmit (map : FilterIdx → Option Cursor) (entry : Inflight) : FilterIdx → Option Cursor :=
  match entry.2.2 with
  | none => map
  | some cursor =>
      if map entry.2.1 = none then Function.update map entry.2.1 (some cursor) else map

def retransmissionMap (outgoing : Outgoing) : FilterIdx → Option Cursor :=
  outgoing.inflightBuffer.foldl retransmit fun _ => none

/-- The offset of the oldest message in flight of each log. -/
theorem retransmissionMap_eq (outgoing : Outgoing) (filterIdx : FilterIdx) :
    outgoing.retransmissionMap filterIdx =
      outgoing.inflightBuffer.findSome? fun entry =>
        if entry.2.1 = filterIdx then entry.2.2 else none := by
  have hFold : ∀ (entries : List Inflight) (map : FilterIdx → Option Cursor),
      entries.foldl retransmit map filterIdx = (map filterIdx).or
        (entries.findSome? fun entry => if entry.2.1 = filterIdx then entry.2.2 else none) := by
    intro entries
    induction entries with
    | nil => simp
    | cons entry entries ih =>
        intro map
        obtain ⟨pkid, idx, cursor⟩ := entry
        rw [List.foldl_cons, ih, List.findSome?_cons]
        cases cursor with
        | none => simp [retransmit]
        | some cursor =>
            by_cases hIdx : idx = filterIdx
            · subst hIdx
              cases hMap : map idx <;> simp [retransmit, hMap]
            · have hOther : retransmit map (pkid, idx, some cursor) filterIdx = map filterIdx := by
                rw [retransmit]
                dsimp only
                split_ifs
                · exact Function.update_of_ne (Ne.symm hIdx) _ _
                · rfl
              rw [hOther, if_neg hIdx]
  exact (hFold _ _).trans (by simp)

/-- The packet identifiers in flight are the last ones given, in turn, of all
that were sent, and there are not more than allowed. -/
structure Window (outgoing : Outgoing) (sent : Nat) : Prop where
  last : outgoing.lastPkid.toNat = sent % maxInflight
  length : outgoing.inflightBuffer.length ≤ sent
  pkids : outgoing.inflightBuffer.map (fun entry => entry.1.toNat) =
    window maxInflight (sent - outgoing.inflightBuffer.length) outgoing.inflightBuffer.length
  bound : outgoing.inflightBuffer.length ≤ maxInflight

variable {outgoing : Outgoing} {sent : Nat}

/-- A new buffer has nothing in flight. -/
theorem window_new (clientId : ClientId) : (new clientId).Window 0 where
  last := rfl
  length := le_refl _
  pkids := rfl
  bound := Nat.zero_le _

namespace Window

theorem pushForward (h : outgoing.Window sent) (filterIdx : FilterIdx) (forward : Forward)
    (hRoom : outgoing.inflightBuffer.length < maxInflight) :
    (outgoing.pushForward filterIdx forward).Window (sent + 1) := by
  have hMod : sent % maxInflight < maxInflight := Nat.mod_lt _ (by decide)
  have hPkid : (outgoing.lastPkid + 1).toNat = number maxInflight sent := by
    have hLast := h.last
    have hMax : maxInflight = 100 := rfl
    rw [UInt16.toNat_add, hLast, number]
    exact Nat.mod_eq_of_lt (by change _ + 1 < 65536; omega)
  have hLength : (outgoing.pushForward filterIdx forward).inflightBuffer.length =
      outgoing.inflightBuffer.length + 1 := by
    rw [Outgoing.pushForward, List.length_append, List.length_singleton]
  have hSent := h.length
  refine ⟨?_, by omega, ?_, by omega⟩
  · change (if outgoing.lastPkid + 1 = maxPkid then (0 : UInt16) else _).toNat = _
    have hFull : outgoing.lastPkid + 1 = maxPkid ↔ number maxInflight sent = maxInflight := by
      rw [← UInt16.toNat_inj, hPkid]
      rfl
    have hMax : maxInflight = 100 := rfl
    rw [number, hMax] at hFull hPkid
    rw [hMax]
    split_ifs with hWrap
    · have hEnd := hFull.mp hWrap
      change 0 = _
      omega
    · have hMore := mt hFull.mpr hWrap
      rw [hPkid]
      omega
  · have hStart : sent + 1 - (outgoing.inflightBuffer.length + 1) + outgoing.inflightBuffer.length =
        sent := by omega
    rw [hLength, window_succ, hStart, Nat.add_sub_add_right, ← h.pkids, ← hPkid,
      Outgoing.pushForward, List.map_append]
    rfl

theorem pushForwards (h : outgoing.Window sent) (filterIdx : FilterIdx) (publishes : List Forward)
    (hRoom : outgoing.inflightBuffer.length + publishes.length ≤ maxInflight) :
    (publishes.foldl (Outgoing.pushForward filterIdx) outgoing).Window
      (sent + publishes.length) := by
  induction publishes generalizing outgoing sent with
  | nil => exact h
  | cons forward publishes ih =>
      rw [List.length_cons] at hRoom
      have hNext := h.pushForward filterIdx forward (by omega)
      have hLength : (outgoing.pushForward filterIdx forward).inflightBuffer.length =
          outgoing.inflightBuffer.length + 1 := by
        rw [Outgoing.pushForward, List.length_append, List.length_singleton]
      have hAll := ih hNext (by omega)
      rw [List.length_cons, ← Nat.add_assoc, Nat.add_right_comm]
      exact hAll

/-- An acknowledgement takes the oldest. -/
theorem registerAck (h : outgoing.Window sent) (pkid : UInt16) :
    (outgoing.registerAck pkid).1.Window sent := by
  unfold Outgoing.registerAck
  split
  · exact h
  · rename_i head idx cursor rest hBuffer
    have hPkids := h.pkids
    have hSent := h.length
    have hBound := h.bound
    rw [hBuffer, List.length_cons] at hPkids hSent hBound
    rw [window_cons, List.map_cons, List.cons.injEq] at hPkids
    have hStart : sent - (rest.length + 1) + 1 = sent - rest.length := by omega
    refine ⟨h.last, by dsimp only; omega, ?_, by dsimp only; omega⟩
    rw [hStart] at hPkids
    exact hPkids.2

/-- Messages in flight have packet identifiers of their own. -/
theorem nodup (h : outgoing.Window sent) :
    (outgoing.inflightBuffer.map fun entry => entry.1).Nodup := by
  have hWindow := nodup_window (sent - outgoing.inflightBuffer.length) h.bound
  rw [← h.pkids] at hWindow
  refine List.Nodup.of_map UInt16.toNat ?_
  rw [List.map_map]
  exact hWindow

end Window
end Outgoing

/-- Acknowledgements that wait to go out, and the messages of quality of service
2 that wait for their release. -/
structure AckLog where
  committed : List Ack
  recorded : List PubWithProp
  deriving DecidableEq

namespace AckLog

def new : AckLog where
  committed := []
  recorded := []

def commit (log : AckLog) (ack : Ack) : AckLog := { log with committed := log.committed ++ [ack] }

def connack (log : AckLog) (id : ConnectionId) (ack : ConnAck) (topicAliasMax : Option UInt16) :
    AckLog := log.commit (.ConnAck id ack topicAliasMax)

def suback (log : AckLog) (ack : SubAck) : AckLog := log.commit (.SubAck ack)

def puback (log : AckLog) (ack : PubAck) : AckLog := log.commit (.PubAck ack)

def pubrec (log : AckLog) (publish : Publish) (properties : Option PublishProperties)
    (ack : PubRec) : AckLog :=
  { log.commit (.PubRec ack) with recorded := log.recorded ++ [(publish, properties)] }

def pubrel (log : AckLog) (ack : PubRel) : AckLog := log.commit (.PubRel ack)

def pubcomp (log : AckLog) (ack : PubComp) : AckLog × Option PubWithProp :=
  ({ log.commit (.PubComp ack) with recorded := log.recorded.tail }, log.recorded.head?)

def pingresp (log : AckLog) : AckLog := log.commit .PingResp

def unsuback (log : AckLog) (ack : UnsubAck) : AckLog := log.commit (.UnsubAck ack)

end AckLog
end SnapEmu.Broker
