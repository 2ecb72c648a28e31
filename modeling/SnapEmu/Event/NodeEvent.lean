import SnapEmu.Event.Messages
import SnapEmu.Semantics.Run
import SnapEmu.Semantics.Topics

/-! The server's subscribers to device events. Each operation of the manager
holds the lock of its map for the whole step. -/
namespace SnapEmu.Event

open Device Semantics Gateway Topics

/-- The sender stored for each device, with the receivers obtained so far. -/
abbrev NodeEventManager : Type := Topics.State Id DeviceEvent

namespace NodeEventManager

variable {Bytes : Type}

/-- What `broadcast` makes of a message, by its kind. -/
def deviceEvent (wire : Protobuf Bytes) (now : Timestamp) (identity : DeviceIdentity)
    (event : LogResponse Bytes) : Option DeviceEvent :=
  match LogType.tryFrom event.logType with
  | none => none
  | some .LoRaGatewayStatus =>
      (wire.gatewayStatus.decode event.payload).map fun st =>
        ⟨⟨identity.id⟩, .gateway ⟨⟨identity.eui⟩, now, ⟨st.time, st.lati, st.long, st.alti, st.rxnb,
          st.rxok, st.rwfw, st.ackr, st.dwnb, st.txnb⟩⟩⟩
  | some .LoRaNodeJoinRequest =>
      (wire.joinRequest.decode event.payload).map fun jr =>
        ⟨⟨identity.id⟩, .joinRequest ⟨jr.appEui, jr.devEui, jr.time⟩⟩
  | some .LoRaNodeJoinAccept =>
      (wire.joinAccept.decode event.payload).map fun ja =>
        ⟨⟨identity.id⟩, .joinAccept ⟨ja.devAddr, ja.time⟩⟩
  | some .LoRaNodeUplinkData =>
      (wire.uplinkData.decode event.payload).map fun ud =>
        ⟨⟨identity.id⟩, .uplinkData ⟨ud.devAddr, ud.confirm, ud.fPort, ud.fCnt, ud.payload,
          ud.decodedPayload, ud.time⟩⟩
  | some .LoRaNodeDownLinkData =>
      (wire.downLinkData.decode event.payload).map fun dd =>
        ⟨⟨identity.id⟩, .downLinkData ⟨dd.confirm, dd.fPort, dd.bytes, dd.time⟩⟩

def broadcast (wire : Protobuf Bytes) (now : Timestamp) (manager : NodeEventManager)
    (event : LogResponse Bytes) : NodeEventManager :=
  match event.identity with
  | none => manager
  | some identity =>
      match manager.stored ⟨identity.id⟩ with
      | none => manager
      | some _ =>
          match deviceEvent wire now identity event with
          | none => manager
          | some event => manager.publish event.device event

/-- The event a message carries for its device. -/
def carried (wire : Protobuf Bytes) (now : Timestamp) (event : LogResponse Bytes) :
    Option DeviceEvent :=
  event.identity.bind fun identity => deviceEvent wire now identity event

/-- The event made carries the device it is about. -/
theorem deviceEvent_device {wire : Protobuf Bytes} {now : Timestamp} {identity : DeviceIdentity}
    {event : LogResponse Bytes} {made : DeviceEvent}
    (h : deviceEvent wire now identity event = some made) : made.device = ⟨identity.id⟩ := by
  rw [deviceEvent] at h
  split at h
  · cases h
  all_goals
    obtain ⟨message, _, rfl⟩ := Option.map_eq_some_iff.mp h
    rfl

/-- A message is published for its device, or nothing happens. -/
theorem broadcast_eq (wire : Protobuf Bytes) (now : Timestamp) (manager : NodeEventManager)
    (event : LogResponse Bytes) :
    broadcast wire now manager event =
      match carried wire now event with
      | none => manager
      | some made => manager.publish made.device made := by
  rw [broadcast, carried]
  cases event.identity with
  | none => rfl
  | some identity =>
      rw [Option.bind_some]
      dsimp only
      cases hMade : deviceEvent wire now identity event with
      | none => cases manager.stored ⟨identity.id⟩ <;> rfl
      | some made =>
          cases hStored : manager.stored ⟨identity.id⟩ with
          | none => simp only [State.publish, deviceEvent_device hMade, hStored]
          | some channel => rfl

/-- An event that can be carried is published to its device. -/
theorem broadcast_carried {wire : Protobuf Bytes} {now : Timestamp} {event : LogResponse Bytes}
    {made : DeviceEvent} (manager : NodeEventManager)
    (h : carried wire now event = some made) :
    broadcast wire now manager event = manager.publish made.device made := by
  rw [broadcast_eq, h]

end NodeEventManager

/-- What happens to the manager. -/
inductive ManagerCall (Bytes : Type) where
  | subscribe (device : Id)
  | drop (number : Nat)
  | broadcast (now : Timestamp) (event : LogResponse Bytes)

namespace NodeEventManager

variable {Bytes : Type}

def step (wire : Protobuf Bytes) (manager : NodeEventManager) :
    ManagerCall Bytes → NodeEventManager
  | .subscribe device => manager.subscribe device
  | .drop number => manager.drop number
  | .broadcast now event => broadcast wire now manager event

/-- Each call keeps every receiver attached. -/
theorem step_attached (wire : Protobuf Bytes) (manager : NodeEventManager)
    (call : ManagerCall Bytes) (h : manager.Attached) : (step wire manager call).Attached := by
  cases call with
  | subscribe device => exact h.subscribe device
  | drop number => exact h.drop number
  | broadcast now event =>
      rw [step, broadcast_eq]
      cases carried wire now event with
      | none => exact h
      | some made => exact h.publish made.device made

/-- The manager after any calls. -/
def reached (wire : Protobuf Bytes) (calls : List (ManagerCall Bytes)) : NodeEventManager :=
  run (step wire) State.empty calls

/-- Receivers stay attached over every list of calls. -/
theorem reached_attached (wire : Protobuf Bytes) (calls : List (ManagerCall Bytes)) :
    (reached wire calls).Attached :=
  run_always (step_attached wire) State.empty calls State.attached_empty

/-- After any calls, each live receiver is on the channel stored for its
device. A message that carries an event reaches exactly the receivers of its
device, and without any the device is removed. -/
theorem receivers_attached (wire : Protobuf Bytes) (calls : List (ManagerCall Bytes)) :
    let manager := reached wire calls
    (∀ receiver ∈ manager.receivers, manager.stored receiver.topic = some receiver.channel) ∧
      (manager.receivers.map Receiver.number).Nodup ∧
      ∀ now event made, carried wire now event = some made →
        (broadcast wire now manager event).delivered = manager.delivered ++
            (manager.subscribers made.device).map (fun receiver => (receiver.number, made)) ∧
          (manager.subscribers made.device = [] →
            (broadcast wire now manager event).stored made.device = none) := by
  intro manager
  have hAttached := reached_attached wire calls
  refine ⟨hAttached.current, hAttached.single, fun now event made hMade => ?_⟩
  rw [broadcast_carried manager hMade]
  exact ⟨hAttached.publish_delivered made.device made, hAttached.publish_removed made⟩

/-- A message of no known kind, for the device 1. -/
def unknownKind : LogResponse Payload := ⟨some ⟨1, 1⟩, 9, .joinAccept ⟨1, 0⟩⟩

/-- A message of no known kind neither reaches the receiver of its device nor
removes the device once that receiver is gone. -/
theorem unknownKind_dropped :
    let manager := reached Payload.wire [.subscribe ⟨1⟩, .broadcast ⟨0⟩ unknownKind]
    let left := reached Payload.wire [.subscribe ⟨1⟩, .drop 0, .broadcast ⟨0⟩ unknownKind]
    (manager.receivers ≠ [] ∧ manager.delivered = []) ∧
      left.receivers = [] ∧ left.stored ⟨1⟩ = some 0 := by
  decide

end NodeEventManager
end SnapEmu.Event
