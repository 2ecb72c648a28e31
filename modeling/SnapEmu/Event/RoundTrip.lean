import SnapEmu.Event.NodeEvent

/-! The way of an event from its emitter to the subscribers of its device. -/
namespace SnapEmu.Event

open Device Semantics Gateway Topics NodeEventManager

variable {Bytes : Type}

/-- The message of a call carries the expected event, and both are there or
none is. -/
theorem carried_send (wire : Protobuf Bytes) (now : Int64) (received : Timestamp)
    (emission : Emission) (hKind : emission.isDownlink = false) :
    (emission.send wire now).bind (carried wire received) = emission.expected now received := by
  cases emission with
  | gatewayStatus id eui state =>
      cases state with
      | status st =>
          simp [Emission.send, DeviceEventSender.loraGatewayStatus, carried, deviceEvent,
            wire.gatewayStatus.decode_encode, Emission.expected]
      | pushData pks => rfl
      | pull => rfl
      | txAck => rfl
  | joinRequest device =>
      simp [Emission.send, DeviceEventSender.loraNodeJoinRequest, carried, deviceEvent,
        wire.joinRequest.decode_encode, Emission.expected]
  | joinAccept addr device =>
      simp [Emission.send, DeviceEventSender.loraNodeJoinAccept, carried, deviceEvent,
        wire.joinAccept.decode_encode, Emission.expected]
  | uplinkData header device gateway data =>
      simp [Emission.send, DeviceEventSender.loraNodeUplinkData, carried, deviceEvent,
        wire.uplinkData.decode_encode, Emission.expected]
  | downlinkData device down => cases hKind

/-- What a downlink message carries is a join-accept, if anything. -/
theorem carried_downlink (wire : Protobuf Bytes) (now : Int64) (received : Timestamp)
    (device : NodeInfo) (down : Option LoRa.DownloadData) {made : DeviceEvent}
    (h : carried wire received (DeviceEventSender.loraNodeDownlinkData wire now device down) =
      some made) :
    ∃ data, made = ⟨device.deviceId, .joinAccept data⟩ := by
  simp only [carried, DeviceEventSender.loraNodeDownlinkData, Option.bind_some, deviceEvent,
    LogType.tryFrom_toI32] at h
  obtain ⟨message, _, rfl⟩ := Option.map_eq_some_iff.mp h
  exact ⟨_, rfl⟩

/-- Broadcasting the message of a call delivers the expected event once to
each subscriber of the device. -/
def RoundTrips (wire : Protobuf Bytes) (manager : NodeEventManager) (now : Int64)
    (received : Timestamp) (emission : Emission) : Prop :=
  match emission.send wire now, emission.expected now received with
  | some response, some event =>
      (broadcast wire received manager response).delivered = manager.delivered ++
        (manager.subscribers emission.device).map fun receiver => (receiver.number, event)
  | none, none => True
  | _, _ => False

theorem expected_device {now : Int64} {received : Timestamp} {emission : Emission}
    {event : DeviceEvent} (h : emission.expected now received = some event) :
    event.device = emission.device := by
  cases emission with
  | gatewayStatus id eui state =>
      cases state with
      | status st =>
          cases h
          rfl
      | pushData pks => cases h
      | pull => cases h
      | txAck => cases h
  | joinRequest device | joinAccept addr device | uplinkData header device gateway data
  | downlinkData device down =>
      cases h
      rfl

/-- A message is sent exactly when an event is expected of it. -/
theorem send_isSome (wire : Protobuf Bytes) (now : Int64) (received : Timestamp)
    (emission : Emission) :
    (emission.send wire now).isSome = (emission.expected now received).isSome := by
  cases emission with
  | gatewayStatus id eui state => cases state <;> rfl
  | joinRequest device | joinAccept addr device | uplinkData header device gateway data
  | downlinkData device down => rfl

/-- An event that is not a downlink reaches exactly the subscribers. -/
theorem roundTrips {wire : Protobuf Bytes} {manager : NodeEventManager}
    (hAttached : manager.Attached) (now : Int64) (received : Timestamp) {emission : Emission}
    (hKind : emission.isDownlink = false) : RoundTrips wire manager now received emission := by
  have hCarried := carried_send wire now received emission hKind
  have hSome := send_isSome wire now received emission
  rw [RoundTrips]
  cases hSend : emission.send wire now with
  | none =>
      rw [hSend] at hSome
      have hNone : emission.expected now received = none := by simpa using hSome.symm
      rw [hNone]
      trivial
  | some response =>
      rw [hSend] at hSome hCarried
      obtain ⟨event, hEvent⟩ := Option.isSome_iff_exists.mp hSome.symm
      rw [hEvent] at hCarried ⊢
      dsimp only
      rw [broadcast_carried manager hCarried, hAttached.publish_delivered, expected_device hEvent]

/-- A downlink reaches its subscribers as it was emitted only if there are
none: what they get is a join-accept. -/
theorem downlink_roundTrips {wire : Protobuf Bytes} {manager : NodeEventManager}
    (hAttached : manager.Attached) (now : Int64) (received : Timestamp) (device : NodeInfo)
    (down : Option LoRa.DownloadData) :
    RoundTrips wire manager now received (.downlinkData device down) ↔
      manager.subscribers device.deviceId = [] := by
  let response := DeviceEventSender.loraNodeDownlinkData wire now device down
  simp only [RoundTrips, Emission.send, Emission.expected, Emission.device, broadcast_eq]
  cases hMade : carried wire received response with
  | none =>
      dsimp only
      rw [List.self_eq_append_right, List.map_eq_nil_iff]
  | some made =>
      obtain ⟨data, rfl⟩ := carried_downlink wire now received device down hMade
      dsimp only
      rw [hAttached.publish_delivered, List.append_cancel_left_eq]
      cases manager.subscribers device.deviceId with
      | nil => simp
      | cons receiver rest => simp

/-- Any event but a downlink reaches the subscribers of its device as it was
emitted; a downlink does only if there are none. -/
theorem roundTrips_iff (wire : Protobuf Bytes) (calls : List (ManagerCall Bytes)) (now : Int64)
    (received : Timestamp) (emission : Emission) :
    RoundTrips wire (reached wire calls) now received emission ↔
      (emission.isDownlink = true →
        (reached wire calls).subscribers emission.device = []) := by
  have hAttached := reached_attached wire calls
  cases emission with
  | downlinkData device down =>
      rw [downlink_roundTrips hAttached]
      exact ⟨fun h _ => h, fun h => h rfl⟩
  | gatewayStatus id eui state =>
      exact iff_of_true (roundTrips hAttached now received rfl) fun h => by cases h
  | joinRequest device =>
      exact iff_of_true (roundTrips hAttached now received rfl) fun h => by cases h
  | joinAccept addr device =>
      exact iff_of_true (roundTrips hAttached now received rfl) fun h => by cases h
  | uplinkData header device gateway data =>
      exact iff_of_true (roundTrips hAttached now received rfl) fun h => by cases h

/-- A downlink acknowledgement arrives as a join-accept with address 0 and the
port for its time. -/
theorem downlink_as_joinAccept :
    let manager := reached Payload.wire [.subscribe ⟨0⟩]
    ¬RoundTrips Payload.wire manager 1000 ⟨0⟩ (.downlinkData default none) ∧
      (broadcast Payload.wire ⟨0⟩ manager
          (DeviceEventSender.loraNodeDownlinkData Payload.wire 1000 default none)).delivered =
        [(0, ⟨⟨0⟩, .joinAccept ⟨0, 2⟩⟩)] := by
  have hAttached := reached_attached Payload.wire [.subscribe ⟨0⟩]
  refine ⟨fun h => ?_, by decide⟩
  have hNobody := (downlink_roundTrips hAttached 1000 ⟨0⟩ default none).mp h
  revert hNobody
  decide

end SnapEmu.Event
