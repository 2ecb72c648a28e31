import SnapEmu.Device.GatewayInfo
import SnapEmu.Event.Messages
import SnapEmu.Semantics.Journal
import SnapEmu.Semantics.Text

/-! What the device manager does for a datagram of a gateway: one event goes
through the handlers, and each leaves a journal of what it did. The answers of
cache, database and socket are given. -/
namespace SnapEmu.Gateway

open Device Semantics Action Event

/-- An address as the socket gives it; its text reads back. -/
class SocketAddr (Address : Type) where
  toString : Address → String
  parse : String → Option Address
  parse_toString : ∀ addr, parse (toString addr) = some addr

instance : SocketAddr String where
  toString addr := addr
  parse text := some text
  parse_toString _ := rfl

/-- The answers to the calls that a datagram may cause, and the clock. -/
structure Answers where
  now : Timestamp
  connect : Except DeviceError Unit
  load : Except DeviceError (Option GatewayInfo)
  findGate : Except DeviceError (Option Id)
  register : Except DeviceError Unit
  updateActiveTime : Except DeviceError Unit
  connectVersion : Except DeviceError Unit
  hsetVersion : Except DeviceError Unit
  findDevice : Except DeviceError Bool
  updateDevice : Except DeviceError Unit
  connectDown : Except DeviceError Unit
  hsetDown : Except DeviceError Unit
  sendTo : Except DeviceError Unit

structure LoRaGate (Address : Type) where
  eui : Eui
  id : Id
  down : Option Address
  info : GatewayInfo
  deriving DecidableEq

/-- What was done, call by call. -/
inductive Effect (Address : Type) where
  | register (eui : Eui) (info : GatewayInfo)
  | activeTime (eui : Eui)
  | version (eui : Eui) (version : UInt8)
  | down (eui : Eui) (down : Option String)
  | emit (emission : Emission)
  | deviceActive (id : Id)
  | nodeData (gw : LoRaGate Address) (rssi : Int32) (data : PushData)
  | send (buf : List UInt8) (addr : Address)

variable {Address : Type}

abbrev Handler (Address α : Type) : Type := Action (List (Effect Address)) DeviceError α

namespace LoRaGateManager

/-- The cached record of a gateway, made anew for one that is registered. -/
def cachedInfo (answers : Answers) (eui : Eui) (cached : Option GatewayInfo) :
    Handler Address GatewayInfo :=
  match cached with
  | some info => pure info
  | none => do
      let gate ← ofExcept answers.findGate
      match gate with
      | none => throw (.device "gateway not register")
      | some device => do
          ofExcept answers.register
          record (.register eui ⟨device, 0, 2, answers.now, none, none⟩)
          pure ⟨device, 0, 2, answers.now, none, none⟩

def gate [SocketAddr Address] (answers : Answers) (eui : Eui) (info : GatewayInfo) :
    LoRaGate Address :=
  { eui := eui
    id := info.device
    down := info.down.bind SocketAddr.parse
    info := { info with
      tmst := UInt32.ofInt (answers.now.micros - info.time.micros) + info.tmst } }

def getGate [SocketAddr Address] (answers : Answers) (eui : Eui) :
    Handler Address (LoRaGate Address) := do
  ofExcept answers.connect
  let cached ← ofExcept answers.load
  let info ← cachedInfo answers eui cached
  ofExcept answers.updateActiveTime
  record (.activeTime eui)
  pure (gate answers eui info)

end LoRaGateManager

namespace LoRaGate

def updateVersion (answers : Answers) (gw : LoRaGate Address) (version : UInt8) :
    Handler Address (LoRaGate Address) :=
  if gw.info.version ≠ version then do
    ofExcept answers.connectVersion
    ofExcept answers.hsetVersion
    record (.version gw.eui version)
    pure { gw with info := { gw.info with version := version } }
  else pure gw

def updateDown [SocketAddr Address] (answers : Answers) (gw : LoRaGate Address)
    (down : Option Address) : Handler Address (LoRaGate Address) :=
  let addr := down.map SocketAddr.toString
  if addr = gw.info.down then pure gw
  else do
    ofExcept answers.connectDown
    ofExcept answers.hsetDown
    record (.down gw.eui addr)
    pure { gw with down := down }

/-- A datagram to an address, if there is one. -/
def sendTo (answers : Answers) (buf : List UInt8) (addr : Option Address) :
    Handler Address Unit :=
  match addr with
  | none => pure ()
  | some addr => do
      ofExcept answers.sendTo
      record (.send buf addr)

def pushAck (answers : Answers) (gw : LoRaGate Address) (token : GatewayToken)
    (addr : Option Address) : Handler Address Unit :=
  sendTo answers (LoRaUdp.pushAckBuf gw.info.version token) addr

def pullAck (answers : Answers) (gw : LoRaGate Address) (token : GatewayToken) :
    Handler Address Unit :=
  sendTo answers (LoRaUdp.pullAckBuf gw.info.version token gw.eui) gw.down

end LoRaGate

def gatewayPushData (answers : Answers) (pks : List RXPK) (gw : LoRaGate Address)
    (header : GatewayUpData Address) : Handler Address Unit := do
  forEach (fun pk => record (.nodeData gw pk.rssi
    ⟨gw.id, header.eui, header.token, header.version, header.time, pk⟩)) pks
  gw.pushAck answers header.token header.source.ip

def gatewayPullData [SocketAddr Address] (answers : Answers) (header : GatewayUpData Address)
    (gw : LoRaGate Address) : Handler Address Unit := do
  let gw ← gw.updateDown answers header.source.ip
  gw.pullAck answers header.token

/-- The steps before the event is looked at. -/
def admission [SocketAddr Address] (answers : Answers) (event : GatewayUpData Address) :
    Handler Address (LoRaGate Address) := do
  let gw ← LoRaGateManager.getGate answers event.eui
  let gw ← gw.updateVersion answers event.version
  record (.emit (.gatewayStatus gw.id gw.eui event.event))
  let found ← ofExcept answers.findDevice
  if found then do
    ofExcept answers.updateDevice
    record (.deviceActive gw.id)
    pure gw
  else pure gw

def gatewayEventProcess [SocketAddr Address] (answers : Answers) (event : GatewayUpData Address) :
    Handler Address Unit := do
  let gw ← admission answers event
  match event.event with
  | .status _ => pure ()
  | .pushData pks => gatewayPushData answers pks gw event
  | .pull => gatewayPullData answers event gw
  | .txAck => pure ()

/-- What a datagram causes. -/
def received [SocketAddr Address] (answers : Answers)
    (fromSlice : List UInt8 → Option UpPack) (now : Timestamp) (s : List UInt8) (addr : Address) :
    List (Effect Address) :=
  match UdpForward.decode fromSlice now s addr with
  | .ok up => (gatewayEventProcess answers up).after []
  | _ => []

namespace Effect

def handed : Effect Address → Option RXPK
  | .nodeData _ _ data => some data.pk
  | _ => none

def reported : Effect Address → Option GatewayStatus
  | .emit (.gatewayStatus _ _ (.status st)) => some st
  | _ => none

def sent : Effect Address → Option (List UInt8 × Address)
  | .send buf addr => some (buf, addr)
  | _ => none

/-- An entry before the event is looked at: of what is observed it shows at
most the status that the event is. -/
structure Quiet (event : GatewayEventType) (effect : Effect Address) : Prop where
  handed : effect.handed = none
  sent : effect.sent = none
  reported : effect.reported = none ∨ ∃ st, event = .status st

end Effect

/-- The record that the gateway has or gets. -/
def Answers.known (answers : Answers) : Option GatewayInfo :=
  match answers.load with
  | .ok (some info) => some info
  | .ok none =>
      match answers.findGate, answers.register with
      | .ok (some device), .ok () => some ⟨device, 0, 2, answers.now, none, none⟩
      | _, _ => none
  | .error _ => none

/-- The gateway is known and each call before the event is looked at succeeds. -/
structure Answers.Admits (answers : Answers) (version : UInt8) (info : GatewayInfo) : Prop where
  connect : answers.connect = .ok ()
  known : answers.known = some info
  activeTime : answers.updateActiveTime = .ok ()
  version : info.version = version ∨
    answers.connectVersion = .ok () ∧ answers.hsetVersion = .ok ()
  device : answers.findDevice = .ok false ∨
    answers.findDevice = .ok true ∧ answers.updateDevice = .ok ()

section

variable {answers : Answers} {event : GatewayEventType}

/-- A gateway the cache or the database knows is found. -/
theorem cachedInfo_known (eui : Eui) {info : GatewayInfo} {cached : Option GatewayInfo}
    (hLoad : answers.load = .ok cached) (hKnown : answers.known = some info) :
    Decides (Effect.Quiet event)
      (LoRaGateManager.cachedInfo answers eui cached : Handler Address GatewayInfo) True info := by
  rw [Answers.known, hLoad] at hKnown
  cases cached with
  | some cached =>
      cases hKnown
      exact decides_pure info
  | none =>
      dsimp only at hKnown
      split at hKnown
      · rename_i device hGate hRegister
        cases hKnown
        refine Decides.of_iff (Decides.bind (decides_known hGate) fun _ =>
          Decides.bind (decides_known hRegister) fun _ =>
            Decides.bind (decides_record ⟨rfl, rfl, .inl rfl⟩) fun _ => decides_pure _) ?_
        simp
      · cases hKnown

/-- A gateway that neither knows is refused. -/
theorem cachedInfo_fails (eui : Eui) {cached : Option GatewayInfo}
    (hLoad : answers.load = .ok cached) (hKnown : answers.known = none) :
    Fails (Effect.Quiet event)
      (LoRaGateManager.cachedInfo answers eui cached : Handler Address GatewayInfo) := by
  rw [Answers.known, hLoad] at hKnown
  cases cached with
  | some cached => cases hKnown
  | none =>
      rw [LoRaGateManager.cachedInfo]
      cases hGate : answers.findGate with
      | error error => exact (fails_ofExcept rfl).bind
      | ok gate =>
          refine (decides_known rfl).bind_fails fun _ => ?_
          cases gate with
          | none => exact fails_throw _
          | some device =>
              cases hRegister : answers.register with
              | error error => exact (fails_ofExcept rfl).bind
              | ok _ => simp [hGate, hRegister] at hKnown

/-- A known gateway is admitted exactly when its activity could be recorded. -/
theorem getGate_decides [SocketAddr Address] (eui : Eui) {info : GatewayInfo}
    (hKnown : answers.known = some info) :
    Decides (Effect.Quiet event)
      (LoRaGateManager.getGate answers eui : Handler Address (LoRaGate Address))
      (answers.connect = .ok () ∧ answers.updateActiveTime = .ok ())
      (LoRaGateManager.gate answers eui info) := by
  cases hLoad : answers.load with
  | error error => simp [Answers.known, hLoad] at hKnown
  | ok cached =>
      refine Decides.of_iff (Decides.bind (decides_ofExcept answers.connect) fun _ =>
        Decides.bind (decides_known hLoad) fun _ =>
          Decides.bind (cachedInfo_known eui hLoad hKnown) fun _ =>
            Decides.bind (decides_ofExcept answers.updateActiveTime) fun _ =>
              Decides.bind (decides_record ⟨rfl, rfl, .inl rfl⟩) fun _ => decides_pure _) ?_
      simp

/-- An unknown gateway is refused. -/
theorem getGate_fails [SocketAddr Address] (eui : Eui) (hKnown : answers.known = none) :
    Fails (Effect.Quiet event)
      (LoRaGateManager.getGate answers eui : Handler Address (LoRaGate Address)) := by
  refine (decides_ofExcept answers.connect).bind_fails fun _ => ?_
  cases hLoad : answers.load with
  | error error => exact (fails_ofExcept rfl).bind
  | ok cached =>
      exact (decides_known rfl).bind_fails fun _ => (cachedInfo_fails eui hLoad hKnown).bind

/-- The gate with which the event is handled. -/
def admitted [SocketAddr Address] (answers : Answers) (up : GatewayUpData Address)
    (info : GatewayInfo) : LoRaGate Address :=
  let gw := LoRaGateManager.gate answers up.eui info
  { gw with info := { gw.info with version := up.version } }

/-- The version is written only when it changed. -/
theorem updateVersion_decides (gw : LoRaGate Address) (version : UInt8) :
    Decides (Effect.Quiet event) (gw.updateVersion answers version)
      (gw.info.version = version ∨ answers.connectVersion = .ok () ∧ answers.hsetVersion = .ok ())
      { gw with info := { gw.info with version := version } } := by
  rw [LoRaGate.updateVersion]
  split
  · rename_i hOther
    refine Decides.of_iff (Decides.bind (decides_ofExcept answers.connectVersion) fun _ =>
      Decides.bind (decides_ofExcept answers.hsetVersion) fun _ =>
        Decides.bind (decides_record ⟨rfl, rfl, .inl rfl⟩) fun _ => decides_pure _) ?_
    simp [hOther]
  · rename_i hSame
    have hVersion : gw.info.version = version := not_not.mp hSame
    subst hVersion
    exact (decides_pure gw).of_iff (by simp)

/-- The return address is written only when it changed. -/
theorem updateDown_decides [SocketAddr Address] (answers : Answers) (event : GatewayEventType)
    (gw : LoRaGate Address) (addr : Address) :
    Decides (Effect.Quiet event) (gw.updateDown answers (some addr))
      (gw.info.down = some (SocketAddr.toString addr) ∨
        answers.connectDown = .ok () ∧ answers.hsetDown = .ok ())
      (if some (SocketAddr.toString addr) = gw.info.down then gw
        else { gw with down := some addr }) := by
  rw [LoRaGate.updateDown]
  dsimp only [Option.map_some]
  split
  · rename_i hSame
    exact (decides_pure gw).of_iff (by simp [← hSame])
  · rename_i hOther
    refine Decides.of_iff (Decides.bind (decides_ofExcept answers.connectDown) fun _ =>
      Decides.bind (decides_ofExcept answers.hsetDown) fun _ =>
        Decides.bind (decides_record ⟨rfl, rfl, .inl rfl⟩) fun _ => decides_pure _) ?_
    simp [Ne.symm hOther]

/-- The activity of the device is recorded when there is one. -/
theorem findDevice_decides (gw : LoRaGate Address) (id : Id) :
    Decides (Effect.Quiet event) (do
        let found ← ofExcept answers.findDevice
        if found then do
          ofExcept answers.updateDevice
          record (.deviceActive id)
          pure gw
        else pure gw : Handler Address (LoRaGate Address))
      (answers.findDevice = .ok false ∨
        answers.findDevice = .ok true ∧ answers.updateDevice = .ok ()) gw := by
  cases hFind : answers.findDevice with
  | error error => exact (fails_ofExcept rfl).bind.decides (by simp)
  | ok found =>
      cases found with
      | false =>
          refine Decides.of_iff (Decides.bind (decides_known rfl) fun _ => decides_pure gw) ?_
          simp
      | true =>
          refine Decides.of_iff (Decides.bind (decides_known rfl) fun _ =>
            Decides.bind (decides_ofExcept answers.updateDevice) fun _ =>
              Decides.bind (decides_record ⟨rfl, rfl, .inl rfl⟩) fun _ => decides_pure gw) ?_
          simp

theorem quiet_emit (id : Id) (eui : Eui) (event : GatewayEventType) :
    (.emit (.gatewayStatus id eui event) : Effect Address).Quiet event where
  handed := rfl
  sent := rfl
  reported := by
    cases event with
    | status st => exact .inr ⟨st, rfl⟩
    | pushData pks => exact .inl rfl
    | pull => exact .inl rfl
    | txAck => exact .inl rfl

/-- Admission as a whole: it succeeds exactly when each of its steps does. -/
theorem admit_decides [SocketAddr Address] (up : GatewayUpData Address) {info : GatewayInfo}
    (hKnown : answers.known = some info) :
    Decides (Effect.Quiet up.event) (admission answers up) (answers.Admits up.version info)
      (admitted answers up info) := by
  refine Decides.of_iff (Decides.bind (getGate_decides up.eui hKnown) fun _ =>
    Decides.bind (updateVersion_decides _ up.version) fun _ =>
      Decides.bind (decides_record (quiet_emit _ _ up.event)) fun _ =>
        findDevice_decides _ _) ?_
  constructor
  · intro h
    exact ⟨⟨h.connect, h.activeTime⟩, h.version, trivial, h.device⟩
  · rintro ⟨⟨hConnect, hActive⟩, hVersion, -, hDevice⟩
    exact ⟨hConnect, hKnown, hActive, hVersion, hDevice⟩

/-- Either the gateway is admitted, or the handling ends there. -/
theorem admit_cases [SocketAddr Address] (answers : Answers) (up : GatewayUpData Address) :
    (∃ info, answers.Admits up.version info ∧
      Appends (Effect.Quiet up.event) (admission answers up) (.ok (admitted answers up info))) ∨
    (¬∃ info, answers.Admits up.version info) ∧
      Fails (Effect.Quiet up.event) (admission answers up) := by
  cases hKnown : answers.known with
  | none =>
      refine .inr ⟨?_, (getGate_fails up.eui hKnown).bind⟩
      rintro ⟨info, hAdmits⟩
      exact absurd (hKnown.symm.trans hAdmits.known) (Option.some_ne_none info).symm
  | some info =>
      have hDecides := admit_decides up hKnown
      by_cases hAdmits : answers.Admits up.version info
      · exact .inl ⟨info, hAdmits, hDecides.succeeds hAdmits⟩
      · refine .inr ⟨?_, hDecides.fails hAdmits⟩
        rintro ⟨other, hOther⟩
        obtain rfl : info = other := Option.some.inj (hKnown.symm.trans hOther.known)
        exact hAdmits hOther

end

end SnapEmu.Gateway
