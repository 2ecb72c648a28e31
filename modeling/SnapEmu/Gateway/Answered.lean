import SnapEmu.Gateway.Pipeline

/-! Which datagrams are answered, with everything they carry handed on. -/
namespace SnapEmu.Gateway

open Device Semantics Action Event Exec

variable {Address : Type}

/-- Each packet is handed on once, the status is reported, and the datagram is
acknowledged once to where it came from. -/
structure PushAnswered (s : List UInt8) (addr : Address) (pack : UpPack)
    (effects : List (Effect Address)) : Prop where
  handed : effects.filterMap Effect.handed = pack.rxpk.getD []
  reported : effects.filterMap Effect.reported = pack.stat.toList
  acked : effects.filterMap Effect.sent = [(s.take 3 ++ [1], addr)]

/-- The answer to a pull; the identifier that follows is not looked at. -/
def PullAnswered (s : List UInt8) (addr : Address) (effects : List (Effect Address)) : Prop :=
  ∃ eui, effects.filterMap Effect.sent = [(s.take 3 ++ 4 :: eui, addr)]

/-- A pushed or pulling datagram is answered. -/
structure Answered (fromSlice : List UInt8 → Option UpPack) (s : List UInt8) (addr : Address)
    (effects : List (Effect Address)) : Prop where
  push : s[3]? = some 0 → ∀ pack, fromSlice (s.drop 12) = some pack →
    PushAnswered s addr pack effects
  pull : s[3]? = some 2 → PullAnswered s addr effects

/-- The gateway's own address is the one of the datagram, or can be made so. -/
def Answers.Reaches [SocketAddr Address] (answers : Answers) (info : GatewayInfo)
    (addr : Address) : Prop :=
  info.down = some (SocketAddr.toString addr) ∨
    answers.connectDown = .ok () ∧ answers.hsetDown = .ok ()

/-- What it takes to answer a pull. -/
def Answers.ServesPull [SocketAddr Address] (answers : Answers) (version : UInt8)
    (addr : Address) : Prop :=
  ∃ info, answers.Admits version info ∧ answers.sendTo = .ok () ∧ answers.Reaches info addr

/-- What an answer takes: a known gateway, calls that succeed, and for a push
that it carries no status. -/
structure Serves [SocketAddr Address] (answers : Answers)
    (fromSlice : List UInt8 → Option UpPack) (s : List UInt8) (addr : Address) : Prop where
  push : s[3]? = some 0 → (∃ info, answers.Admits 2 info) ∧ answers.sendTo = .ok () ∧
    ∀ pack, fromSlice (s.drop 12) = some pack → pack.stat = none
  pull : s[3]? = some 2 → answers.ServesPull 2 addr

/-- What goes out on an attempt to send. -/
def sends (answers : Answers) (buf : List UInt8) (addr : Address) : List (Effect Address) :=
  match answers.sendTo with
  | .ok _ => [.send buf addr]
  | .error _ => []

variable {answers : Answers} {up : GatewayUpData Address} {gw : LoRaGate Address} {addr : Address}

/-- Sending adds at most the datagram to the journal, whatever the socket answers. -/
theorem sendTo_run (answers : Answers) (buf : List UInt8) (addr : Address)
    (journal : List (Effect Address)) :
    ∃ result, LoRaGate.sendTo answers buf (some addr) journal =
      some (journal ++ sends answers buf addr, result) := by
  rw [LoRaGate.sendTo, sends]
  cases hSend : answers.sendTo with
  | error error =>
      refine ⟨.error error, ?_⟩
      rw [List.append_nil]
      rfl
  | ok _ => exact ⟨.ok (), rfl⟩

theorem filterMap_sends_handed (buf : List UInt8) :
    (sends answers buf addr).filterMap Effect.handed = [] := by
  rw [sends]
  split <;> rfl

theorem filterMap_sends_reported (buf : List UInt8) :
    (sends answers buf addr).filterMap Effect.reported = [] := by
  rw [sends]
  split <;> rfl

/-- The datagram goes out exactly if the socket takes it. -/
theorem filterMap_sends_sent (buf : List UInt8) :
    (sends answers buf addr).filterMap Effect.sent =
      if answers.sendTo = .ok () then [(buf, addr)] else [] := by
  rw [sends]
  cases answers.sendTo with
  | error error => rfl
  | ok _ => rfl

/-- What is handed to the nodes for a list of packets. -/
def handOver (gw : LoRaGate Address) (up : GatewayUpData Address) (pks : List RXPK) :
    List (Effect Address) :=
  pks.map fun pk => .nodeData gw pk.rssi ⟨gw.id, up.eui, up.token, up.version, up.time, pk⟩

theorem handOver_handed (pks : List RXPK) : (handOver gw up pks).filterMap Effect.handed = pks := by
  simp [handOver, Effect.handed, Function.comp_def]

theorem handOver_reported (pks : List RXPK) :
    (handOver gw up pks).filterMap Effect.reported = [] := by
  simp [handOver, Effect.reported]

theorem handOver_sent (pks : List RXPK) : (handOver gw up pks).filterMap Effect.sent = [] := by
  simp [handOver, Effect.sent]

/-- Pushed data is handed on, packet by packet, and then acknowledged. -/
theorem pushData_run (answers : Answers) (gw : LoRaGate Address) (pks : List RXPK)
    (hSource : up.source.ip = some addr) (journal : List (Effect Address)) :
    ∃ result, gatewayPushData answers pks gw up journal =
      some (journal ++ handOver gw up pks ++
        sends answers (LoRaUdp.pushAckBuf gw.info.version up.token) addr, result) := by
  obtain ⟨result, hSend⟩ := sendTo_run answers (LoRaUdp.pushAckBuf gw.info.version up.token) addr
    (journal ++ handOver gw up pks)
  refine ⟨result, ?_⟩
  rw [gatewayPushData, bind_ok (forEach_record _ pks journal), LoRaGate.pushAck, hSource,
    ← hSend]
  rfl

/-- A pull is acknowledged once the return address is stored. -/
theorem pullData_run [SocketAddr Address] (up : GatewayUpData Address) (gw : LoRaGate Address)
    (hSource : up.source.ip = some addr)
    (hDown : gw.down = gw.info.down.bind SocketAddr.parse)
    (hReaches : answers.Reaches gw.info addr) (journal : List (Effect Address)) :
    ∃ added result, gatewayPullData answers up gw journal =
        some (journal ++ added ++
          sends answers (LoRaUdp.pullAckBuf gw.info.version up.token gw.eui) addr, result) ∧
      ∀ entry ∈ added, Effect.Quiet up.event entry := by
  have hUpdate := (updateDown_decides answers up.event gw addr).succeeds hReaches
  obtain ⟨added, hRun, hQuiet⟩ := hUpdate.bind_apply journal
  obtain ⟨result, hSend⟩ := sendTo_run answers
    (LoRaUdp.pullAckBuf gw.info.version up.token gw.eui) addr (journal ++ added)
  refine ⟨added, result, ?_, hQuiet⟩
  rw [gatewayPullData, hSource, hRun, ← hSend]
  split
  · rename_i hSame
    rw [LoRaGate.pullAck, hDown, ← hSame, Option.bind_some, SocketAddr.parse_toString]
  · rfl

/-- A pull whose return address cannot be stored is not acknowledged. -/
theorem pullData_fails [SocketAddr Address] (up : GatewayUpData Address)
    (gw : LoRaGate Address) (hSource : up.source.ip = some addr)
    (hNot : ¬answers.Reaches gw.info addr) :
    Fails (Effect.Quiet up.event) (gatewayPullData answers up gw) := by
  rw [gatewayPullData, hSource]
  exact ((updateDown_decides answers up.event gw addr).fails hNot).bind

/-- A datagram is admitted as one gateway. -/
theorem Answers.Admits.unique {version : UInt8} {info other : GatewayInfo}
    (h : answers.Admits version info) (hOther : answers.Admits version other) : info = other :=
  Option.some.inj (h.known.symm.trans hOther.known)

/-- Quiet entries show no packet and no answer. -/
theorem quiet_unseen {event : GatewayEventType} {added : List (Effect Address)}
    (h : ∀ entry ∈ added, Effect.Quiet event entry) :
    added.filterMap Effect.handed = [] ∧ added.filterMap Effect.sent = [] :=
  ⟨filterMap_quiet (fun _ hQuiet => hQuiet.handed) h,
    filterMap_quiet (fun _ hQuiet => hQuiet.sent) h⟩

/-- A quiet step reports no status. -/
theorem quiet_unreported {event : GatewayEventType} {added : List (Effect Address)}
    (h : ∀ entry ∈ added, Effect.Quiet event entry) (hEvent : ∀ st, event ≠ .status st) :
    added.filterMap Effect.reported = [] := by
  refine filterMap_quiet (fun entry hQuiet => ?_) h
  rcases hQuiet.reported with hNone | ⟨st, hStatus⟩
  · exact hNone
  · exact (hEvent st hStatus).elim

/-- A handling that fails quietly sends nothing. -/
theorem fails_unsent {event : GatewayEventType} {handler : Handler Address Unit}
    (h : Fails (Effect.Quiet event) handler) (journal : List (Effect Address)) :
    (handler.after journal).filterMap Effect.sent = journal.filterMap Effect.sent := by
  obtain ⟨error, hError⟩ := h
  obtain ⟨added, hAfter, hQuiet⟩ := hError.after journal
  rw [hAfter, List.filterMap_append, (quiet_unseen hQuiet).2, List.append_nil]

section

variable [SocketAddr Address]

/-- An admitted event is handled after quiet entries. -/
theorem process_admitted {info : GatewayInfo}
    (h : Appends (Effect.Quiet up.event) (admission answers up) (.ok (admitted answers up info))) :
    ∃ added, gatewayEventProcess answers up [] =
        (match up.event with
          | .status _ => pure ()
          | .pushData pks => gatewayPushData answers pks (admitted answers up info) up
          | .pull => gatewayPullData answers up (admitted answers up info)
          | .txAck => pure () : Handler Address Unit) added ∧
      ∀ entry ∈ added, Effect.Quiet up.event entry := by
  obtain ⟨added, hRun, hQuiet⟩ := h.bind_apply []
  exact ⟨added, hRun, hQuiet⟩

/-- A datagram that is not admitted sends nothing. -/
theorem process_fails (h : Fails (Effect.Quiet up.event) (admission answers up)) :
    ((gatewayEventProcess answers up).after []).filterMap Effect.sent = [] :=
  fails_unsent (Fails.bind h) []

/-- A pushed list of packets is answered exactly if the gateway is admitted and
the socket takes the answer. -/
theorem push_answered_iff (answers : Answers) {pks : List RXPK}
    (hSource : up.source.ip = some addr) (hEvent : up.event = .pushData pks) :
    let effects := (gatewayEventProcess answers up).after []
    (effects.filterMap Effect.handed = pks ∧ effects.filterMap Effect.reported = [] ∧
        effects.filterMap Effect.sent = [(LoRaUdp.pushAckBuf up.version up.token, addr)]) ↔
      (∃ info, answers.Admits up.version info) ∧ answers.sendTo = .ok () := by
  intro effects
  rcases admit_cases answers up with ⟨info, hAdmits, hAppends⟩ | ⟨hNot, hFails⟩
  · obtain ⟨added, hRun, hQuiet⟩ := process_admitted hAppends
    rw [hEvent] at hRun
    obtain ⟨result, hPush⟩ := pushData_run answers (admitted answers up info) pks hSource added
    have hEffects : effects = _ := after_eq (hRun.trans hPush)
    have hUnseen := quiet_unseen hQuiet
    have hUnreported := quiet_unreported hQuiet fun st hStatus => by
      rw [hEvent] at hStatus
      cases hStatus
    rw [hEffects]
    simp only [List.filterMap_append, hUnseen.1, hUnseen.2, hUnreported, handOver_handed,
      handOver_reported, handOver_sent, filterMap_sends_handed, filterMap_sends_reported,
      filterMap_sends_sent, List.nil_append, List.append_nil, true_and]
    refine ⟨fun h => ⟨⟨info, hAdmits⟩, ?_⟩, fun h => if_pos h.2⟩
    by_contra hRefused
    rw [if_neg hRefused] at h
    cases h
  · have hUnsent : effects.filterMap Effect.sent = [] := process_fails hFails
    refine iff_of_false (fun h => ?_) fun h => hNot h.1
    rw [hUnsent] at h
    cases h.2.2

/-- A pull sends its acknowledgement or nothing, and which is decided by the answers. -/
theorem pull_sent (answers : Answers) (hSource : up.source.ip = some addr)
    (hEvent : up.event = .pull) :
    answers.ServesPull up.version addr ∧
        ((gatewayEventProcess answers up).after []).filterMap Effect.sent =
          [(LoRaUdp.pullAckBuf up.version up.token up.eui, addr)] ∨
      ¬answers.ServesPull up.version addr ∧
        ((gatewayEventProcess answers up).after []).filterMap Effect.sent = [] := by
  rcases admit_cases answers up with ⟨info, hAdmits, hAppends⟩ | ⟨hNot, hFails⟩
  · obtain ⟨added, hRun, hQuiet⟩ := process_admitted hAppends
    rw [hEvent] at hRun
    by_cases hReaches : answers.Reaches info addr
    · obtain ⟨more, result, hPull, hMore⟩ := pullData_run up (admitted answers up info) hSource rfl
        hReaches added
      rw [after_eq (hRun.trans hPull)]
      simp only [List.filterMap_append, (quiet_unseen hQuiet).2, (quiet_unseen hMore).2,
        filterMap_sends_sent, List.nil_append]
      by_cases hSend : answers.sendTo = .ok ()
      · exact .inl ⟨⟨info, hAdmits, hSend, hReaches⟩, if_pos hSend⟩
      · exact .inr ⟨fun h => hSend h.choose_spec.2.1, if_neg hSend⟩
    · obtain ⟨error, hError⟩ := pullData_fails up (admitted answers up info) hSource hReaches
      obtain ⟨more, hPull, hMore⟩ := hError added
      rw [after_eq (hRun.trans hPull)]
      simp only [List.filterMap_append, (quiet_unseen hQuiet).2, (quiet_unseen hMore).2,
        List.append_nil]
      refine .inr ⟨?_, trivial⟩
      rintro ⟨other, hOther, -, hOtherReaches⟩
      exact hReaches (hOther.unique hAdmits ▸ hOtherReaches)
  · exact .inr ⟨fun h => hNot ⟨h.choose, h.choose_spec.1⟩, process_fails hFails⟩

/-- A bare status report is never acknowledged. -/
theorem status_unsent {st : GatewayStatus} (hEvent : up.event = .status st) :
    ((gatewayEventProcess answers up).after []).filterMap Effect.sent = [] := by
  rcases admit_cases answers up with ⟨info, hAdmits, hAppends⟩ | ⟨hNot, hFails⟩
  · obtain ⟨added, hRun, hQuiet⟩ := process_admitted hAppends
    rw [hEvent] at hRun
    rw [after_eq hRun]
    exact (quiet_unseen hQuiet).2
  · exact process_fails hFails

variable {fromSlice : List UInt8 → Option UpPack} {now : Timestamp} {t0 t1 kind : UInt8}
  {eui body : List UInt8} {pack : UpPack}

/-- A pushed datagram with a status is never answered, and one without is if
the gateway is admitted and the socket takes the answer. -/
theorem pushAnswered_iff (hUp : UdpForward.Accepted fromSlice now addr up t0 t1 0 eui body)
    (hPack : fromSlice body = some pack) :
    PushAnswered (2 :: t0 :: t1 :: 0 :: (eui ++ body)) addr pack
        ((gatewayEventProcess answers up).after []) ↔
      (∃ info, answers.Admits 2 info) ∧ answers.sendTo = .ok () ∧ pack.stat = none := by
  have hSource : up.source.ip = some addr := by rw [hUp.source]
  obtain ⟨other, hOther, hEvent⟩ := UdpForward.eventOf_push hUp.eui_length hUp.event
  obtain rfl : other = pack := Option.some.inj (hOther.symm.trans hPack)
  rcases hEvent with ⟨st, hStat, hEvent⟩ | ⟨hStat, pks, hRxpk, hEvent⟩
  · refine iff_of_false (fun h => ?_) fun h => ?_
    · have hAcked := h.acked
      rw [status_unsent hEvent] at hAcked
      cases hAcked
    · rw [hStat] at h
      cases h.2.2
  · have hPush := push_answered_iff answers hSource hEvent
    rw [LoRaUdp.pushAckBuf_eq hUp, hUp.version] at hPush
    constructor
    · intro h
      have hHanded := h.handed
      have hReported := h.reported
      rw [hRxpk] at hHanded
      rw [hStat] at hReported
      have hBoth := hPush.mp ⟨hHanded, hReported, h.acked⟩
      exact ⟨hBoth.1, hBoth.2, hStat⟩
    · intro h
      have hAll := hPush.mpr ⟨h.1, h.2.1⟩
      refine ⟨?_, ?_, hAll.2.2⟩
      · rw [hRxpk]
        exact hAll.1
      · rw [hStat]
        exact hAll.2.1

/-- A pull is answered as the protocol asks exactly when the answers serve it. -/
theorem pullAnswered_iff (hUp : UdpForward.Accepted fromSlice now addr up t0 t1 2 eui body) :
    PullAnswered (2 :: t0 :: t1 :: 2 :: (eui ++ body)) addr
        ((gatewayEventProcess answers up).after []) ↔ answers.ServesPull 2 addr := by
  have hSource : up.source.ip = some addr := by rw [hUp.source]
  have hEvent : up.event = .pull := (Exec.ok.inj hUp.event).symm
  have hPull := pull_sent answers hSource hEvent
  rw [LoRaUdp.pullAckBuf_eq hUp, hUp.version] at hPull
  rcases hPull with ⟨hServes, hSent⟩ | ⟨hNot, hSent⟩
  · exact iff_of_true ⟨eui.reverse, hSent⟩ hServes
  · refine iff_of_false ?_ hNot
    rintro ⟨other, hOther⟩
    rw [hSent] at hOther
    cases hOther

/-- Receiving a datagram that decodes is processing the gateway message. -/
theorem received_eq (answers : Answers) {s : List UInt8}
    (h : UdpForward.decode fromSlice now s addr = .ok up) :
    received answers fromSlice now s addr = (gatewayEventProcess answers up).after [] := by
  rw [received, h]

/-- An accepted datagram is answered, with all it carries handed on, exactly if
the gateway is known, the calls on the way succeed, and a push has no status. -/
theorem answered_iff {s : List UInt8}
    (h : UdpForward.decode fromSlice now s addr = .ok up) :
    Answered fromSlice s addr (received answers fromSlice now s addr) ↔
      Serves answers fromSlice s addr := by
  rw [received_eq answers h]
  obtain ⟨t0, t1, kind, eui, body, rfl, hUp⟩ := UdpForward.decode_ok h
  have hBody : (2 :: t0 :: t1 :: kind :: (eui ++ body)).drop 12 = body :=
    List.drop_left' hUp.eui_length
  have hKind : (2 :: t0 :: t1 :: kind :: (eui ++ body))[3]? = some kind := rfl
  constructor
  · intro hAnswered
    constructor
    · intro hPush
      obtain rfl : kind = 0 := Option.some.inj (hKind.symm.trans hPush)
      obtain ⟨pack, hPack, _⟩ := UdpForward.eventOf_push hUp.eui_length hUp.event
      have hOne := (pushAnswered_iff hUp hPack).mp 
        (hAnswered.push hPush pack (by rw [hBody]; exact hPack))
      refine ⟨hOne.1, hOne.2.1, fun other hOther => ?_⟩
      rw [hBody] at hOther
      obtain rfl : pack = other := Option.some.inj (hPack.symm.trans hOther)
      exact hOne.2.2
    · intro hPull
      obtain rfl : kind = 2 := Option.some.inj (hKind.symm.trans hPull)
      exact (pullAnswered_iff hUp).mp (hAnswered.pull hPull)
  · intro hServes
    constructor
    · intro hPush pack hPack
      have hAll := hServes.push hPush
      have hStat := hAll.2.2 pack hPack
      obtain rfl : kind = 0 := Option.some.inj (hKind.symm.trans hPush)
      rw [hBody] at hPack
      exact (pushAnswered_iff hUp hPack).mpr ⟨hAll.1, hAll.2.1, hStat⟩
    · intro hPull
      obtain rfl : kind = 2 := Option.some.inj (hKind.symm.trans hPull)
      exact (pullAnswered_iff hUp).mpr (hServes.pull hPull)

end

def wellKnown : GatewayInfo := ⟨⟨5⟩, 0, 2, ⟨0⟩, none, none⟩

/-- Every call succeeds, for a gateway whose record is cached. -/
def wellAnswers : Answers where
  now := ⟨0⟩
  connect := .ok ()
  load := .ok (some wellKnown)
  findGate := .ok (some ⟨5⟩)
  register := .ok ()
  updateActiveTime := .ok ()
  connectVersion := .ok ()
  hsetVersion := .ok ()
  findDevice := .ok true
  updateDevice := .ok ()
  connectDown := .ok ()
  hsetDown := .ok ()
  sendTo := .ok ()

def packet : RXPK :=
  ⟨none, 1, ⟨0x44590666⟩, 0, 0, 1, .LORA, "SF7BW125", none, -50, ⟨0x40a00000⟩, none, "AA=="⟩

def packetText : String :=
  "\x7b\"tmst\":1,\"freq\":868.1,\"chan\":0,\"rfch\":0,\"stat\":1,\"modu\":\"LORA\"," ++
    "\"datr\":\"SF7BW125\",\"rssi\":-50,\"lsnr\":5.0,\"data\":\"AA==\"\x7d"

/-- A pushed datagram with one packet, and what follows it in the payload. -/
def pushed (rest : String) : List UInt8 :=
  [2, 7, 9, 0, 1, 2, 3, 4, 5, 6, 7, 8] ++
    Text.ascii ("\x7b\"rxpk\":[" ++ packetText ++ "]" ++ rest ++ "\x7d")

def emptyStatus : GatewayStatus := ⟨none, none, none, none, none, none, none, none, none, none⟩

theorem decode_pushed {pack : UpPack} {event : GatewayEventType} (rest : String)
    (addr : Address) (hEvent : splitPushAndState (fun _ => some pack) [] = some event) :
    UdpForward.decode (fun _ => some pack) ⟨0⟩ (pushed rest) addr =
      .ok ⟨⟨0x0102030405060708⟩, 2, ⟨0x0907⟩, ⟨0⟩, ⟨some addr⟩, event⟩ := by
  have hSplit : ∀ body, splitPushAndState (fun _ => some pack) body = some event := fun _ => hEvent
  refine (@UdpForward.decode_framed Address (fun _ => some pack) ⟨0⟩ addr 2 7 9 0
    [1, 2, 3, 4, 5, 6, 7, 8] _ rfl).trans ?_
  rw [if_neg (by decide), UdpForward.eventOf, if_pos rfl, UdpForward.slice_body rfl, ok_bind,
    hSplit]
  rfl

/-- A packet alone is handed on and acknowledged. -/
theorem packet_answered :
    Answered (fun _ => some ⟨some [packet], none⟩) (pushed "") "10.0.0.1:1700"
      (received wellAnswers (fun _ => some ⟨some [packet], none⟩) ⟨0⟩ (pushed "")
        "10.0.0.1:1700") := by
  have hDecode : UdpForward.decode (fun _ => some ⟨some [packet], none⟩) ⟨0⟩ (pushed "")
      "10.0.0.1:1700" = _ := decode_pushed "" "10.0.0.1:1700" rfl
  refine (answered_iff hDecode).mpr ⟨fun _ => ⟨⟨wellKnown, ?_⟩, rfl, ?_⟩, fun hPull => ?_⟩
  · exact ⟨rfl, rfl, rfl, .inl rfl, .inr ⟨rfl, rfl⟩⟩
  · intro pack hPack
    cases hPack
    rfl
  · cases (show (some 0 : Option UInt8) = some 2 from hPull)

/-- With a status next to it, the packet is lost and nothing is acknowledged. -/
theorem packet_lost :
    let parse : List UInt8 → Option UpPack := fun _ => some ⟨some [packet], some emptyStatus⟩
    let s := pushed ",\"stat\":\x7b\x7d"
    let effects := received wellAnswers parse ⟨0⟩ s "10.0.0.1:1700"
    (effects.filterMap Effect.handed = [] ∧ effects.filterMap Effect.sent = []) ∧
      ¬Answered parse s "10.0.0.1:1700" effects := by
  intro parse s effects
  have hDecode : UdpForward.decode parse ⟨0⟩ s "10.0.0.1:1700" = _ :=
    decode_pushed ",\"stat\":\x7b\x7d" "10.0.0.1:1700" rfl
  have hEffects := received_eq wellAnswers hDecode
  have hSent : effects.filterMap Effect.sent = [] := by
    rw [show effects = _ from hEffects]
    rfl
  refine ⟨⟨?_, hSent⟩, fun h => ?_⟩
  · rw [show effects = _ from hEffects]
    rfl
  · have hAcked := (h.push rfl _ rfl).acked
    rw [hSent] at hAcked
    cases hAcked

end SnapEmu.Gateway
