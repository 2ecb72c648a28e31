import SnapEmu.Device.Types
import SnapEmu.Semantics.ByteOrder
import SnapEmu.Semantics.Exec

/-! The datagrams of packet forwarders: what they decode to, and the
acknowledgements built from what was decoded. -/
namespace SnapEmu.Gateway

open Device Semantics Exec

inductive DeviceError where
  | data (msg : String)
  | device (msg : String)
  | redis
  | orm
  | io
  deriving DecidableEq

structure GatewayToken where
  value : UInt16
  deriving DecidableEq

namespace GatewayToken

def fromSlice (u : List UInt8) : Option GatewayToken :=
  if u.length ≠ 2 then none else some ⟨UInt16.ofNat (LittleEndian.value u)⟩

def asBytesToken (token : GatewayToken) : List UInt8 :=
  LittleEndian.encode 2 token.value.toNat

end GatewayToken

end SnapEmu.Gateway

namespace SnapEmu.Device.Eui

open Semantics

def toBytes (eui : Eui) : List UInt8 := LittleEndian.encode 8 eui.value.toNat

def fromBeBytes (s : List UInt8) : Option Eui :=
  if s.length < 8 then none else some ⟨UInt64.ofNat (BigEndian.value (s.take 8))⟩

end SnapEmu.Device.Eui

namespace SnapEmu.Gateway

open Device Semantics Exec

inductive UpMode where
  | LORA
  deriving DecidableEq

structure RXPK where
  time : Option String
  tmst : UInt32
  freq : F32
  chan : UInt32
  rfch : UInt32
  stat : Int32
  modu : UpMode
  datr : String
  codr : Option String
  rssi : Int32
  lsnr : F32
  size : Option UInt32
  data : String
  deriving DecidableEq

structure GatewayStatus where
  time : Option String
  lati : Option F32
  long : Option F32
  alti : Option Int32
  rxnb : Option UInt32
  rxok : Option UInt32
  rwfw : Option UInt32
  ackr : Option F32
  dwnb : Option UInt32
  txnb : Option UInt32
  deriving DecidableEq

/-- A received packet on its way to the node it comes from. -/
structure PushData where
  gateway : Id
  eui : Eui
  token : GatewayToken
  version : UInt8
  time : Timestamp
  pk : RXPK
  deriving DecidableEq

inductive GatewayEventType where
  | status (status : GatewayStatus)
  | pushData (pks : List RXPK)
  | pull
  | txAck
  deriving DecidableEq

structure GatewaySource (Address : Type) where
  ip : Option Address
  deriving DecidableEq

structure GatewayUpData (Address : Type) where
  eui : Eui
  version : UInt8
  token : GatewayToken
  time : Timestamp
  source : GatewaySource Address
  event : GatewayEventType
  deriving DecidableEq

structure UpPack where
  rxpk : Option (List RXPK)
  stat : Option GatewayStatus

/-- The two objects of a payload, one of which is kept. -/
def splitPushAndState (fromSlice : List UInt8 → Option UpPack) (s : List UInt8) :
    Option GatewayEventType :=
  match fromSlice s with
  | none => none
  | some up =>
      match up.stat with
      | some stat => some (.status stat)
      | none => up.rxpk.map .pushData

/-- Bytes as the debug format prints them in hexadecimal. -/
def hexDebug (s : List UInt8) : String :=
  "[" ++ ", ".intercalate (s.map fun byte => (String.ofList (Nat.toDigits 16 byte.toNat)).toUpper)
    ++ "]"

namespace UdpForward

variable {Address : Type}

def invalid (what : String) (s : List UInt8) : DeviceError :=
  .data ("gateway receive invalid" ++ what ++ ": " ++ hexDebug s)

def okOr {α : Type} (value : Option α) (error : DeviceError) : Exec DeviceError α :=
  match value with
  | some value => .ok value
  | none => .err error

/-- The event a datagram of some kind reports. -/
def eventOf (fromSlice : List UInt8 → Option UpPack) (s : List UInt8) (kind : UInt8) :
    Exec DeviceError GatewayEventType :=
  if kind = 0 then do
    let body ← slice s 12 s.length
    okOr (splitPushAndState fromSlice body) (invalid " payload" s)
  else if kind = 2 then .ok .pull
  else if kind = 5 then .ok .txAck
  else .err (invalid " version" s)

/-- `decode`, with the parser of payloads and the clock. -/
def decode (fromSlice : List UInt8 → Option UpPack) (now : Timestamp) (s : List UInt8)
    (addr : Address) : Exec DeviceError (GatewayUpData Address) :=
  if s.length < 12 then .err (invalid "" s)
  else do
    let version ← index s 0
    if version ≠ 2 then .err (invalid " version" s)
    else do
      let kind ← index s 3
      let event ← eventOf fromSlice s kind
      let tokenBytes ← slice s 1 3
      let token ← okOr (GatewayToken.fromSlice tokenBytes) (invalid " token" s)
      let euiBytes ← slice s 4 12
      let eui ← okOr (Eui.fromBeBytes euiBytes) (invalid " eui" s)
      .ok ⟨eui, version, token, now, ⟨some addr⟩, event⟩

section

variable {fromSlice : List UInt8 → Option UpPack} {now : Timestamp} {addr : Address}
  {version t0 t1 kind : UInt8} {eui body : List UInt8}

theorem slice_eui (hEui : eui.length = 8) :
    (slice (version :: t0 :: t1 :: kind :: (eui ++ body)) 4 12 : Exec DeviceError _) = .ok eui := by
  have hBound : 12 ≤ (version :: t0 :: t1 :: kind :: (eui ++ body)).length := by
    simp [hEui]
  exact slice_eq_ok.mpr ⟨by omega, hBound, List.take_left' hEui⟩

theorem slice_body (hEui : eui.length = 8) :
    (slice (version :: t0 :: t1 :: kind :: (eui ++ body)) 12
      (version :: t0 :: t1 :: kind :: (eui ++ body)).length : Exec DeviceError _) = .ok body := by
  have hBound : 12 ≤ (version :: t0 :: t1 :: kind :: (eui ++ body)).length := by
    simp [hEui]
  exact slice_eq_ok.mpr (Block.suffix.mpr ⟨hBound, List.drop_left' hEui⟩)

/-- What a datagram with a whole header decodes to. -/
theorem decode_framed (hEui : eui.length = 8) :
    decode fromSlice now (version :: t0 :: t1 :: kind :: (eui ++ body)) addr =
      if version ≠ 2 then
        .err (invalid " version" (version :: t0 :: t1 :: kind :: (eui ++ body)))
      else
        eventOf fromSlice (version :: t0 :: t1 :: kind :: (eui ++ body)) kind >>= fun event =>
          .ok ⟨⟨UInt64.ofNat (BigEndian.value eui)⟩, version,
            ⟨UInt16.ofNat (LittleEndian.value [t0, t1])⟩, now, ⟨some addr⟩, event⟩ := by
  have hLong : ¬(version :: t0 :: t1 :: kind :: (eui ++ body)).length < 12 := by
    simp
    omega
  have hToken : (slice (version :: t0 :: t1 :: kind :: (eui ++ body)) 1 3 : Exec DeviceError _) =
      .ok [t0, t1] := slice_eq_ok.mpr ⟨by omega, by simp, rfl⟩
  have hEuiValue : Eui.fromBeBytes eui = some ⟨UInt64.ofNat (BigEndian.value eui)⟩ := by
    rw [Eui.fromBeBytes, if_neg (by omega), List.take_of_length_le (by omega)]
  have hVersion : (index (version :: t0 :: t1 :: kind :: (eui ++ body)) 0 : Exec DeviceError _) =
      .ok version := rfl
  have hKind : (index (version :: t0 :: t1 :: kind :: (eui ++ body)) 3 : Exec DeviceError _) =
      .ok kind := rfl
  rw [decode, if_neg hLong, hVersion, ok_bind]
  split
  · rfl
  · rw [hKind, ok_bind, hToken, slice_eui hEui]
    simp only [ok_bind, GatewayToken.fromSlice, okOr, hEuiValue]
    rfl

end

/-- Every datagram of at least twelve bytes has a whole header. -/
theorem exists_framed {s : List UInt8} (hLong : 12 ≤ s.length) :
    ∃ version t0 t1 kind eui body, eui.length = 8 ∧
      s = version :: t0 :: t1 :: kind :: (eui ++ body) := by
  match s, hLong with
  | version :: t0 :: t1 :: kind :: rest, hLong =>
      refine ⟨version, t0, t1, kind, rest.take 8, rest.drop 8, ?_, ?_⟩
      · simp only [List.length_cons] at hLong
        simp
        omega
      · rw [List.take_append_drop]

/-- An accepted datagram and what is read from it. -/
structure Accepted (fromSlice : List UInt8 → Option UpPack) (now : Timestamp) (addr : Address)
    (up : GatewayUpData Address) (t0 t1 kind : UInt8) (eui body : List UInt8) : Prop where
  eui_length : eui.length = 8
  event : eventOf fromSlice (2 :: t0 :: t1 :: kind :: (eui ++ body)) kind = .ok up.event
  eui : up.eui = ⟨UInt64.ofNat (BigEndian.value eui)⟩
  version : up.version = 2
  token : up.token = ⟨UInt16.ofNat (LittleEndian.value [t0, t1])⟩
  time : up.time = now
  source : up.source = ⟨some addr⟩

/-- A datagram that decodes has the layout of the protocol. -/
theorem decode_ok {fromSlice : List UInt8 → Option UpPack} {now : Timestamp} {s : List UInt8}
    {addr : Address} {up : GatewayUpData Address}
    (h : decode fromSlice now s addr = .ok up) :
    ∃ t0 t1 kind eui body, s = 2 :: t0 :: t1 :: kind :: (eui ++ body) ∧
      Accepted fromSlice now addr up t0 t1 kind eui body := by
  have hLong : 12 ≤ s.length := by
    by_contra hShort
    rw [decode, if_pos (by omega)] at h
    cases h
  obtain ⟨version, t0, t1, kind, eui, body, hEui, rfl⟩ := exists_framed hLong
  rw [decode_framed hEui] at h
  split at h
  · cases h
  · rename_i hVersion
    obtain rfl : version = 2 := not_not.mp hVersion
    obtain ⟨event, hEvent, hUp⟩ := bind_eq_ok.mp h
    cases hUp
    exact ⟨t0, t1, kind, eui, body, rfl, hEui, hEvent, rfl, rfl, rfl, rfl, rfl⟩

/-- A pushed payload has a status, or packets without one. -/
theorem eventOf_push {fromSlice : List UInt8 → Option UpPack} {version t0 t1 : UInt8}
    {eui body : List UInt8} {event : GatewayEventType} (hEui : eui.length = 8)
    (h : eventOf fromSlice (version :: t0 :: t1 :: 0 :: (eui ++ body)) 0 = .ok event) :
    ∃ pack, fromSlice body = some pack ∧
      ((∃ st, pack.stat = some st ∧ event = .status st) ∨
        pack.stat = none ∧ ∃ pks, pack.rxpk = some pks ∧ event = .pushData pks) := by
  rw [eventOf, if_pos rfl, slice_body hEui, ok_bind, splitPushAndState] at h
  cases hPack : fromSlice body with
  | none =>
      rw [hPack] at h
      cases h
  | some pack =>
      rw [hPack] at h
      refine ⟨pack, rfl, ?_⟩
      cases hStat : pack.stat with
      | some st =>
          simp only [hStat, okOr, ok.injEq] at h
          exact .inl ⟨st, rfl, h.symm⟩
      | none =>
          simp only [hStat] at h
          cases hRxpk : pack.rxpk with
          | none =>
              rw [hRxpk] at h
              cases h
          | some pks =>
              simp only [hRxpk, Option.map_some, okOr, ok.injEq] at h
              exact .inr ⟨rfl, pks, rfl, h.symm⟩

/-- Twelve bytes are enough for every kind of datagram to be read without a panic. -/
theorem eventOf_returns (fromSlice : List UInt8 → Option UpPack) {s : List UInt8} (kind : UInt8)
    (hLong : 12 ≤ s.length) : (eventOf fromSlice s kind).Returns := by
  have hBody : (slice s 12 s.length : Exec DeviceError _) = .ok (s.drop 12) :=
    slice_eq_ok.mpr (Block.suffix.mpr ⟨hLong, rfl⟩)
  rw [eventOf, hBody, ok_bind]
  split_ifs
  · cases splitPushAndState fromSlice (s.drop 12) with
    | none => exact returns_err _
    | some event => exact returns_ok event
  · exact returns_ok _
  · exact returns_ok _
  · exact returns_err _

/-- No datagram makes the decoder read out of bounds. -/
theorem decode_returns (fromSlice : List UInt8 → Option UpPack) (now : Timestamp)
    (s : List UInt8) (addr : Address) : (decode fromSlice now s addr).Returns := by
  by_cases hLong : 12 ≤ s.length
  · obtain ⟨version, t0, t1, kind, eui, body, hEui, rfl⟩ := exists_framed hLong
    have hEvent := eventOf_returns fromSlice kind hLong
    rw [decode_framed hEui]
    split
    · exact returns_err _
    · exact hEvent.bind fun _ _ => returns_ok _
  · rw [decode, if_pos (by omega)]
    exact returns_err _

end UdpForward

namespace LoRaUdp

variable {Address : Type}

/-- The bytes of `push_ack`. -/
def pushAckBuf (version : UInt8) (token : GatewayToken) : List UInt8 :=
  version :: token.asBytesToken ++ [1]

/-- The bytes of `pull_ack`. -/
def pullAckBuf (version : UInt8) (token : GatewayToken) (eui : Eui) : List UInt8 :=
  version :: token.asBytesToken ++ 4 :: eui.toBytes

/-- The token goes out in the order in which it came in. -/
theorem asBytesToken_ofNat (t0 t1 : UInt8) :
    GatewayToken.asBytesToken ⟨UInt16.ofNat (LittleEndian.value [t0, t1])⟩ = [t0, t1] := by
  have hLess : LittleEndian.value [t0, t1] < UInt16.size := by
    have hValue := LittleEndian.value_lt [t0, t1]
    simpa using hValue
  rw [GatewayToken.asBytesToken, UInt16.toNat_ofNat_of_lt' hLess]
  exact LittleEndian.encode_value [t0, t1]

/-- The identifier is read in one byte order and written in the other. -/
theorem toBytes_ofNat {eui : List UInt8} (hEui : eui.length = 8) :
    Eui.toBytes ⟨UInt64.ofNat (BigEndian.value eui)⟩ = eui.reverse := by
  have hLess : BigEndian.value eui < UInt64.size := by
    have hValue := BigEndian.value_lt eui
    rw [hEui] at hValue
    exact hValue
  rw [Eui.toBytes, UInt64.toNat_ofNat_of_lt' hLess, ← hEui]
  exact BigEndian.littleEndian_encode_value eui

/-- The acknowledgements of a datagram repeat its bytes: the version, the
token, the kind of the answer, and for a pull the identifier. -/
def Echoes (s : List UInt8) (up : GatewayUpData Address) : Prop :=
  pushAckBuf up.version up.token = s.take 3 ++ [1] ∧
    pullAckBuf up.version up.token up.eui = s.take 3 ++ 4 :: (s.drop 4).take 8

instance (s : List UInt8) (up : GatewayUpData Address) : Decidable (Echoes s up) :=
  inferInstanceAs (Decidable (_ ∧ _))

/-- The identifier of a datagram reads the same backwards. -/
def EuiPalindrome (s : List UInt8) : Prop := ((s.drop 4).take 8).reverse = (s.drop 4).take 8

instance (s : List UInt8) : Decidable (EuiPalindrome s) := inferInstanceAs (Decidable (_ = _))

section

variable {fromSlice : List UInt8 → Option UpPack} {now : Timestamp} {addr : Address}
  {up : GatewayUpData Address} {t0 t1 kind : UInt8} {eui body : List UInt8}

/-- The acknowledgement of pushed data: version, token and type. -/
theorem pushAckBuf_eq (hUp : UdpForward.Accepted fromSlice now addr up t0 t1 kind eui body) :
    pushAckBuf up.version up.token = [2, t0, t1, 1] := by
  rw [pushAckBuf, hUp.version, hUp.token, asBytesToken_ofNat]
  rfl

/-- The acknowledgement of a pull also carries the identifier. -/
theorem pullAckBuf_eq (hUp : UdpForward.Accepted fromSlice now addr up t0 t1 kind eui body) :
    pullAckBuf up.version up.token up.eui = [2, t0, t1] ++ 4 :: eui.reverse := by
  rw [pullAckBuf, hUp.version, hUp.token, hUp.eui, asBytesToken_ofNat, toBytes_ofNat hUp.eui_length]

end

/-- Both acknowledgements repeat the bytes of the request exactly if its
identifier reads the same backwards. -/
theorem echoes_iff {fromSlice : List UInt8 → Option UpPack} {now : Timestamp} {s : List UInt8}
    {addr : Address} {up : GatewayUpData Address}
    (h : UdpForward.decode fromSlice now s addr = .ok up) : Echoes s up ↔ EuiPalindrome s := by
  obtain ⟨t0, t1, kind, eui, body, rfl, hUp⟩ := UdpForward.decode_ok h
  have hTake : (eui ++ body).take 8 = eui := List.take_left' hUp.eui_length
  simp only [Echoes, EuiPalindrome, pushAckBuf_eq hUp, pullAckBuf_eq hUp, List.take_succ_cons,
    List.take_zero, List.drop_succ_cons, List.drop_zero, hTake]
  simp

/-- A datagram whose identifier reads the same backwards. -/
theorem echoes_palindrome :
    Echoes [2, 7, 9, 2, 1, 2, 3, 4, 4, 3, 2, 1]
      (⟨⟨0x0102030404030201⟩, 2, ⟨0x0907⟩, ⟨0⟩, ⟨some ()⟩, .pull⟩ : GatewayUpData Unit) := by
  have hDecode : UdpForward.decode (fun _ => none) ⟨0⟩ [2, 7, 9, 2, 1, 2, 3, 4, 4, 3, 2, 1] () =
      .ok ⟨⟨0x0102030404030201⟩, 2, ⟨0x0907⟩, ⟨0⟩, ⟨some ()⟩, .pull⟩ := by decide
  exact (echoes_iff hDecode).mpr (by decide)

/-- The answer to a pull carries the identifier backwards. -/
theorem pull_ack_reversed :
    UdpForward.decode (fun _ => none) ⟨0⟩ [2, 7, 9, 2, 1, 2, 3, 4, 5, 6, 7, 8] () =
        .ok ⟨⟨0x0102030405060708⟩, 2, ⟨0x0907⟩, ⟨0⟩, ⟨some ()⟩, .pull⟩ ∧
      ¬Echoes [2, 7, 9, 2, 1, 2, 3, 4, 5, 6, 7, 8]
        (⟨⟨0x0102030405060708⟩, 2, ⟨0x0907⟩, ⟨0⟩, ⟨some ()⟩, .pull⟩ : GatewayUpData Unit) := by
  decide

end LoRaUdp
end SnapEmu.Gateway
