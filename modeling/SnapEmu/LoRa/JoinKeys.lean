import SnapEmu.LoRa.Uplink
import SnapEmu.Semantics.ByteOrder

/-! The session keys of a join: what the server derives and what a device
derives from the join-accept. The block cipher is a function of key and block;
the frame creator keeps the bytes it is given in their order. -/
namespace SnapEmu.LoRa

open Device Semantics

def u32ToBeBytes (n : UInt32) : Vector UInt8 4 :=
  ⟨(BigEndian.encode 4 n.toNat).toArray, by simp⟩

def u16ToBeBytes (n : UInt16) : Vector UInt8 2 :=
  ⟨(BigEndian.encode 2 n.toNat).toArray, by simp⟩

def u32ToLeBytes (n : UInt32) : Vector UInt8 4 :=
  ⟨(LittleEndian.encode 4 n.toNat).toArray, by simp⟩

/-- The wire form of an address, read back. -/
def loRaAddrFrom (bytes : Vector UInt8 4) : LoRaAddr :=
  ⟨UInt32.ofNat (LittleEndian.value bytes.toList)⟩

/-- The bytes of a join-accept that its builder sets. -/
structure AcceptJoin where
  appNonce : Vector UInt8 3
  netId : Vector UInt8 3
  devAddr : Vector UInt8 4
  rxDelay : UInt8
  deriving DecidableEq

namespace AcceptJoin

def new : AcceptJoin := ⟨.replicate 3 0, .replicate 3 0, .replicate 4 0, 0⟩

def setAppNonce (accept : AcceptJoin) (appNonce : UInt32) : AcceptJoin :=
  { accept with
    appNonce := #v[(appNonce >>> 16).toUInt8, (appNonce >>> 8).toUInt8, appNonce.toUInt8] }

def setNetId (accept : AcceptJoin) (netId : UInt32) : AcceptJoin :=
  { accept with netId := #v[(netId >>> 16).toUInt8, (netId >>> 8).toUInt8, netId.toUInt8] }

def setDevAddr (accept : AcceptJoin) (devAddr : UInt32) : AcceptJoin :=
  { accept with devAddr := u32ToLeBytes devAddr }

def setRxDelay (accept : AcceptJoin) (rxDelay : UInt8) : AcceptJoin :=
  { accept with rxDelay := rxDelay }

end AcceptJoin

/-- The frame that `JoinRespDataBuilder` builds for a node. -/
def JoinRespDataBuilder.build (node : NodeInfo) (addr : LoRaAddr) (appNonce netId : UInt32) :
    AcceptJoin :=
  (((AcceptJoin.new.setDevAddr addr.value).setAppNonce appNonce).setRxDelay
    node.rx1Delay.toUInt16.toUInt8).setNetId netId

/-- The fields of a join-request, as they stand in the frame. -/
structure JoinRequestPayload where
  appEui : Vector UInt8 8
  devEui : Vector UInt8 8
  devNonce : Vector UInt8 2
  deriving DecidableEq

/-- The values that the methods of `RequestJoin` give. -/
def JoinRequestPayload.read (payload : JoinRequestPayload) : RequestJoin where
  appEui := ⟨UInt64.ofNat (LittleEndian.value payload.appEui.toList)⟩
  devEui := ⟨UInt64.ofNat (LittleEndian.value payload.devEui.toList)⟩
  devNonce := payload.devNonce[1].toUInt16 + payload.devNonce[0].toUInt16 <<< 8

structure NodeKeys where
  nwkSkey : Key
  appSkey : Key
  deriving DecidableEq

namespace NodeKeys

def fillArgs (s : Vector UInt8 16) (joinNonce netId : UInt32) (devNonce : UInt16) :
    Vector UInt8 16 :=
  let joinNonce := u32ToBeBytes joinNonce
  let s := ((s.set 1 joinNonce[1]).set 2 joinNonce[2]).set 3 joinNonce[3]
  let netId := u32ToBeBytes netId
  let s := ((s.set 4 netId[1]).set 5 netId[2]).set 6 netId[3]
  let devNonce := u16ToBeBytes devNonce
  (s.set 7 devNonce[0]).set 8 devNonce[1]

/-- The block that is enciphered under a tag. -/
def block (tag : UInt8) (joinNonce netId : UInt32) (devNonce : UInt16) : Vector UInt8 16 :=
  fillArgs ((Vector.replicate 16 0).set 0 tag) joinNonce netId devNonce

def new (encryptBlock : Key → Vector UInt8 16 → Vector UInt8 16) (appKey : Key)
    (joinNonce netId : UInt32) (devNonce : UInt16) : NodeKeys :=
  { nwkSkey := ⟨encryptBlock appKey (block 1 joinNonce netId devNonce)⟩
    appSkey := ⟨encryptBlock appKey (block 2 joinNonce netId devNonce)⟩ }

end NodeKeys

/-- What `new_otaa_node` keeps for the node and what it sends, with the two
numbers it draws. -/
def newOtaaNode (encryptBlock : Key → Vector UInt8 16 → Vector UInt8 16) (info : NodeInfo)
    (devNonce : UInt16) (randomNonce randomNetId : UInt32) : LoRaOTAANodeInfo × AcceptJoin :=
  let appNonce := randomNonce &&& 0xFFFFFF
  let netId := randomNetId &&& 0xFFFFFF
  let keys := NodeKeys.new encryptBlock info.appKey appNonce netId devNonce
  (⟨keys.appSkey, keys.nwkSkey, devNonce, appNonce, netId⟩,
    JoinRespDataBuilder.build info info.devAddr appNonce netId)

/-- The block of a tag as the device builds it, from frame bytes. -/
def deviceBlock (tag : UInt8) (accept : AcceptJoin) (request : JoinRequestPayload) :
    Vector UInt8 16 :=
  ⟨(tag :: accept.appNonce.toList ++ accept.netId.toList ++ request.devNonce.toList ++
    List.replicate 7 0).toArray, by simp⟩

/-- The keys of the device, from the two frames. -/
def deviceKeys (encryptBlock : Key → Vector UInt8 16 → Vector UInt8 16) (appKey : Key)
    (accept : AcceptJoin) (request : JoinRequestPayload) : NodeKeys :=
  { nwkSkey := ⟨encryptBlock appKey (deviceBlock 1 accept request)⟩
    appSkey := ⟨encryptBlock appKey (deviceBlock 2 accept request)⟩ }

theorem toUInt8_shiftRight (n shift : UInt32) (hShift : shift.toNat < 32) :
    (n >>> shift).toUInt8 = UInt8.ofNat (n.toNat / 2 ^ shift.toNat) := by
  apply UInt8.toNat_inj.mp
  rw [UInt32.toNat_toUInt8, UInt32.toNat_shiftRight, Nat.mod_eq_of_lt hShift,
    Nat.shiftRight_eq_div_pow, UInt8.toNat_ofNat']

theorem u32ToBeBytes_eq (n : UInt32) :
    u32ToBeBytes n = #v[(n >>> 24).toUInt8, (n >>> 16).toUInt8, (n >>> 8).toUInt8, n.toUInt8] := by
  have hLow : n.toUInt8 = UInt8.ofNat n.toNat := by
    apply UInt8.toNat_inj.mp
    rw [UInt32.toNat_toUInt8, UInt8.toNat_ofNat']
  rw [toUInt8_shiftRight n 24 (by decide), toUInt8_shiftRight n 16 (by decide),
    toUInt8_shiftRight n 8 (by decide), hLow]
  apply Vector.toList_inj.mp
  simp [u32ToBeBytes, BigEndian.encode, LittleEndian.encode, Nat.div_div_eq_div_mul]

theorem toList_two {α : Type} (bytes : Vector α 2) : bytes.toList = [bytes[0], bytes[1]] := by
  rcases bytes with ⟨⟨items⟩, hSize⟩
  match items, hSize with
  | [b0, b1], _ => rfl

/-- The device nonce is read in the order in which it stands. -/
theorem devNonce_toNat (request : JoinRequestPayload) :
    request.read.devNonce.toNat = BigEndian.value request.devNonce.toList := by
  have h0 := request.devNonce[0].toNat_lt
  have h1 := request.devNonce[1].toNat_lt
  have hShift : (request.devNonce[0].toUInt16 <<< 8).toNat = request.devNonce[0].toNat * 256 := by
    rw [UInt16.toNat_shiftLeft, UInt8.toNat_toUInt16, show (8 : UInt16).toNat % 16 = 8 by rfl,
      Nat.shiftLeft_eq, Nat.mod_eq_of_lt (by omega)]
  rw [toList_two, JoinRequestPayload.read, UInt16.toNat_add, hShift, UInt8.toNat_toUInt16,
    Nat.mod_eq_of_lt (by omega)]
  simp only [BigEndian.value, List.reverse_cons, List.reverse_nil, List.nil_append,
    List.cons_append, LittleEndian.value_cons, LittleEndian.value_nil]
  omega

/-- The nonce of a request comes out of the number in frame order. -/
theorem devNonce_toBeBytes (request : JoinRequestPayload) :
    u16ToBeBytes request.read.devNonce = request.devNonce := by
  have hBytes := BigEndian.encode_value request.devNonce.toList
  rw [Vector.length_toList, ← devNonce_toNat] at hBytes
  apply Vector.toList_inj.mp
  exact hBytes

/-- An address is read back from its bytes. -/
theorem loRaAddrFrom_toLeBytes (n : UInt32) : loRaAddrFrom (u32ToLeBytes n) = ⟨n⟩ := by
  have hValue : LittleEndian.value (u32ToLeBytes n).toList = n.toNat :=
    LittleEndian.value_encode n.toNat_lt
  rw [loRaAddrFrom, hValue, UInt32.ofNat_toNat]

/-- The enciphered block consists of frame bytes in frame order. -/
theorem block_eq (tag : UInt8) (node : NodeInfo) (addr : LoRaAddr) (appNonce netId : UInt32)
    (request : JoinRequestPayload) :
    NodeKeys.block tag appNonce netId request.read.devNonce =
      deviceBlock tag (JoinRespDataBuilder.build node addr appNonce netId) request := by
  have hNonce := toList_two request.devNonce
  apply Vector.toList_inj.mp
  simp only [NodeKeys.block, NodeKeys.fillArgs, devNonce_toBeBytes, u32ToBeBytes_eq, deviceBlock,
    hNonce]
  rfl

/-- The keys the server derives are those of the device. -/
theorem new_eq_deviceKeys (encryptBlock : Key → Vector UInt8 16 → Vector UInt8 16) (appKey : Key)
    (node : NodeInfo) (addr : LoRaAddr) (appNonce netId : UInt32) (request : JoinRequestPayload) :
    NodeKeys.new encryptBlock appKey appNonce netId request.read.devNonce =
      deviceKeys encryptBlock appKey (JoinRespDataBuilder.build node addr appNonce netId)
        request := by
  rw [NodeKeys.new, block_eq 1 node addr, block_eq 2 node addr, deviceKeys]

/-- A join leaves the node's record and the device with the same keys. -/
theorem newOtaaNode_keys (encryptBlock : Key → Vector UInt8 16 → Vector UInt8 16)
    (info : NodeInfo) (request : JoinRequestPayload) (randomNonce randomNetId : UInt32) :
    let joined := newOtaaNode encryptBlock info request.read.devNonce randomNonce randomNetId
    (⟨joined.1.nwkSkey, joined.1.appSkey⟩ : NodeKeys) =
      deviceKeys encryptBlock info.appKey joined.2 request :=
  new_eq_deviceKeys encryptBlock info.appKey info info.devAddr _ _ request

/-- Device and server agree: the enciphered blocks consist of frame bytes in
frame order, the address is the node's, and so the keys are the same. -/
theorem join_keys_agree (encryptBlock : Key → Vector UInt8 16 → Vector UInt8 16) (appKey : Key)
    (node : NodeInfo) (addr : LoRaAddr) (appNonce netId : UInt32) (request : JoinRequestPayload) :
    let accept := JoinRespDataBuilder.build node addr appNonce netId
    (∀ tag, NodeKeys.block tag appNonce netId request.read.devNonce =
      deviceBlock tag accept request) ∧
    loRaAddrFrom accept.devAddr = addr ∧
    NodeKeys.new encryptBlock appKey appNonce netId request.read.devNonce =
      deviceKeys encryptBlock appKey accept request :=
  ⟨fun tag => block_eq tag node addr appNonce netId request, loRaAddrFrom_toLeBytes addr.value,
    new_eq_deviceKeys encryptBlock appKey node addr appNonce netId request⟩

end SnapEmu.LoRa
