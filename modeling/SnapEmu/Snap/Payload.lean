import SnapEmu.Device.Types
import SnapEmu.Semantics.Base64
import SnapEmu.Semantics.Exec
import SnapEmu.Semantics.ByteOrder

/-! Frames of Snap devices: a header with the device, a counter and the length
of the payload, the enciphered payload, and four bytes of a message
authentication code. -/
namespace SnapEmu.Snap

open Device Semantics Exec

inductive CustomError where
  | key
  | format (text : String)
  | mic
  deriving DecidableEq

/-- `Ctr128BE<Aes128>` as the keystream of a key and an initial block, and
`Cmac<Aes128>` as a function of a key and a message. -/
structure Crypto where
  keystream : Key → List UInt8 → Nat → UInt8
  cmac : Key → List UInt8 → Vector UInt8 16

def Crypto.applyKeystream (crypto : Crypto) (key : Key) (iv payload : List UInt8) : List UInt8 :=
  payload.mapIdx fun i byte => byte ^^^ crypto.keystream key iv i

/-- Addition of 32-bit integers. An overflow aborts in a build with overflow
checks, and wraps in one without. -/
def addU32 (checks : Bool) (first second : UInt32) : Exec CustomError UInt32 :=
  if checks ∧ 2 ^ 32 ≤ first.toNat + second.toNat then panic else ok (first + second)

def checkVersion (version : UInt8) : Bool := version == 1

def lengthError (payloadLen len : UInt32) : CustomError :=
  .format s!"payload length is {payloadLen}, but data length is {len}"

/-- `data.len() as u32`. -/
def lengthU32 (data : List UInt8) : UInt32 := UInt32.ofNat data.length

/-- The start of the payload, if the announced length is that of the data. -/
def matchLength (checks : Bool) (len payloadLen fixed announced : UInt32) (start : Nat) :
    Exec CustomError Nat := do
  let total ← addU32 checks fixed announced
  if total = len then ok start else err (lengthError payloadLen len)

def getDataStart (checks : Bool) (data : List UInt8) : Exec CustomError Nat :=
  let len := lengthU32 data
  if len < 19 then err (.format s!"require most 19 bytes, but found {len}")
  else do
    let version ← index data 0
    if !checkVersion version then err (.format s!"not support version {version}")
    else do
      let lengthByte ← index data 14
      let payloadLen := lengthByte.toUInt32
      if payloadLen < 253 then matchLength checks len payloadLen (18 + 1) payloadLen 15
      else if payloadLen = 253 then do
        let b0 ← index data 15
        let b1 ← index data 16
        let b2PayloadLen := b0.toUInt32 ||| (b1.toUInt32 <<< 8)
        matchLength checks len payloadLen (18 + 3) b2PayloadLen 17
      else if payloadLen = 254 then do
        let b0 ← index data 15
        let b1 ← index data 16
        let b2 ← index data 17
        let b3 ← index data 18
        let b4PayloadLen :=
          b0.toUInt32 ||| (b1.toUInt32 <<< 8) ||| (b2.toUInt32 <<< 16) ||| (b3.toUInt32 <<< 24)
        matchLength checks len payloadLen (18 + 5) b4PayloadLen 19
      else err (lengthError payloadLen len)

def euiToBytes (eui : Eui) : List UInt8 := LittleEndian.encode 8 eui.value.toNat

def euiToBeBytes (eui : Eui) : List UInt8 := (euiToBytes eui).reverse

def euiFromBeBytes (bytes : List UInt8) : Option Eui :=
  if bytes.length < 8 then none
  else some ⟨UInt64.ofNat (LittleEndian.value (bytes.take 8).reverse)⟩

/-- The first counter block: device, counter, length of the payload and
direction. -/
def counterBlock (eui count : List UInt8) (length : Nat) (direction : UInt8) : List UInt8 :=
  eui ++ count ++ [0, 0] ++ LittleEndian.encode 2 length ++ [direction, 0]

/-- The block in front of the authenticated bytes. -/
def micBlock (eui count : List UInt8) (length : Nat) (direction : UInt8) : List UInt8 :=
  eui ++ count ++ [0, 0] ++ LittleEndian.encode 2 length ++ [0, direction]

structure UpData where
  eui : Eui
  enc : Bool
  pType : UInt8
  port : UInt8
  option : UInt8
  count : UInt16
  payloadStart : Nat
  payload : List UInt8
  bytes : List UInt8
  mic : List UInt8
  deriving DecidableEq

namespace UpData

def new (checks : Bool) (bytes : List UInt8) : Exec CustomError UpData := do
  let payloadStart ← getDataStart checks bytes
  let euiBytes ← slice bytes 1 9
  match euiFromBeBytes euiBytes with
  | none => err (.format "eui found error")
  | some eui =>
      let pType ← index bytes 9
      let port ← index bytes 10
      let option ← index bytes 11
      let low ← index bytes 12
      let high ← index bytes 13
      let payloadEnd := bytes.length - 4
      let payload ← slice bytes payloadStart payloadEnd
      let mic ← slice bytes payloadEnd bytes.length
      ok
        { eui := eui
          enc := true
          pType := pType
          port := port
          option := option
          count := low.toUInt16 ||| (high.toUInt16 <<< 8)
          payloadStart := payloadStart
          payload := payload
          bytes := bytes
          mic := mic }

/-- The check of the code under a direction byte. -/
def checkMicWith (crypto : Crypto) (up : UpData) (key : Key) (direction : UInt8) :
    Exec CustomError Bool := do
  let payloadWithHeaderLen := up.bytes.length - 4
  let eui ← slice up.bytes 1 9
  let count ← slice up.bytes 12 14
  let header ← slice up.bytes 0 payloadWithHeaderLen
  let result := crypto.cmac key (micBlock eui count payloadWithHeaderLen direction ++ header)
  ok (decide (result.toList.take 4 = up.mic))

def decodePayloadWith (crypto : Crypto) (up : UpData) (key : Key) (direction : UInt8) :
    Exec CustomError (List UInt8) := do
  if ← checkMicWith crypto up key direction then
    let eui ← slice up.bytes 1 9
    let count ← slice up.bytes 12 14
    let iv := counterBlock eui count up.payload.length direction
    ok (crypto.applyKeystream key iv up.payload)
  else err .mic

def checkMic (crypto : Crypto) (up : UpData) (key : Key) : Exec CustomError Bool :=
  checkMicWith crypto up key 1

def decodePayload (crypto : Crypto) (up : UpData) (key : Key) : Exec CustomError (List UInt8) :=
  decodePayloadWith crypto up key 1

end UpData

structure DownloadData where
  eui : Eui
  port : UInt8
  option : UInt8
  count : UInt16
  deriving DecidableEq

namespace DownloadData

def countBytes (down : DownloadData) : List UInt8 := LittleEndian.encode 2 down.count.toNat

/-- Encipher a payload. The block starts with the EUI in the other byte order
than the frame. -/
def encode (crypto : Crypto) (down : DownloadData) (payload : List UInt8) (key : Key)
    (direction : UInt8) : List UInt8 :=
  crypto.applyKeystream key
    (counterBlock (euiToBytes down.eui) down.countBytes payload.length direction) payload

def mic (crypto : Crypto) (payloadWithHeader : List UInt8) (key : Key) (direction : UInt8) :
    Exec CustomError (List UInt8) := do
  let eui ← slice payloadWithHeader 1 9
  let count ← slice payloadWithHeader 12 14
  let block := micBlock eui count payloadWithHeader.length direction
  ok ((crypto.cmac key (block ++ payloadWithHeader)).toList.take 4)

/-- The bytes before the length. -/
def header (down : DownloadData) : List UInt8 :=
  [0x01] ++ euiToBeBytes down.eui ++ [0x01, down.port, down.option] ++ down.countBytes

/-- The frame of a payload, given the size of header and code and the width of
the length. What is enciphered is found by the size. -/
def frameWith (crypto : Crypto) (down : DownloadData) (payload : List UInt8) (key : Key)
    (direction : UInt8) (headerAndMicLen width : Nat) : Exec CustomError (List UInt8) := do
  let buf := down.header ++ LittleEndian.encode width payload.length ++ payload
  let region ← slice buf (headerAndMicLen - 4) buf.length
  let buf := buf.take (headerAndMicLen - 4) ++ encode crypto down region key direction
  let mic ← mic crypto buf key direction
  ok (buf ++ mic)

def frame (crypto : Crypto) (down : DownloadData) (payload : List UInt8) (key : Key)
    (direction : UInt8) : Exec CustomError (List UInt8) :=
  if payload.length < 253 then frameWith crypto down payload key direction 19 1
  else if payload.length = 253 then frameWith crypto down payload key direction 21 2
  else if payload.length = 254 then frameWith crypto down payload key direction 23 4
  else err (.format s!"data length is {payload.length} to much")

def encodePayload (crypto : Crypto) (down : DownloadData) (payload : List UInt8) (key : Key) :
    Exec CustomError String := do
  let buf ← frame crypto down payload key 0
  ok (Base64.encode buf)

end DownloadData
end SnapEmu.Snap
