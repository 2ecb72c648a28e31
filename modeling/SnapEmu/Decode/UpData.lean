import SnapEmu.Semantics.Exec
import SnapEmu.Semantics.ByteOrder

/-! The decoder of application payloads. Cursors, length guards, indices and
slices are kept as the code evaluates them; every index and slice can abort. -/
namespace SnapEmu.Decode

open Semantics Semantics.Exec

structure DataError where
  msg : String
  deriving DecidableEq

/-- Item types on the wire. -/
inductive ValueType where
  | array | f64 | f32 | bool | i8 | u8 | i16 | u16 | i32 | u32
  deriving DecidableEq

def ValueType.tryFrom (value : UInt8) : Exec DataError ValueType :=
  match value.toNat with
  | 0b0000 => ok .array
  | 0b0001 => ok .f64
  | 0b0010 => ok .f32
  | 0b0011 => ok .bool
  | 0b0100 => ok .i8
  | 0b0101 => ok .u8
  | 0b0110 => ok .i16
  | 0b0111 => ok .u16
  | 0b1000 => ok .i32
  | 0b1001 => ok .u32
  | x => err ⟨"unsupport value type: " ++ toString x⟩

/-- Decoded values. A float is its raw 64 bits. -/
inductive Value where
  | int (value : Int)
  | float (bits : UInt64)
  | bool (value : Bool)
  deriving DecidableEq

structure DecodeData where
  i : UInt32
  v : Value
  deriving DecidableEq

structure DeviceBattery where
  battery : UInt8
  charge : Bool
  deriving DecidableEq

structure DeviceIO where
  pin : Int
  modify : Bool
  mode : Bool
  value : Bool
  deriving DecidableEq

structure DecodeDataDecoded where
  data : List DecodeData := []
  io : List DeviceIO := []
  status : Option DeviceBattery := none
  deriving DecidableEq

/-- Widening of a 32-bit float to 64 bits, on raw bits. Subnormals are
normalized; a NaN keeps its sign and payload and becomes quiet. -/
def f32AsF64 (bits : UInt32) : UInt64 :=
  let sign := bits.toNat / 2 ^ 31
  let exponent := bits.toNat / 2 ^ 23 % 2 ^ 8
  let fraction := bits.toNat % 2 ^ 23
  let magnitude :=
    if exponent = 255 then
      2047 * 2 ^ 52 + (if fraction = 0 then 0 else fraction % 2 ^ 22 * 2 ^ 29 + 2 ^ 51)
    else if exponent = 0 then
      if fraction = 0 then 0
      else
        (fraction.log2 + 874) * 2 ^ 52 + (fraction - 2 ^ fraction.log2) * 2 ^ (52 - fraction.log2)
    else (exponent + 896) * 2 ^ 52 + fraction * 2 ^ 29
  UInt64.ofNat (sign * 2 ^ 63 + magnitude)

def u16FromLeBytes (bytes : List UInt8) : UInt16 := UInt16.ofNat (LittleEndian.value bytes)

def u32FromLeBytes (bytes : List UInt8) : UInt32 := UInt32.ofNat (LittleEndian.value bytes)

def u64FromLeBytes (bytes : List UInt8) : UInt64 := UInt64.ofNat (LittleEndian.value bytes)

/-- The arms that copy `width` bytes out of a checked slice. -/
def sliceValue (name : String) (width : Nat) (convert : List UInt8 → Value)
    (bytes : List UInt8) (dataLen parseDataLen : Nat) : Exec DataError (Nat × Value) :=
  if dataLen < parseDataLen + width then
    err ⟨"not found " ++ name ++ " length: " ++ toString bytes⟩
  else do
    let u ← slice bytes parseDataLen (parseDataLen + width)
    return (parseDataLen + width, convert u)

/-- The arms that index a single byte. -/
def byteValue (name : String) (convert : UInt8 → Value)
    (bytes : List UInt8) (dataLen parseDataLen : Nat) : Exec DataError (Nat × Value) :=
  if dataLen < parseDataLen + 1 then
    err ⟨"not found " ++ name ++ " length: " ++ toString bytes⟩
  else do
    let u ← index bytes parseDataLen
    return (parseDataLen + 1, convert u)

/-- The array arm. Its first guard lets a cursor at the very end pass, and
the length byte is then indexed there. -/
def arrayValue (bytes : List UInt8) (dataLen parseDataLen : Nat) : Exec DataError (Nat × Value) :=
  if dataLen < parseDataLen then
    err ⟨"not found array length: " ++ toString bytes⟩
  else do
    let arrLen ← index bytes parseDataLen
    let parseDataLen := parseDataLen + 1
    if dataLen < parseDataLen + arrLen.toNat then
      err ⟨"data length error: " ++ toString bytes⟩
    else do
      let _v ← slice bytes parseDataLen (parseDataLen + arrLen.toNat)
      return (parseDataLen + arrLen.toNat, .int 0)

/-- One item value, with the cursor behind it. -/
def decodeValue : ValueType → List UInt8 → Nat → Nat → Exec DataError (Nat × Value)
  | .array => arrayValue
  | .f64 => sliceValue "f64" 8 fun u => .float (u64FromLeBytes u)
  | .f32 => sliceValue "f32" 4 fun u => .float (f32AsF64 (u32FromLeBytes u))
  | .bool => byteValue "bool" fun u => .bool (u != 0)
  | .i8 => byteValue "i8" fun u => .int u.toInt8.toInt
  | .u8 => byteValue "u8" fun u => .int u.toNat
  | .i16 => sliceValue "i16" 2 fun u => .int (u16FromLeBytes u).toInt16.toInt
  | .u16 => sliceValue "u16" 2 fun u => .int (u16FromLeBytes u).toNat
  | .i32 => sliceValue "i32" 4 fun u => .int (u32FromLeBytes u).toInt32.toInt
  | .u32 => sliceValue "u32" 4 fun u => .int (u32FromLeBytes u).toNat

/-- One round of the item loop of an ordinary record. -/
def itemRound (bytes : List UInt8) (dataLen : Nat) (sensorId : UInt32) :
    Nat × DecodeDataDecoded →
      Exec DataError ((Nat × DecodeDataDecoded) ⊕ DecodeDataDecoded) :=
  fun (parseDataLen, r) =>
    if dataLen = 0 then ok (.inr r)
    else if dataLen ≤ parseDataLen then ok (.inr r)
    else do
      let tag ← index bytes parseDataLen
      let pkId := (tag >>> 4).toUInt32
      let pkType ← ValueType.tryFrom (tag &&& 0x0f)
      let (parseDataLen, data) ← decodeValue pkType bytes dataLen (parseDataLen + 1)
      let dataId := sensorId <<< 4 ||| pkId
      return .inl (parseDataLen, { r with data := r.data ++ [⟨dataId, data⟩] })

/-- The battery record, sensor 0. -/
def batteryRecord (bytes : List UInt8) (dataLen : Nat) (r : DecodeDataDecoded) :
    Exec DataError DecodeDataDecoded :=
  if dataLen = 2 then do
    let battery ← index bytes 1
    return { r with status := some ⟨battery, false⟩ }
  else if dataLen = 4 then do
    let battery ← index bytes 1
    let charge ← index bytes 3
    return { r with status := some ⟨battery, charge == 1⟩ }
  else return r

/-- `lo as u16 | (hi as u16) << 8`. -/
def joinBytes (lo hi : UInt8) : UInt16 := lo.toUInt16 ||| hi.toUInt16 <<< 8

def ioStates (ioNum : UInt8) (modify mode status : UInt16) : List DeviceIO :=
  (List.range ioNum.toNat).map fun (i : Nat) =>
    { pin := (i : Int)
      modify := modify &&& 1 <<< UInt16.ofNat i != 0
      mode := mode &&& 1 <<< UInt16.ofNat i != 0
      value := status &&& 1 <<< UInt16.ofNat i != 0 }

/-- The IO record, sensor 7. -/
def ioRecord (bytes : List UInt8) (dataLen : Nat) (r : DecodeDataDecoded) :
    Exec DataError DecodeDataDecoded :=
  if dataLen = 11 then do
    let ioNum ← index bytes 1
    if ioNum ≤ 16 then do
      let modify := joinBytes (← index bytes 3) (← index bytes 4)
      let mode := joinBytes (← index bytes 6) (← index bytes 7)
      let status := joinBytes (← index bytes 9) (← index bytes 10)
      return { r with io := r.io ++ ioStates ioNum modify mode status }
    else return r
  else return r

/-- The body of one record, already cut out of the input. -/
def recordBody (sensorId : UInt32) (bytes : List UInt8) (dataLen : Nat)
    (r : DecodeDataDecoded) : Exec DataError DecodeDataDecoded :=
  if sensorId = 0 then batteryRecord bytes dataLen r
  else if sensorId = 7 then ioRecord bytes dataLen r
  else loop (itemRound bytes dataLen sensorId) (dataLen + 1) (0, r)

/-- One round of the record loop. -/
def recordRound (bytes : List UInt8) :
    Nat × DecodeDataDecoded →
      Exec DataError ((Nat × DecodeDataDecoded) ⊕ DecodeDataDecoded) :=
  fun (currentLen, r) =>
    let len := bytes.length
    if currentLen = len then ok (.inr r)
    else
      let currentLen := currentLen + 2
      if len ≤ currentLen then err ⟨"sensor id not found"⟩
      else do
        let lo ← index bytes (currentLen - 2)
        let hi ← index bytes (currentLen - 1)
        let sensorId := lo.toUInt32 ||| hi.toUInt32 <<< 8
        let currentLen := currentLen + 1
        if len ≤ currentLen then err ⟨"data length not found"⟩
        else do
          let dataLen ← index bytes (currentLen - 1)
          let currentLen := currentLen + dataLen.toNat
          if len < currentLen then err ⟨"data length so mush"⟩
          else do
            let bytes ← slice bytes (currentLen - dataLen.toNat) currentLen
            let r ← recordBody sensorId bytes dataLen.toNat r
            return .inl (currentLen, r)

/-- The decoder. One round more than there are bytes is always enough. -/
def upDataDecode (bytes : List UInt8) : Exec DataError DecodeDataDecoded :=
  loop (recordRound bytes) (bytes.length + 1) (0, {})

/-- The payload of the repository's own decoder test. -/
example : upDataDecode [0x0, 0x1, 0x9, 0x3, 0x1, 0x13, 0x1, 0x22, 0x1, 0x1, 0x1, 0x1, 0x0, 0x1,
    0xA, 0x3, 0x1, 0x13, 0x1, 0x20, 0x4, 0x1, 0x1, 0x1, 0x1] =
    ok { data := [⟨4096, .bool true⟩, ⟨4097, .bool true⟩, ⟨4098, .float 4044267787726618624⟩,
      ⟨4096, .bool true⟩, ⟨4097, .bool true⟩, ⟨4098, .int 0⟩] } := by
  decide

end SnapEmu.Decode
