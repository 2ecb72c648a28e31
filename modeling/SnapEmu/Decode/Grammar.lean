import SnapEmu.Decode.UpData

/-! The record grammar of application payloads. Length limits are carried by
the types, so every record list has an encoding. -/
namespace SnapEmu.Decode

open Semantics

/-- A byte string whose length fits the one length byte in front of it. -/
abbrev ShortBytes := {bytes : List UInt8 // bytes.length < 256}

/-- An item value before encoding. A boolean is its raw byte, a float its
raw bits. -/
inductive Payload where
  | array (bytes : ShortBytes)
  | f64 (bits : UInt64)
  | f32 (bits : UInt32)
  | bool (byte : UInt8)
  | i8 (value : Int8)
  | u8 (value : UInt8)
  | i16 (value : Int16)
  | u16 (value : UInt16)
  | i32 (value : Int32)
  | u32 (value : UInt32)

namespace Payload

def type : Payload → ValueType
  | array _ => .array
  | f64 _ => .f64
  | f32 _ => .f32
  | bool _ => .bool
  | i8 _ => .i8
  | u8 _ => .u8
  | i16 _ => .i16
  | u16 _ => .u16
  | i32 _ => .i32
  | u32 _ => .u32

def encode : Payload → List UInt8
  | array bytes => UInt8.ofNat bytes.val.length :: bytes.val
  | f64 bits => LittleEndian.encode 8 bits.toNat
  | f32 bits => LittleEndian.encode 4 bits.toNat
  | bool byte => [byte]
  | i8 value => [value.toUInt8]
  | u8 value => [value]
  | i16 value => LittleEndian.encode 2 value.toUInt16.toNat
  | u16 value => LittleEndian.encode 2 value.toNat
  | i32 value => LittleEndian.encode 4 value.toUInt32.toNat
  | u32 value => LittleEndian.encode 4 value.toNat

/-- The value an item stands for; an array stands for zero. -/
def value : Payload → Value
  | array _ => .int 0
  | f64 bits => .float bits
  | f32 bits => .float (f32AsF64 bits)
  | bool byte => .bool (byte != 0)
  | i8 value => .int value.toInt
  | u8 value => .int value.toNat
  | i16 value => .int value.toInt
  | u16 value => .int value.toNat
  | i32 value => .int value.toInt
  | u32 value => .int value.toNat

end Payload

/-- The type nibble. -/
def ValueType.code : ValueType → Nat
  | .array => 0
  | .f64 => 1
  | .f32 => 2
  | .bool => 3
  | .i8 => 4
  | .u8 => 5
  | .i16 => 6
  | .u16 => 7
  | .i32 => 8
  | .u32 => 9

/-- The header byte `pk_id << 4 | type`. -/
def itemTag (pkId : Fin 16) (type : ValueType) : UInt8 :=
  UInt8.ofNat (pkId.val * 16 + type.code)

structure Item where
  pkId : Fin 16
  payload : Payload

namespace Item

def encode (item : Item) : List UInt8 :=
  itemTag item.pkId item.payload.type :: item.payload.encode

def encodeAll (items : List Item) : List UInt8 := items.flatMap encode

/-- The decoded entry, under data id `sensor_id << 4 | pk_id`. -/
def data (sensorId : UInt16) (item : Item) : DecodeData :=
  ⟨sensorId.toUInt32 <<< 4 ||| UInt32.ofNat item.pkId.val, item.payload.value⟩

@[simp] theorem encodeAll_nil : encodeAll [] = [] := rfl

@[simp] theorem encodeAll_cons (item : Item) (items : List Item) :
    encodeAll (item :: items) = item.encode ++ encodeAll items := rfl

end Item

/-- The status a battery record of this body carries. -/
def batteryStatus (body : List UInt8) : Option DeviceBattery :=
  match body with
  | [_, battery] => some ⟨battery, false⟩
  | [_, battery, _, charge] => some ⟨battery, charge == 1⟩
  | _ => none

/-- The pin states an IO record of this body carries. -/
def ioList (body : List UInt8) : List DeviceIO :=
  match body with
  | [_, ioNum, _, modifyLo, modifyHi, _, modeLo, modeHi, _, valueLo, valueHi] =>
      if ioNum ≤ 16 then
        ioStates ioNum (joinBytes modifyLo modifyHi) (joinBytes modeLo modeHi)
          (joinBytes valueLo valueHi)
      else []
  | _ => []

/-- A record on the wire: sensor id, length byte, body. -/
def recordFrame (sensorId : UInt16) (body : List UInt8) : List UInt8 :=
  LittleEndian.encode 2 sensorId.toNat ++ (UInt8.ofNat body.length :: body)

@[simp] theorem recordFrame_length (sensorId : UInt16) (body : List UInt8) :
    (recordFrame sensorId body).length = 3 + body.length := by
  simp [recordFrame]
  omega

/-- One record. Sensors 0 and 7 carry battery and IO bodies of any shape,
every other sensor a list of items. -/
inductive Record where
  | battery (body : ShortBytes)
  | io (body : ShortBytes)
  | ordinary (sensorId : UInt16) (items : List Item) (hSensor : sensorId ≠ 0 ∧ sensorId ≠ 7)
      (hLength : (Item.encodeAll items).length < 256)

namespace Record

def sensorId : Record → UInt16
  | battery _ => 0
  | io _ => 7
  | ordinary sensorId _ _ _ => sensorId

def body : Record → List UInt8
  | battery body => body.val
  | io body => body.val
  | ordinary _ items _ _ => Item.encodeAll items

/-- A body fits its length byte. -/
theorem body_length_lt (record : Record) : record.body.length < 256 := by
  cases record with
  | battery body => exact body.property
  | io body => exact body.property
  | ordinary _ _ _ hLength => exact hLength

def encode (record : Record) : List UInt8 := recordFrame record.sensorId record.body

def encodeAll (records : List Record) : List UInt8 := records.flatMap encode

@[simp] theorem encodeAll_nil : encodeAll [] = [] := rfl

@[simp] theorem encodeAll_cons (record : Record) (records : List Record) :
    encodeAll (record :: records) = record.encode ++ encodeAll records := rfl

@[simp] theorem encodeAll_append (first second : List Record) :
    encodeAll (first ++ second) = encodeAll first ++ encodeAll second := by
  simp [encodeAll]

@[simp] theorem encode_length (record : Record) :
    record.encode.length = 3 + record.body.length := by
  simp [encode]

end Record

/-- Appending decoded payloads: entries and pin states in order, and the
later status where there is one. -/
def DecodeDataDecoded.append (first second : DecodeDataDecoded) : DecodeDataDecoded :=
  { data := first.data ++ second.data
    io := first.io ++ second.io
    status := second.status.or first.status }

instance : Append DecodeDataDecoded := ⟨DecodeDataDecoded.append⟩

namespace DecodeDataDecoded

/-- Decoded data are joined part by part. -/
theorem append_def (first second : DecodeDataDecoded) :
    first ++ second = { data := first.data ++ second.data
                        io := first.io ++ second.io
                        status := second.status.or first.status } := rfl

@[simp] theorem append_empty (r : DecodeDataDecoded) : r ++ ({} : DecodeDataDecoded) = r := by
  simp [append_def]

@[simp] theorem empty_append (r : DecodeDataDecoded) : ({} : DecodeDataDecoded) ++ r = r := by
  simp [append_def]

theorem append_assoc (first second third : DecodeDataDecoded) :
    first ++ second ++ third = first ++ (second ++ third) := by
  simp [append_def, Option.or_assoc]

end DecodeDataDecoded

/-- What one record contributes. -/
def Record.decoded : Record → DecodeDataDecoded
  | .battery body => { status := batteryStatus body.val }
  | .io body => { io := ioList body.val }
  | .ordinary sensorId items _ _ => { data := items.map (Item.data sensorId) }

/-- What a list of records decodes to. -/
def Record.decodedAll : List Record → DecodeDataDecoded
  | [] => {}
  | record :: records => record.decoded ++ decodedAll records

/-- What two lists of records decode to is joined. -/
theorem Record.decodedAll_append (first second : List Record) :
    Record.decodedAll (first ++ second) = Record.decodedAll first ++ Record.decodedAll second := by
  induction first with
  | nil => simp [Record.decodedAll]
  | cons record records ih =>
      simp [Record.decodedAll, ih, DecodeDataDecoded.append_assoc]

/-- Entries of all records in order. -/
theorem Record.decodedAll_data (records : List Record) :
    (Record.decodedAll records).data = records.flatMap fun record => record.decoded.data := by
  induction records with
  | nil => rfl
  | cons record records ih => simp [Record.decodedAll, DecodeDataDecoded.append_def, ih]

/-- Pin states of all records in order. -/
theorem Record.decodedAll_io (records : List Record) :
    (Record.decodedAll records).io = records.flatMap fun record => record.decoded.io := by
  induction records with
  | nil => rfl
  | cons record records ih => simp [Record.decodedAll, DecodeDataDecoded.append_def, ih]

/-- The status of the last record that carries one. -/
theorem Record.decodedAll_status (records : List Record) :
    (Record.decodedAll records).status =
      (records.filterMap fun record => record.decoded.status).getLast? := by
  induction records with
  | nil => rfl
  | cons record records ih =>
      simp only [Record.decodedAll, DecodeDataDecoded.append_def, ih, List.filterMap_cons]
      cases record.decoded.status with
      | none => simp
      | some status =>
          rw [List.getLast?_cons]
          cases (records.filterMap fun record => record.decoded.status).getLast? <;> simp

end SnapEmu.Decode
