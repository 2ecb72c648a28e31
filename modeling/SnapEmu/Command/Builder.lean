import Mathlib.Tactic.SplitIfs
import SnapEmu.Decode.UpData
import SnapEmu.Semantics.ByteOrder
import SnapEmu.Semantics.Exec

/-! The commands for devices: the builders, whose setters may be called any
number of times and in any order, and the commands as `LoRaIOFormater` reads
them. A command keeps the length that was checked when it was made, so that its
accessors are total. -/
namespace SnapEmu.Command

open Semantics Semantics.Exec
open Decode (DataError)

def boolByte (value : Bool) : UInt8 := if value then 1 else 0

structure UpdateDeviceInfoBuilder where
  data : Vector UInt8 10
  deriving DecidableEq

namespace UpdateDeviceInfoBuilder

def new : UpdateDeviceInfoBuilder := ⟨#v[1, 0, 0, 0, 0, 0, 0, 0, 0, 0]⟩

variable (builder : UpdateDeviceInfoBuilder)

def setAdr (adr : UInt8) : UpdateDeviceInfoBuilder := ⟨builder.data.set 1 adr⟩

def setConfirm (confirm : Bool) : UpdateDeviceInfoBuilder :=
  ⟨builder.data.set 2 (boolByte confirm)⟩

def setDutycycle (dutycycle : UInt16) : UpdateDeviceInfoBuilder :=
  ⟨(builder.data.set 3 (dutycycle >>> 8).toUInt8).set 4 dutycycle.toUInt8⟩

def setDr (dr : UInt8) : UpdateDeviceInfoBuilder := ⟨builder.data.set 5 dr⟩

def setPower (power : UInt16) : UpdateDeviceInfoBuilder :=
  ⟨(builder.data.set 6 (power >>> 8).toUInt8).set 7 power.toUInt8⟩

def setTimeZone (timeZone : UInt16) : UpdateDeviceInfoBuilder :=
  ⟨(builder.data.set 8 (timeZone >>> 8).toUInt8).set 9 timeZone.toUInt8⟩

def bytes : List UInt8 := builder.data.toList

end UpdateDeviceInfoBuilder

structure UpdateIoBuilder where
  mutil : Bool
  data : Vector UInt8 6
  deriving DecidableEq

namespace UpdateIoBuilder

def new (mutil : Bool) : UpdateIoBuilder := ⟨mutil, #v[3, boolByte mutil, 0, 0, 0, 0]⟩

/-- A pin of several: its bit in the mask (bytes 2 and 3) and in the values
(bytes 4 and 5). -/
def setMutil (data : Vector UInt8 6) (pin : UInt8) (value : Bool) : Vector UInt8 6 :=
  if pin < 8 then
    let data := data.set 3 (data[3] ||| 1 <<< pin)
    if value then data.set 5 (data[5] ||| 1 <<< pin)
    else data.set 5 (data[5] &&& ~~~(1 <<< pin))
  else
    let pin := pin - 8
    let data := data.set 2 (data[2] ||| 1 <<< pin)
    if value then data.set 4 (data[4] ||| 1 <<< pin)
    else data.set 4 (data[4] &&& ~~~(1 <<< pin))

/-- The bit of a pin in the mask, and its bit in the values. -/
def pinBits (data : Vector UInt8 6) (pin : UInt8) : Bool × Bool :=
  ((BigEndian.value [data[2], data[3]]).testBit pin.toNat,
    (BigEndian.value [data[4], data[5]]).testBit pin.toNat)

def setSingle (data : Vector UInt8 6) (pin : UInt8) (value : Bool) : Vector UInt8 6 :=
  (data.set 2 pin).set 3 (boolByte value)

def setPin (builder : UpdateIoBuilder) (pin : UInt8) (value : Bool) : UpdateIoBuilder :=
  if builder.mutil then { builder with data := setMutil builder.data pin value }
  else { builder with data := setSingle builder.data pin value }

/-- The pin is asserted to be below 16. -/
def setIo (builder : UpdateIoBuilder) (pin : UInt8) (value : Bool) : Exec Empty UpdateIoBuilder :=
  if pin < 16 then ok (builder.setPin pin value) else panic

/-- Calls of `setIo`, one after another. -/
def setIos (builder : UpdateIoBuilder) (calls : List ((_ : UInt8) × Bool)) :
    Exec Empty UpdateIoBuilder :=
  calls.foldlM (fun builder call => builder.setIo call.1 call.2) builder

def bytes (builder : UpdateIoBuilder) : List UInt8 :=
  if builder.mutil then builder.data.toList else builder.data.toList.take 4

end UpdateIoBuilder

structure TimerFields where
  num : UInt8 := 0
  enable : Bool := false
  pin : UInt8 := 0
  action : Bool := false
  hour : UInt8 := 0
  minute : UInt8 := 0
  repeats : UInt8 := 0
  deriving DecidableEq

structure UpdateTimerBuilder where
  data : Vector UInt8 8
  deriving DecidableEq

namespace UpdateTimerBuilder

def new : UpdateTimerBuilder := ⟨#v[5, 0, 0, 0, 0, 0, 0, 0]⟩

variable (builder : UpdateTimerBuilder)

def setNum (num : UInt8) : UpdateTimerBuilder := ⟨builder.data.set 1 num⟩

def setEnable (enable : Bool) : UpdateTimerBuilder := ⟨builder.data.set 2 (boolByte enable)⟩

def setPin (pin : UInt8) : UpdateTimerBuilder := ⟨builder.data.set 3 pin⟩

def setAction (action : Bool) : UpdateTimerBuilder := ⟨builder.data.set 4 (boolByte action)⟩

def setHour (hour : UInt8) : UpdateTimerBuilder := ⟨builder.data.set 5 hour⟩

def setMinute (minute : UInt8) : UpdateTimerBuilder := ⟨builder.data.set 6 minute⟩

def setRepeat (repeats : UInt8) : UpdateTimerBuilder := ⟨builder.data.set 7 repeats⟩

def bytes : List UInt8 := builder.data.toList

def command : UInt8 := builder.data[0]

/-- The fields, as they stand in the bytes of the builder. -/
def fields : TimerFields :=
  { num := builder.data[1]
    enable := builder.data[2] ≠ 0
    pin := builder.data[3]
    action := builder.data[4] ≠ 0
    hour := builder.data[5]
    minute := builder.data[6]
    repeats := builder.data[7] }

end UpdateTimerBuilder

structure DeviceInfo where
  data : Vector UInt8 12
  deriving DecidableEq

def DeviceInfo.new (data : List UInt8) : Except DataError DeviceInfo :=
  if hLength : data.length = 12 then .ok ⟨⟨data.toArray, hLength⟩⟩
  else .error ⟨"device info length most 12 byte"⟩

structure UpdateDeviceInfo where
  data : Vector UInt8 8
  deriving DecidableEq

namespace UpdateDeviceInfo

def new (data : List UInt8) : Except DataError UpdateDeviceInfo :=
  if hLength : data.length = 8 then .ok ⟨⟨data.toArray, hLength⟩⟩
  else .error ⟨"update device info length most 8 byte"⟩

variable (info : UpdateDeviceInfo)

def adr : UInt8 := info.data[0]

def confirm : Bool := info.data[1] ≠ 0

def dutycycle : UInt16 := info.data[2].toUInt16 <<< 8 ||| info.data[3].toUInt16

def dr : UInt8 := info.data[4]

def power : UInt8 := info.data[5]

def timeZone : UInt16 := info.data[6].toUInt16 <<< 8 ||| info.data[7].toUInt16

end UpdateDeviceInfo

structure QueryIo where
  data : List UInt8
  deriving DecidableEq

def QueryIo.new : List UInt8 → Except DataError QueryIo
  | [] => .ok ⟨[]⟩
  | first :: rest => if first = 0xFF then .error ⟨"query id error"⟩ else .ok ⟨first :: rest⟩

/-- The state of one pin. -/
structure PinState where
  id : UInt8
  value : Bool
  deriving DecidableEq

/-- The data are pairs of a pin and a value. -/
structure UpdateIo where
  mutil : Bool
  data : List UInt8
  pairs : data.length % 2 = 0
  deriving DecidableEq

/-- Behind the marker an odd length leaves whole pairs. -/
theorem even_drop_one {data : List UInt8} (hShort : ¬data.length < 3)
    (hOdd : ¬(data.length - 1) &&& 0b1 = 1) : (data.drop 1).length % 2 = 0 := by
  rw [Nat.and_one_is_mod] at hOdd
  rw [List.length_drop]
  omega

namespace UpdateIo

def new (data : List UInt8) : Except DataError UpdateIo :=
  if hShort : data.length < 3 then .error ⟨"update io length less than 3"⟩
  else if hOdd : (data.length - 1) &&& 0b1 = 1 then .error ⟨"update io length not match"⟩
  else if data[1] = 0xFF then .error ⟨"update io length not match"⟩
  else if data.length = 3 then .ok ⟨false, data.drop 1, even_drop_one hShort hOdd⟩
  else .ok ⟨true, data.drop 1, even_drop_one hShort hOdd⟩

/-- The loop of `state` takes two bytes in each round. -/
def states : List UInt8 → List PinState
  | id :: value :: rest => ⟨id, value == 1⟩ :: states rest
  | _ => []

def state (io : UpdateIo) : List PinState := states io.data

end UpdateIo

structure IoTimer where
  data : Vector UInt8 7
  deriving DecidableEq

namespace IoTimer

def new (data : List UInt8) : Except DataError IoTimer :=
  if hLength : data.length = 7 then .ok ⟨⟨data.toArray, hLength⟩⟩
  else .error ⟨"query timer length 7"⟩

variable (timer : IoTimer)

def inex : UInt8 := timer.data[0]

def enable : Bool := timer.data[1] ≠ 0

def ioNumber : UInt8 := timer.data[2]

def action : Bool := timer.data[3] ≠ 0

def hour : UInt8 := timer.data[4]

def minute : UInt8 := timer.data[5]

def repeats : UInt8 := timer.data[6]

end IoTimer

inductive IoCommand where
  | deviceInfo (info : DeviceInfo)
  | updateDeviceInfo (info : UpdateDeviceInfo)
  | queryIo (query : QueryIo)
  | updateIo (update : UpdateIo)
  | queryTimer (timer : IoTimer)
  | updateTimer (timer : IoTimer)
  deriving DecidableEq

/-- `LoRaIOFormater::format`: the first byte is the command. -/
def format : List UInt8 → Except DataError IoCommand
  | [] => .error ⟨"not found command"⟩
  | commandType :: data =>
      match commandType.toNat with
      | 0 => (DeviceInfo.new data).map .deviceInfo
      | 1 => (UpdateDeviceInfo.new data).map .updateDeviceInfo
      | 2 => (QueryIo.new data).map .queryIo
      | 3 => (UpdateIo.new data).map .updateIo
      | 4 => (IoTimer.new data).map .queryTimer
      | 5 => (IoTimer.new data).map .updateTimer
      | _ => .error ⟨"Not support io command"⟩

theorem toList_eq_ofFn {n : Nat} (data : Vector UInt8 n) :
    data.toList = List.ofFn fun i : Fin n => data[i] :=
  List.ext_getElem (by simp) (by simp)

namespace UpdateIoBuilder

variable {builder : UpdateIoBuilder} {calls : List ((_ : UInt8) × Bool)}

theorem setIos_nil (builder : UpdateIoBuilder) : builder.setIos [] = ok builder := rfl

/-- Successive settings are applied in turn. -/
theorem setIos_cons (builder : UpdateIoBuilder) (call : (_ : UInt8) × Bool) :
    builder.setIos (call :: calls) =
      builder.setIo call.1 call.2 >>= fun next => next.setIos calls := rfl

/-- Calls for pins below 16 do not abort. -/
theorem setIos_eq (hPins : ∀ call ∈ calls, call.1 < 16) :
    builder.setIos calls =
      ok (calls.foldl (fun builder call => builder.setPin call.1 call.2) builder) := by
  induction calls generalizing builder with
  | nil => rfl
  | cons call calls ih =>
      obtain ⟨hPin, hRest⟩ := List.forall_mem_cons.mp hPins
      rw [setIos_cons, setIo, if_pos hPin, ok_bind, ih hRest, List.foldl_cons]

/-- The mode stays, and each call edits the data in its way. -/
theorem foldl_setPin (builder : UpdateIoBuilder) (calls : List ((_ : UInt8) × Bool)) :
    calls.foldl (fun builder call => builder.setPin call.1 call.2) builder =
      ⟨builder.mutil,
        calls.foldl (fun data call =>
          if builder.mutil then setMutil data call.1 call.2 else setSingle data call.1 call.2)
          builder.data⟩ := by
  induction calls generalizing builder with
  | nil => rfl
  | cons call calls ih =>
      rw [List.foldl_cons, ih, setPin, List.foldl_cons]
      cases builder.mutil <;> rfl

end UpdateIoBuilder

end SnapEmu.Command
