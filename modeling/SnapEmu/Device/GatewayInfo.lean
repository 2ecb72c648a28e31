import SnapEmu.Device.Record

/-! The cached state of a gateway. -/
namespace SnapEmu.Device

open Semantics

structure GatewayInfo where
  device : Id
  tmst : UInt32
  version : UInt8
  time : Timestamp
  a : Option Timestamp
  down : Option String
  deriving DecidableEq, Inhabited

/-- The field names of `GatewayInfo`. -/
inductive GatewayField where
  | device | tmst | version | time | a | down
  deriving DecidableEq

namespace GatewayField

instance : Fintype GatewayField :=
  Fintype.ofList [.device, .tmst, .version, .time, .a, .down]
    (by intro field; cases field <;> simp)

@[reducible] def Value : GatewayField → Type
  | .device => Id
  | .tmst => UInt32
  | .version => UInt8
  | .time => Timestamp
  | .a => Option Timestamp
  | .down => Option String

def codec : (field : GatewayField) → FieldCodec RedisArg field.Value
  | .device => RedisCodec.codec
  | .tmst => RedisCodec.codec
  | .version => RedisCodec.codec
  | .time => RedisCodec.codec
  | .a => RedisCodec.codec
  | .down => RedisCodec.codec

def optional : GatewayField → Bool
  | .a | .down => true
  | .device | .tmst | .version | .time => false

end GatewayField

namespace GatewayInfo

def get (info : GatewayInfo) : (field : GatewayField) → field.Value
  | .device => info.device
  | .tmst => info.tmst
  | .version => info.version
  | .time => info.time
  | .a => info.a
  | .down => info.down

def ofFields (value : (field : GatewayField) → field.Value) : GatewayInfo where
  device := value .device
  tmst := value .tmst
  version := value .version
  time := value .time
  a := value .a
  down := value .down

end GatewayInfo

def gatewaySchema : Schema GatewayField RedisArg GatewayField.Value where
  codec := GatewayField.codec
  optional := GatewayField.optional
  inverse := by
    intro field value
    cases field <;> exact RedisCodec.inverse value
  written := by
    intro field value hField
    cases field <;> first | exact RequiredCodec.written value | cases hField
  absent := by
    intro field hField
    cases field <;> first | rfl | cases hField
  first := .device
  second := .tmst
  distinct := by decide
  required := by decide

abbrev GatewayHash := HashRecord.Hash GatewayField RedisArg

def GatewayHash.load (hash : GatewayHash) : Except RedisError (Option GatewayInfo) :=
  loadRecord GatewayField.codec GatewayInfo.ofFields hash

end SnapEmu.Device
