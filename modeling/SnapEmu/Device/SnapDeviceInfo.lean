import SnapEmu.Device.Record

/-! The cached state of a device that speaks the protocol of its own. -/
namespace SnapEmu.Device

open Semantics

structure SnapDeviceInfo where
  id : Id
  key : Key
  active : Option Timestamp
  upCount : UInt32
  down : Option String
  script : Option Id
  freq : Option F32
  deriving DecidableEq, Inhabited

/-- The field names of `SnapDeviceInfo`. -/
inductive SnapField where
  | id | key | active | upCount | down | script | freq
  deriving DecidableEq

namespace SnapField

instance : Fintype SnapField :=
  Fintype.ofList [.id, .key, .active, .upCount, .down, .script, .freq]
    (by intro field; cases field <;> simp)

@[reducible] def Value : SnapField → Type
  | .id => Id
  | .key => Key
  | .active => Option Timestamp
  | .upCount => UInt32
  | .down => Option String
  | .script => Option Id
  | .freq => Option F32

def codec : (field : SnapField) → FieldCodec RedisArg field.Value
  | .id => RedisCodec.codec
  | .key => RedisCodec.codec
  | .active => RedisCodec.codec
  | .upCount => RedisCodec.codec
  | .down => RedisCodec.codec
  | .script => RedisCodec.codec
  | .freq => RedisCodec.codec

def optional : SnapField → Bool
  | .active | .down | .script | .freq => true
  | .id | .key | .upCount => false

end SnapField

namespace SnapDeviceInfo

def get (info : SnapDeviceInfo) : (field : SnapField) → field.Value
  | .id => info.id
  | .key => info.key
  | .active => info.active
  | .upCount => info.upCount
  | .down => info.down
  | .script => info.script
  | .freq => info.freq

def ofFields (value : (field : SnapField) → field.Value) : SnapDeviceInfo where
  id := value .id
  key := value .key
  active := value .active
  upCount := value .upCount
  down := value .down
  script := value .script
  freq := value .freq

end SnapDeviceInfo

def snapSchema : Schema SnapField RedisArg SnapField.Value where
  codec := SnapField.codec
  optional := SnapField.optional
  inverse := by
    intro field value
    cases field <;> exact RedisCodec.inverse value
  written := by
    intro field value hField
    cases field <;> first | exact RequiredCodec.written value | cases hField
  absent := by
    intro field hField
    cases field <;> first | rfl | cases hField
  first := .id
  second := .key
  distinct := by decide
  required := by decide

abbrev SnapHash := HashRecord.Hash SnapField RedisArg

def SnapHash.load (hash : SnapHash) : Except RedisError (Option SnapDeviceInfo) :=
  loadRecord SnapField.codec SnapDeviceInfo.ofFields hash

end SnapEmu.Device
