import Mathlib.Algebra.Group.Int.Defs
import Mathlib.Algebra.Group.Nat.Defs
import Mathlib.Data.Fintype.OfMap
import SnapEmu.Device.Types

/-! The cached state of a LoRa node: the record, its hash under the device
address, and the key that leads from the device EUI to that hash. -/
namespace SnapEmu.Device

open Semantics

structure NodeInfo where
  userId : Option Id
  deviceId : Id
  region : LoRaRegion
  joinType : LoRaJoinType
  appEui : Eui
  devEui : Eui
  appKey : Key
  devAddr : LoRaAddr
  nwkSkey : Key
  appSkey : Key
  classB : Bool
  classC : Bool
  adr : Bool
  rx1Delay : Int16
  desRx1Delay : Int16
  rx1Dro : Int16
  desRx1Dro : Int16
  rx2Dr : Int16
  desRx2Dr : Int16
  rx2Freq : Int32
  desRx2Freq : Int32
  dRetry : Int16
  cRetry : Int16
  productType : ProductType
  dutycyle : Int32
  upConfirm : Bool
  upDr : Int16
  upCount : UInt32
  downCount : UInt32
  power : Int16
  battery : Option Int16
  charge : Bool
  timeZone : Int32
  firmware : Int32
  devNon : Int32
  appNon : Int32
  netId : Int32
  enable : Bool
  period : Int32
  script : Option Id
  activeTime : Option Timestamp
  gateway : Option Eui
  deriving DecidableEq, Inhabited

/-- The field names of `NodeInfo`. -/
inductive NodeField where
  | userId | deviceId | region | joinType | appEui | devEui | appKey | devAddr | nwkSkey
  | appSkey | classB | classC | adr | rx1Delay | desRx1Delay | rx1Dro | desRx1Dro | rx2Dr
  | desRx2Dr | rx2Freq | desRx2Freq | dRetry | cRetry | productType | dutycyle | upConfirm | upDr
  | upCount | downCount | power | battery | charge | timeZone | firmware | devNon | appNon
  | netId | enable | period | script | activeTime | gateway
  deriving DecidableEq

namespace NodeField

def all : List NodeField :=
  [.userId, .deviceId, .region, .joinType, .appEui, .devEui, .appKey, .devAddr, .nwkSkey,
   .appSkey, .classB, .classC, .adr, .rx1Delay, .desRx1Delay, .rx1Dro, .desRx1Dro, .rx2Dr,
   .desRx2Dr, .rx2Freq, .desRx2Freq, .dRetry, .cRetry, .productType, .dutycyle, .upConfirm,
   .upDr, .upCount, .downCount, .power, .battery, .charge, .timeZone, .firmware, .devNon,
   .appNon, .netId, .enable, .period, .script, .activeTime, .gateway]

instance : Fintype NodeField :=
  Fintype.ofList all (by intro field; cases field <;> simp [all])

@[reducible] def Value : NodeField → Type
  | .userId | .script => Option Id
  | .deviceId => Id
  | .region => LoRaRegion
  | .joinType => LoRaJoinType
  | .appEui | .devEui => Eui
  | .appKey | .nwkSkey | .appSkey => Key
  | .devAddr => LoRaAddr
  | .classB | .classC | .adr | .upConfirm | .charge | .enable => Bool
  | .rx1Delay | .desRx1Delay | .rx1Dro | .desRx1Dro | .rx2Dr | .desRx2Dr | .dRetry
  | .cRetry | .upDr | .power => Int16
  | .rx2Freq | .desRx2Freq | .dutycyle | .timeZone | .firmware | .devNon | .appNon
  | .netId | .period => Int32
  | .productType => ProductType
  | .upCount | .downCount => UInt32
  | .battery => Option Int16
  | .activeTime => Option Timestamp
  | .gateway => Option Eui

/-- The codec of a field is that of its type. -/
def codec : (field : NodeField) → FieldCodec RedisArg field.Value
  | .userId | .script => RedisCodec.codec
  | .deviceId => RedisCodec.codec
  | .region => RedisCodec.codec
  | .joinType => RedisCodec.codec
  | .appEui | .devEui => RedisCodec.codec
  | .appKey | .nwkSkey | .appSkey => RedisCodec.codec
  | .devAddr => RedisCodec.codec
  | .classB | .classC | .adr | .upConfirm | .charge | .enable => RedisCodec.codec
  | .rx1Delay | .desRx1Delay | .rx1Dro | .desRx1Dro | .rx2Dr | .desRx2Dr
  | .dRetry | .cRetry | .upDr | .power => RedisCodec.codec
  | .rx2Freq | .desRx2Freq | .dutycyle | .timeZone | .firmware | .devNon
  | .appNon | .netId | .period => RedisCodec.codec
  | .productType => RedisCodec.codec
  | .upCount | .downCount => RedisCodec.codec
  | .battery => RedisCodec.codec
  | .activeTime => RedisCodec.codec
  | .gateway => RedisCodec.codec

end NodeField

namespace NodeInfo

def get (info : NodeInfo) : (field : NodeField) → field.Value
  | .userId => info.userId
  | .deviceId => info.deviceId
  | .region => info.region
  | .joinType => info.joinType
  | .appEui => info.appEui
  | .devEui => info.devEui
  | .appKey => info.appKey
  | .devAddr => info.devAddr
  | .nwkSkey => info.nwkSkey
  | .appSkey => info.appSkey
  | .classB => info.classB
  | .classC => info.classC
  | .adr => info.adr
  | .rx1Delay => info.rx1Delay
  | .desRx1Delay => info.desRx1Delay
  | .rx1Dro => info.rx1Dro
  | .desRx1Dro => info.desRx1Dro
  | .rx2Dr => info.rx2Dr
  | .desRx2Dr => info.desRx2Dr
  | .rx2Freq => info.rx2Freq
  | .desRx2Freq => info.desRx2Freq
  | .dRetry => info.dRetry
  | .cRetry => info.cRetry
  | .productType => info.productType
  | .dutycyle => info.dutycyle
  | .upConfirm => info.upConfirm
  | .upDr => info.upDr
  | .upCount => info.upCount
  | .downCount => info.downCount
  | .power => info.power
  | .battery => info.battery
  | .charge => info.charge
  | .timeZone => info.timeZone
  | .firmware => info.firmware
  | .devNon => info.devNon
  | .appNon => info.appNon
  | .netId => info.netId
  | .enable => info.enable
  | .period => info.period
  | .script => info.script
  | .activeTime => info.activeTime
  | .gateway => info.gateway

def ofFields (value : (field : NodeField) → field.Value) : NodeInfo where
  userId := value .userId
  deviceId := value .deviceId
  region := value .region
  joinType := value .joinType
  appEui := value .appEui
  devEui := value .devEui
  appKey := value .appKey
  devAddr := value .devAddr
  nwkSkey := value .nwkSkey
  appSkey := value .appSkey
  classB := value .classB
  classC := value .classC
  adr := value .adr
  rx1Delay := value .rx1Delay
  desRx1Delay := value .desRx1Delay
  rx1Dro := value .rx1Dro
  desRx1Dro := value .desRx1Dro
  rx2Dr := value .rx2Dr
  desRx2Dr := value .desRx2Dr
  rx2Freq := value .rx2Freq
  desRx2Freq := value .desRx2Freq
  dRetry := value .dRetry
  cRetry := value .cRetry
  productType := value .productType
  dutycyle := value .dutycyle
  upConfirm := value .upConfirm
  upDr := value .upDr
  upCount := value .upCount
  downCount := value .downCount
  power := value .power
  battery := value .battery
  charge := value .charge
  timeZone := value .timeZone
  firmware := value .firmware
  devNon := value .devNon
  appNon := value .appNon
  netId := value .netId
  enable := value .enable
  period := value .period
  script := value .script
  activeTime := value .activeTime
  gateway := value .gateway

/-- A record is the record of its fields. -/
theorem ofFields_get (info : NodeInfo) : ofFields info.get = info := rfl

/-- The fields of a record built from values are those values. -/
theorem get_ofFields (value : (field : NodeField) → field.Value) :
    (ofFields value).get = value := by
  funext field
  cases field <;> rfl

/-- Assign one field. -/
def set (info : NodeInfo) (field : NodeField) (value : field.Value) : NodeInfo :=
  ofFields (Function.update info.get field value)

@[simp] theorem set_upCount (info : NodeInfo) (value : UInt32) :
    info.set .upCount value = { info with upCount := value } := rfl

@[simp] theorem set_downCount (info : NodeInfo) (value : UInt32) :
    info.set .downCount value = { info with downCount := value } := rfl

theorem downCount_self {info : NodeInfo} {value : UInt32} (hValue : info.downCount = value) :
    { info with downCount := value } = info := by
  subst hValue
  rfl

@[simp] theorem set_nwkSkey (info : NodeInfo) (value : Key) :
    info.set .nwkSkey value = { info with nwkSkey := value } := rfl

@[simp] theorem set_appSkey (info : NodeInfo) (value : Key) :
    info.set .appSkey value = { info with appSkey := value } := rfl

@[simp] theorem set_devNon (info : NodeInfo) (value : Int32) :
    info.set .devNon value = { info with devNon := value } := rfl

@[simp] theorem set_netId (info : NodeInfo) (value : Int32) :
    info.set .netId value = { info with netId := value } := rfl

@[simp] theorem set_appNon (info : NodeInfo) (value : Int32) :
    info.set .appNon value = { info with appNon := value } := rfl

end NodeInfo

/-- Every field reads back what it wrote, and a field that writes nothing
reads back from nothing. -/
theorem NodeField.codec_inverse (field : NodeField) (value : field.Value) :
    field.codec.fromValue (field.codec.toArgs value) = some value := by
  cases field <;> exact RedisCodec.inverse value

/-- The hash of a node; without entries it does not exist. -/
abbrev NodeHash := HashRecord.Hash NodeField RedisArg

inductive RedisError where
  | type
  | overflow
  deriving DecidableEq

namespace NodeHash

def empty : NodeHash := fun _ => none

def Present (hash : NodeHash) : Prop := ∃ field, (hash field).isSome

instance (hash : NodeHash) : Decidable hash.Present :=
  inferInstanceAs (Decidable (∃ field, (hash field).isSome))

/-- `HSET` of one field. -/
def set (hash : NodeHash) (field : NodeField) (value : field.Value) : NodeHash :=
  match field.codec.toArgs value with
  | some arg => Function.update hash field (some arg)
  | none => hash

/-- `HINCRBY` of one field, with the new value. -/
def incrBy (hash : NodeHash) (field : NodeField) (amount : Int) :
    Except RedisError (NodeHash × Int) :=
  match hash field with
  | none => .ok (Function.update hash field (some (.int amount)), amount)
  | some (.int value) =>
      if -2 ^ 63 ≤ value + amount ∧ value + amount < 2 ^ 63 then
        .ok (Function.update hash field (some (.int (value + amount))), value + amount)
      else .error .overflow
  | some _ => .error .type

/-- `HDEL` of one field. -/
def remove (hash : NodeHash) (field : NodeField) : NodeHash := Function.update hash field none

/-- `HSET` of a whole record. -/
def write (hash : NodeHash) (info : NodeInfo) : NodeHash :=
  HashRecord.write NodeField.codec info.get hash

/-- `HGETALL`, parsed. -/
def load (hash : NodeHash) : Except RedisError (Option NodeInfo) :=
  if hash.Present then
    match HashRecord.read NodeField.codec hash with
    | some fields => .ok (some (NodeInfo.ofFields fields))
    | none => .error .type
  else .ok none

/-- Setting a field whose value is written changes that argument of the hash. -/
theorem set_eq (hash : NodeHash) {field : NodeField} {value : field.Value} {arg : RedisArg}
    (hArg : field.codec.toArgs value = some arg) :
    hash.set field value = Function.update hash field (some arg) := by
  simp only [set, hArg]

/-- Setting a field touches no other. -/
@[simp] theorem set_of_ne (hash : NodeHash) {field other : NodeField} (value : field.Value)
    (hField : other ≠ field) : hash.set field value other = hash other := by
  cases hArg : field.codec.toArgs value with
  | none => simp only [set, hArg]
  | some arg => rw [set_eq hash hArg, Function.update_of_ne hField]

/-- A loaded record is built from fields that could all be read. -/
theorem load_eq_some {hash : NodeHash} {info : NodeInfo} (hLoad : hash.load = .ok (some info)) :
    ∃ fields, HashRecord.read NodeField.codec hash = some fields ∧
      NodeInfo.ofFields fields = info := by
  unfold load at hLoad
  split_ifs at hLoad
  · cases hRead : HashRecord.read NodeField.codec hash with
    | none => simp [hRead] at hLoad
    | some fields => exact ⟨fields, rfl, by simpa [hRead] using hLoad⟩
  · simp at hLoad

/-- A loaded record, after one of its fields is set, loads with that field. -/
theorem load_set {hash : NodeHash} {info : NodeInfo} (hLoad : hash.load = .ok (some info))
    (field : NodeField) (value : field.Value) (hArg : (field.codec.toArgs value).isSome) :
    (hash.set field value).load = .ok (some (info.set field value)) := by
  obtain ⟨arg, hArg⟩ := Option.isSome_iff_exists.mp hArg
  have hValue := field.codec_inverse value
  rw [hArg] at hValue
  obtain ⟨fields, hRead, rfl⟩ := load_eq_some hLoad
  have hPresent : (hash.set field value).Present := ⟨field, by simp [set_eq hash hArg]⟩
  rw [load, if_pos hPresent, set_eq hash hArg, HashRecord.read_update hRead hValue]
  simp only [NodeInfo.set, NodeInfo.get_ofFields]

/-- Only an empty hash loads as no record. -/
theorem load_eq_none {hash : NodeHash} (hLoad : hash.load = .ok none) : hash = empty := by
  unfold load at hLoad
  split_ifs at hLoad with hPresent
  · cases hRead : HashRecord.read NodeField.codec hash <;> simp [hRead] at hLoad
  · funext field
    rw [empty, ← Option.not_isSome_iff_eq_none]
    exact fun hField => hPresent ⟨field, hField⟩

/-- A record written to a fresh hash loads as it was. -/
theorem load_write_empty (info : NodeInfo) : (empty.write info).load = .ok (some info) := by
  have hRead : HashRecord.read NodeField.codec (empty.write info) = some info.get := by
    rw [HashRecord.read_eq_some]
    intro field
    rw [write, HashRecord.write, empty, Option.or_none, NodeField.codec_inverse]
  have hPresent : (empty.write info).Present := ⟨.deviceId, rfl⟩
  rw [load, if_pos hPresent, hRead]
  simp only [NodeInfo.ofFields_get]

end NodeHash

end SnapEmu.Device
