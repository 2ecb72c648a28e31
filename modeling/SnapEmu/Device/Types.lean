import SnapEmu.Semantics.HashRecord

/-! Identifiers and enumerations of devices, and how their values stand in
the cache. Distinct values have distinct texts there, so an argument is kept
as the value itself. -/
namespace SnapEmu.Device

open Semantics

structure Id where
  value : UInt64
  deriving DecidableEq, Inhabited

structure Eui where
  value : UInt64
  deriving DecidableEq, Inhabited

structure LoRaAddr where
  value : UInt32
  deriving DecidableEq, Inhabited

structure Key where
  bytes : Vector UInt8 16
  deriving DecidableEq, Inhabited

structure Timestamp where
  micros : Int
  deriving DecidableEq, Inhabited

/-- A number of 32 bits with a point, by its bits. -/
structure F32 where
  bits : UInt32
  deriving DecidableEq, Inhabited

inductive LoRaRegion where
  | EU868 | US915 | CN779 | EU433 | AU915 | CN470 | AS923_1 | AS923_2 | AS923_3 | KR920 | IN865
  | RU864
  deriving DecidableEq, Inhabited

inductive LoRaJoinType where
  | OTAA | ABP
  deriving DecidableEq, Inhabited

inductive ProductType where
  | Custom | Monitor | Controller | Gate
  deriving DecidableEq, Inhabited

inductive DeviceType where
  | LoRaNode | LoRaGate | MQTT | Snap
  deriving DecidableEq, Inhabited

/-- An argument of a cache command. -/
inductive RedisArg where
  | int (value : Int)
  | eui (value : Eui)
  | addr (value : LoRaAddr)
  | key (value : Key)
  | region (value : LoRaRegion)
  | joinType (value : LoRaJoinType)
  | productType (value : ProductType)
  | time (value : Timestamp)
  | text (value : String)
  | float (value : F32)
  deriving DecidableEq, Inhabited

/-- `ToRedisArgs` and `FromRedisValue` of a type; what is written reads back. -/
class RedisCodec (α : Type) where
  codec : FieldCodec RedisArg α
  inverse : ∀ value, codec.fromValue (codec.toArgs value) = some value

/-- A type whose values always write an argument. -/
class RequiredCodec (α : Type) extends RedisCodec α where
  written : ∀ value, (codec.toArgs value).isSome

/-- A machine integer within the given bounds. -/
@[reducible] def intCodec {α : Type} (toInt : α → Int) (ofInt : Int → α) (least most : Int)
    (hInverse : ∀ value, ofInt (toInt value) = value)
    (hBounds : ∀ value, least ≤ toInt value ∧ toInt value ≤ most) : RequiredCodec α where
  codec :=
    { toArgs := fun value => some (.int (toInt value))
      fromValue := fun
        | some (.int value) => if least ≤ value ∧ value ≤ most then some (ofInt value) else none
        | _ => none }
  inverse value := by
    dsimp only
    rw [if_pos (hBounds value), hInverse]
  written _ := rfl

/-- A value with an argument form of its own. -/
@[reducible] def tokenCodec {α : Type} (toArg : α → RedisArg) (ofArg : RedisArg → Option α)
    (hInverse : ∀ value, ofArg (toArg value) = some value) : RequiredCodec α where
  codec := { toArgs := fun value => some (toArg value), fromValue := fun arg => arg.bind ofArg }
  inverse := hInverse
  written _ := rfl

instance : RequiredCodec UInt32 :=
  intCodec (fun value => value.toNat) (fun value => UInt32.ofNat value.toNat) 0 4294967295
    (by simp) (fun value => by have := value.toNat_lt; omega)

/-- A 32-bit counter has exactly one argument. -/
theorem uint32_fromValue {arg : Option RedisArg} {value : UInt32} :
    (RedisCodec.codec : FieldCodec RedisArg UInt32).fromValue arg = some value ↔
      arg = some (.int value.toNat) := by
  constructor
  · intro hRead
    match arg with
    | some (.int count) =>
        change (if 0 ≤ count ∧ count ≤ 4294967295 then some (UInt32.ofNat count.toNat) else none) =
          some value at hRead
        split_ifs at hRead with hBounds
        have hLess : count.toNat < UInt32.size := by
          have hSize : UInt32.size = 4294967296 := rfl
          omega
        have hNat : value.toNat = count.toNat := by
          rw [← Option.some.inj hRead, UInt32.toNat_ofNat_of_lt' hLess]
        rw [hNat, Int.toNat_of_nonneg hBounds.1]
  · rintro rfl
    exact RedisCodec.inverse value

instance : RequiredCodec UInt8 :=
  intCodec (fun value => value.toNat) (fun value => UInt8.ofNat value.toNat) 0 255
    (by simp) (fun value => by have := value.toNat_lt; omega)

instance : RequiredCodec Int16 :=
  intCodec Int16.toInt Int16.ofInt (-32768) 32767 (by simp)
    (fun value => ⟨value.le_toInt, by have := value.toInt_lt; omega⟩)

instance : RequiredCodec Int32 :=
  intCodec Int32.toInt Int32.ofInt (-2147483648) 2147483647 (by simp)
    (fun value => ⟨value.le_toInt, by have := value.toInt_lt; omega⟩)

instance : RequiredCodec Id :=
  intCodec (fun id => id.value.toNat) (fun value => ⟨UInt64.ofNat value.toNat⟩) 0
    18446744073709551615 (by simp) (fun id => by have := id.value.toNat_lt; omega)

/-- A boolean is 1 or 0; a missing entry reads as false. -/
instance : RequiredCodec Bool where
  codec :=
    { toArgs := fun value => some (.int (if value then 1 else 0))
      fromValue := fun
        | none => some false
        | some (.int 0) => some false
        | some (.int 1) => some true
        | _ => none }
  inverse value := by cases value <;> rfl
  written _ := rfl

instance : RequiredCodec Eui :=
  tokenCodec .eui (fun | .eui value => some value | _ => none) fun _ => rfl

instance : RequiredCodec LoRaAddr :=
  tokenCodec .addr (fun | .addr value => some value | _ => none) fun _ => rfl

instance : RequiredCodec Key :=
  tokenCodec .key (fun | .key value => some value | _ => none) fun _ => rfl

instance : RequiredCodec LoRaRegion :=
  tokenCodec .region (fun | .region value => some value | _ => none) fun _ => rfl

instance : RequiredCodec LoRaJoinType :=
  tokenCodec .joinType (fun | .joinType value => some value | _ => none) fun _ => rfl

instance : RequiredCodec ProductType :=
  tokenCodec .productType (fun | .productType value => some value | _ => none) fun _ => rfl

instance : RequiredCodec Timestamp :=
  tokenCodec .time (fun | .time value => some value | _ => none) fun _ => rfl

instance : RequiredCodec String :=
  tokenCodec .text (fun | .text value => some value | _ => none) fun _ => rfl

instance : RequiredCodec F32 :=
  tokenCodec .float (fun | .float value => some value | _ => none) fun _ => rfl

/-- An optional value writes nothing when it is absent. -/
instance {α : Type} [inner : RequiredCodec α] : RedisCodec (Option α) where
  codec :=
    { toArgs := fun value => value.bind inner.codec.toArgs
      fromValue := fun
        | none => some none
        | some arg => (inner.codec.fromValue (some arg)).map some }
  inverse value := by
    cases value with
    | none => rfl
    | some value =>
        obtain ⟨arg, hArg⟩ := Option.isSome_iff_exists.mp (inner.written value)
        have hInverse := inner.inverse value
        rw [hArg] at hInverse
        simp [hArg, hInverse]

end SnapEmu.Device
