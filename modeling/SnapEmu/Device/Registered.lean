import SnapEmu.Device.GatewayInfo
import SnapEmu.Device.NodeStore
import SnapEmu.Device.SnapDeviceInfo
import SnapEmu.Semantics.RecordHistory

/-! When a record that is registered loads as it was, over what earlier
registrations have left under its key. -/
namespace SnapEmu.Device

open Semantics HashRecord

namespace GatewayInfo

/-- The hashes are those under `info:gateway:<eui>`. -/
def register (hashes : Eui → GatewayHash) (eui : Eui) (info : GatewayInfo) : Eui → GatewayHash :=
  Function.update hashes eui (write GatewayField.codec info.get (hashes eui))

def load (hashes : Eui → GatewayHash) (eui : Eui) : Except RedisError (Option GatewayInfo) :=
  (hashes eui).load

/-- What registrations under one key leave. -/
def registered (earlier : List GatewayInfo) (eui : Eui) : Eui → GatewayHash :=
  earlier.foldl (fun hashes old => register hashes eui old) fun _ _ => none

/-- An optional field that is `None` was so in all records before. -/
structure Clears (info : GatewayInfo) (earlier : List GatewayInfo) : Prop where
  a : info.a = none → ∀ old ∈ earlier, old.a = none
  down : info.down = none → ∀ old ∈ earlier, old.down = none

end GatewayInfo

namespace SnapDeviceInfo

/-- The hashes are those under `info:snap:<eui>`. -/
def register (hashes : Eui → SnapHash) (eui : Eui) (info : SnapDeviceInfo) : Eui → SnapHash :=
  Function.update hashes eui (write SnapField.codec info.get (hashes eui))

def load (hashes : Eui → SnapHash) (eui : Eui) : Except RedisError (Option SnapDeviceInfo) :=
  (hashes eui).load

def registered (earlier : List SnapDeviceInfo) (eui : Eui) : Eui → SnapHash :=
  earlier.foldl (fun hashes old => register hashes eui old) fun _ _ => none

structure Clears (info : SnapDeviceInfo) (earlier : List SnapDeviceInfo) : Prop where
  active : info.active = none → ∀ old ∈ earlier, old.active = none
  down : info.down = none → ∀ old ∈ earlier, old.down = none
  script : info.script = none → ∀ old ∈ earlier, old.script = none
  freq : info.freq = none → ∀ old ∈ earlier, old.freq = none

end SnapDeviceInfo

namespace NodeInfo

/-- Registrations under one address, whose EUIs may differ. -/
def registered (earlier : List (NodeInfo × Eui)) (addr : LoRaAddr) : NodeStore :=
  earlier.foldl (fun store old => register store old.1 old.2 addr) NodeStore.empty

structure Clears (info : NodeInfo) (earlier : List (NodeInfo × Eui)) : Prop where
  userId : info.userId = none → ∀ old ∈ earlier, old.1.userId = none
  battery : info.battery = none → ∀ old ∈ earlier, old.1.battery = none
  script : info.script = none → ∀ old ∈ earlier, old.1.script = none
  activeTime : info.activeTime = none → ∀ old ∈ earlier, old.1.activeTime = none
  gateway : info.gateway = none → ∀ old ∈ earlier, old.1.gateway = none

end NodeInfo

section Codec

variable {α : Type}

/-- An optional value writes nothing exactly if it is `None`. -/
theorem optional_toArgs_eq_none [RequiredCodec α] {value : Option α} :
    (RedisCodec.codec : FieldCodec RedisArg (Option α)).toArgs value = none ↔ value = none := by
  cases value with
  | none => exact iff_of_true rfl rfl
  | some value =>
      refine iff_of_false (fun hNone => ?_) (Option.some_ne_none value)
      have hWritten := RequiredCodec.written value
      rw [show RedisCodec.codec.toArgs value = none from hNone] at hWritten
      cases hWritten

/-- A required field always has a value to write. -/
theorem required_toArgs_ne_none [RequiredCodec α] (value : α) :
    (RedisCodec.codec : FieldCodec RedisArg α).toArgs value ≠ none := by
  intro hNone
  have hWritten := RequiredCodec.written value
  rw [hNone] at hWritten
  cases hWritten

/-- What it means for one optional field that records before are covered. -/
theorem optional_covers_iff {ρ : Type} [RequiredCodec α] (value : Option α) (field : ρ → Option α)
    (earlier : List ρ) :
    ((RedisCodec.codec : FieldCodec RedisArg (Option α)).toArgs value = none →
        ∀ old ∈ earlier, RedisCodec.codec.toArgs (field old) = none) ↔
      (value = none → ∀ old ∈ earlier, field old = none) := by
  simp only [optional_toArgs_eq_none]

end Codec

/-- A record that was just written loads as it reads. -/
theorem loadRecord_write {Field Record : Type} [Fintype Field] {Value : Field → Type}
    (schema : Schema Field RedisArg Value) {ofFields : ((field : Field) → Value field) → Record}
    (hOfFields : Function.Injective ofFields) (record : (field : Field) → Value field)
    (hash : Hash Field RedisArg) :
    loadRecord schema.codec ofFields (write schema.codec record hash) =
        .ok (some (ofFields record)) ↔
      read schema.codec (write schema.codec record hash) = some record := by
  have hPresent : ∃ field, (write schema.codec record hash field).isSome :=
    ⟨schema.first, schema.write_isSome record hash schema.required.1⟩
  rw [loadRecord, if_pos hPresent]
  cases read schema.codec (write schema.codec record hash) with
  | none => simp
  | some fields => simp [hOfFields.eq_iff]

/-- A record over earlier ones loads as it was exactly if it covers them. -/
theorem loadRecord_history_iff {Field Record : Type} [Fintype Field] {Value : Field → Type}
    (schema : Schema Field RedisArg Value) {ofFields : ((field : Field) → Value field) → Record}
    (hOfFields : Function.Injective ofFields) (record : (field : Field) → Value field)
    (earlier : List ((field : Field) → Value field)) :
    loadRecord schema.codec ofFields
        (write schema.codec record (history schema.codec earlier)) =
        .ok (some (ofFields record)) ↔ Covers schema.codec record earlier := by
  rw [loadRecord_write schema hOfFields, read_write_history_iff schema.inverse]

namespace GatewayInfo

theorem get_ofFields : Function.LeftInverse get ofFields := by
  intro value
  funext field
  cases field <;> rfl

/-- After any registrations the hash is the history of what was written. -/
theorem registered_self (earlier : List GatewayInfo) (eui : Eui) :
    registered earlier eui eui = history GatewayField.codec (earlier.map get) :=
  foldl_update_self get earlier (fun _ _ => none) eui

/-- A record covers the earlier ones exactly when it clears what they left. -/
theorem covers_iff {info : GatewayInfo} {earlier : List GatewayInfo} :
    Covers GatewayField.codec info.get (earlier.map get) ↔ info.Clears earlier := by
  simp only [Covers, List.forall_mem_map]
  constructor
  · intro h
    constructor
    · exact (optional_covers_iff _ _ _).mp (h .a)
    · exact (optional_covers_iff _ _ _).mp (h .down)
  · intro h field
    cases field with
    | a => exact (optional_covers_iff _ _ _).mpr h.a
    | down => exact (optional_covers_iff _ _ _).mpr h.down
    | _ => exact fun hNone => absurd hNone (required_toArgs_ne_none _)

/-- A gateway's record loads as it was registered exactly if it clears those before. -/
theorem load_register_iff (earlier : List GatewayInfo) (info : GatewayInfo) (eui : Eui) :
    load (register (registered earlier eui) eui info) eui = .ok (some info) ↔
      info.Clears earlier := by
  rw [load, register, Function.update_self, registered_self, ← covers_iff]
  exact loadRecord_history_iff gatewaySchema get_ofFields.injective info.get _

end GatewayInfo

namespace SnapDeviceInfo

theorem get_ofFields : Function.LeftInverse get ofFields := by
  intro value
  funext field
  cases field <;> rfl

theorem registered_self (earlier : List SnapDeviceInfo) (eui : Eui) :
    registered earlier eui eui = history SnapField.codec (earlier.map get) :=
  foldl_update_self get earlier (fun _ _ => none) eui

theorem covers_iff {info : SnapDeviceInfo} {earlier : List SnapDeviceInfo} :
    Covers SnapField.codec info.get (earlier.map get) ↔ info.Clears earlier := by
  simp only [Covers, List.forall_mem_map]
  constructor
  · intro h
    constructor
    · exact (optional_covers_iff _ _ _).mp (h .active)
    · exact (optional_covers_iff _ _ _).mp (h .down)
    · exact (optional_covers_iff _ _ _).mp (h .script)
    · exact (optional_covers_iff _ _ _).mp (h .freq)
  · intro h field
    cases field with
    | active => exact (optional_covers_iff _ _ _).mpr h.active
    | down => exact (optional_covers_iff _ _ _).mpr h.down
    | script => exact (optional_covers_iff _ _ _).mpr h.script
    | freq => exact (optional_covers_iff _ _ _).mpr h.freq
    | _ => exact fun hNone => absurd hNone (required_toArgs_ne_none _)

theorem load_register_iff (earlier : List SnapDeviceInfo) (info : SnapDeviceInfo) (eui : Eui) :
    load (register (registered earlier eui) eui info) eui = .ok (some info) ↔
      info.Clears earlier := by
  rw [load, register, Function.update_self, registered_self, ← covers_iff]
  exact loadRecord_history_iff snapSchema get_ofFields.injective info.get _

end SnapDeviceInfo

namespace NodeInfo

theorem registered_self (earlier : List (NodeInfo × Eui)) (addr : LoRaAddr) :
    (registered earlier addr).node addr =
      history NodeField.codec (earlier.map fun old => old.1.get) := by
  have hNode : ∀ store : NodeStore,
      (earlier.foldl (fun store old => register store old.1 old.2 addr) store).node =
        earlier.foldl (fun table old =>
          Function.update table addr (write NodeField.codec old.1.get (table addr)))
            store.node := by
    induction earlier with
    | nil => exact fun _ => rfl
    | cons old earlier ih => exact fun store => ih (register store old.1 old.2 addr)
  rw [registered, hNode]
  exact foldl_update_self (fun old : NodeInfo × Eui => old.1.get) earlier _ addr

theorem covers_iff {info : NodeInfo} {earlier : List (NodeInfo × Eui)} :
    Covers NodeField.codec info.get (earlier.map fun old => old.1.get) ↔ info.Clears earlier := by
  simp only [Covers, List.forall_mem_map]
  constructor
  · intro h
    constructor
    · exact (optional_covers_iff _ _ _).mp (h .userId)
    · exact (optional_covers_iff _ _ _).mp (h .battery)
    · exact (optional_covers_iff _ _ _).mp (h .script)
    · exact (optional_covers_iff _ _ _).mp (h .activeTime)
    · exact (optional_covers_iff _ _ _).mp (h .gateway)
  · intro h field
    cases field with
    | userId => exact (optional_covers_iff _ _ _).mpr h.userId
    | battery => exact (optional_covers_iff _ _ _).mpr h.battery
    | script => exact (optional_covers_iff _ _ _).mpr h.script
    | activeTime => exact (optional_covers_iff _ _ _).mpr h.activeTime
    | gateway => exact (optional_covers_iff _ _ _).mpr h.gateway
    | _ => exact fun hNone => absurd hNone (required_toArgs_ne_none _)

/-- By its address and by its EUI the same hash is read. -/
theorem load_register_iff (earlier : List (NodeInfo × Eui)) (info : NodeInfo) (devEui : Eui)
    (addr : LoRaAddr) :
    (loadByAddr (register (registered earlier addr) info devEui addr) addr = .ok (some info) ↔
        info.Clears earlier) ∧
      (loadByEui (register (registered earlier addr) info devEui addr) devEui = .ok (some info) ↔
        info.Clears earlier) := by
  have hAddr : (register (registered earlier addr) info devEui addr).node addr =
      write NodeField.codec info.get
        (history NodeField.codec (earlier.map fun old => old.1.get)) := by
    rw [← registered_self]
    exact Function.update_self _ _ _
  have hEui : (register (registered earlier addr) info devEui addr).nodeEui devEui = some addr :=
    Function.update_self _ _ _
  have hInjective : Function.Injective ofFields := Function.LeftInverse.injective get_ofFields
  have hLoad := loadRecord_history_iff nodeSchema hInjective info.get
    (earlier.map fun old => old.1.get)
  rw [ofFields_get, show Covers nodeSchema.codec info.get _ ↔ _ from covers_iff] at hLoad
  have hByEui : loadByEui (register (registered earlier addr) info devEui addr) devEui =
      loadByAddr (register (registered earlier addr) info devEui addr) addr := by
    rw [loadByEui, hEui, loadByAddr]
  rw [hByEui, loadByAddr, hAddr, NodeHash.load_eq]
  exact ⟨hLoad, hLoad⟩

end NodeInfo

/-- What is registered loads as it was, over any earlier registrations under
its key, exactly if every optional field it leaves out was left out by all of
them. -/
theorem registered_loads_iff (nodes : List (NodeInfo × Eui)) (node : NodeInfo) (addr : LoRaAddr)
    (gateways : List GatewayInfo) (gateway : GatewayInfo) (snaps : List SnapDeviceInfo)
    (snap : SnapDeviceInfo) (eui : Eui) :
    (NodeInfo.loadByAddr
          (NodeInfo.register (NodeInfo.registered nodes addr) node eui addr) addr =
        .ok (some node) ∧
      NodeInfo.loadByEui
          (NodeInfo.register (NodeInfo.registered nodes addr) node eui addr) eui =
        .ok (some node) ↔ node.Clears nodes) ∧
      (GatewayInfo.load
          (GatewayInfo.register (GatewayInfo.registered gateways eui) eui gateway) eui =
        .ok (some gateway) ↔ gateway.Clears gateways) ∧
      (SnapDeviceInfo.load
          (SnapDeviceInfo.register (SnapDeviceInfo.registered snaps eui) eui snap) eui =
        .ok (some snap) ↔ snap.Clears snaps) := by
  refine ⟨?_, GatewayInfo.load_register_iff gateways gateway eui,
    SnapDeviceInfo.load_register_iff snaps snap eui⟩
  have hLoad := NodeInfo.load_register_iff nodes node eui addr
  exact (and_congr hLoad.1 hLoad.2).trans and_self_iff

/-- A gateway that was active, registered anew as one that never was. -/
def activeGateway : GatewayInfo := ⟨⟨1⟩, 0, 2, ⟨0⟩, some ⟨7⟩, none⟩

def newGateway : GatewayInfo := ⟨⟨1⟩, 0, 2, ⟨0⟩, none, none⟩

/-- The new record loads with the activity of the old one. -/
theorem stale_activity_loads :
    ¬∀ (earlier : List GatewayInfo) (info : GatewayInfo) (eui : Eui),
      GatewayInfo.load (GatewayInfo.register (GatewayInfo.registered earlier eui) eui info) eui =
        .ok (some info) := by
  intro h
  have hLoad := h [activeGateway] newGateway ⟨0⟩
  have hStale : GatewayInfo.load (GatewayInfo.register
      (GatewayInfo.registered [activeGateway] ⟨0⟩) ⟨0⟩ newGateway) ⟨0⟩ =
        .ok (some activeGateway) := by rfl
  rw [hStale] at hLoad
  exact absurd hLoad (by decide)

end SnapEmu.Device
