import SnapEmu.Device.RedisCommands

/-! The hashes of the cache are absent or whole, load without an error, and
stay absent after they were deleted: what each command must find for that. -/
namespace SnapEmu.Device

open Semantics HashRecord

variable {cache : DeviceCache}

structure Intact (cache : DeviceCache) : Prop where
  node : ∀ addr, nodeSchema.Complete (cache.node.hash addr)
  gateway : ∀ eui, gatewaySchema.Complete (cache.gateway.hash eui)
  snap : ∀ eui, snapSchema.Complete (cache.snap.hash eui)
  loadNode : ∀ addr, ∃ info, NodeInfo.loadByAddr cache.store addr = .ok info
  loadGateway : ∀ eui, ∃ info, GatewayHash.load (cache.gateway.hash eui) = .ok info
  loadSnap : ∀ eui, ∃ info, SnapHash.load (cache.snap.hash eui) = .ok info
  deletedNode : ∀ addr, cache.node.live addr = false → Absent (cache.node.hash addr)
  deletedGateway : ∀ eui, cache.gateway.live eui = false → Absent (cache.gateway.hash eui)
  deletedSnap : ∀ eui, cache.snap.live eui = false → Absent (cache.snap.hash eui)

/-- What a command must find. A single entry goes to a hash that is there, the
counter is not at its end, only optional entries are removed, and a node that
is written was not deleted since its registration began. -/
def RedisCommand.Safe (cache : DeviceCache) : RedisCommand → Prop
  | .writeNode addr _ => cache.node.live addr = true
  | .hsetNode addr field value =>
      (field.codec.toArgs value).isSome → ¬Absent (cache.node.hash addr)
  | .hdelNode addr field => Absent (cache.node.hash addr) ∨ field.optional = true
  | .hincrbyNode addr =>
      ¬Absent (cache.node.hash addr) ∧
        cache.node.hash addr .downCount ≠ some (.int 4294967295)
  | .hsetGateway eui field value =>
      (field.codec.toArgs value).isSome → ¬Absent (cache.gateway.hash eui)
  | .hsetSnap eui field value =>
      (field.codec.toArgs value).isSome → ¬Absent (cache.snap.hash eui)
  | _ => True

/-- The next command of a client is safe. -/
def Guarded (state : RedisState) : RedisEvent → Prop
  | .start _ _ => True
  | .step client =>
      match state.clients client with
      | .send command _ => command.Safe state.cache
      | _ => True

/-- A table is sound when its hashes are complete and readable, and absent keys hold
none. -/
theorem sound_iff {κ Field : Type} {Value : Field → Type} {schema : Schema Field RedisArg Value}
    {table : Table κ Field RedisArg} : Table.Sound schema table ↔
      (∀ key, schema.Complete (table.hash key)) ∧ (∀ key, schema.Readable (table.hash key)) ∧
        ∀ key, table.live key = false → Absent (table.hash key) := by
  constructor
  · intro h
    exact ⟨fun key => (h key).1.1, fun key => (h key).1.2, fun key => (h key).2⟩
  · intro h key
    exact ⟨⟨h.1 key, h.2.1 key⟩, h.2.2 key⟩

/-- The cache is intact when its three tables are sound. -/
theorem intact_iff : Intact cache ↔ Table.Sound nodeSchema cache.node ∧
    Table.Sound gatewaySchema cache.gateway ∧ Table.Sound snapSchema cache.snap := by
  have hNode : ∀ addr, (∃ info, NodeInfo.loadByAddr cache.store addr = .ok info) ↔
      nodeSchema.Readable (cache.node.hash addr) := by
    intro addr
    have hLoad : NodeInfo.loadByAddr cache.store addr =
        loadRecord nodeSchema.codec NodeInfo.ofFields (cache.node.hash addr) :=
      NodeHash.load_eq _
    rw [hLoad]
    exact loadRecord_ok_iff nodeSchema _ _
  have hGateway : ∀ eui, (∃ info, GatewayHash.load (cache.gateway.hash eui) = .ok info) ↔
      gatewaySchema.Readable (cache.gateway.hash eui) :=
    fun _ => loadRecord_ok_iff gatewaySchema _ _
  have hSnap : ∀ eui, (∃ info, SnapHash.load (cache.snap.hash eui) = .ok info) ↔
      snapSchema.Readable (cache.snap.hash eui) := fun _ => loadRecord_ok_iff snapSchema _ _
  rw [sound_iff, sound_iff, sound_iff]
  constructor
  · intro h
    exact ⟨⟨h.node, fun addr => (hNode addr).mp (h.loadNode addr), h.deletedNode⟩,
      ⟨h.gateway, fun eui => (hGateway eui).mp (h.loadGateway eui), h.deletedGateway⟩,
      ⟨h.snap, fun eui => (hSnap eui).mp (h.loadSnap eui), h.deletedSnap⟩⟩
  · intro h
    obtain ⟨hNodes, hGateways, hSnaps⟩ := h
    exact
      { node := hNodes.1, gateway := hGateways.1, snap := hSnaps.1
        loadNode := fun addr => (hNode addr).mpr (hNodes.2.1 addr)
        loadGateway := fun eui => (hGateway eui).mpr (hGateways.2.1 eui)
        loadSnap := fun eui => (hSnap eui).mpr (hSnaps.2.1 eui)
        deletedNode := hNodes.2.2, deletedGateway := hGateways.2.2, deletedSnap := hSnaps.2.2 }

/-- A command on the node table concerns that table alone. -/
theorem intact_node_iff (h : Intact cache) (table : Table LoRaAddr NodeField RedisArg) :
    Intact { cache with node := table } ↔ Table.Sound nodeSchema table :=
  intact_iff.trans (and_iff_left (intact_iff.mp h).2)

/-- A command on the gateway table concerns that table alone. -/
theorem intact_gateway_iff (h : Intact cache) (table : Table Eui GatewayField RedisArg) :
    Intact { cache with gateway := table } ↔ Table.Sound gatewaySchema table := by
  obtain ⟨hNode, _, hSnap⟩ := intact_iff.mp h
  exact intact_iff.trans ((and_iff_right hNode).trans (and_iff_left hSnap))

/-- A command on the Snap table concerns that table alone. -/
theorem intact_snap_iff (h : Intact cache) (table : Table Eui SnapField RedisArg) :
    Intact { cache with snap := table } ↔ Table.Sound snapSchema table := by
  obtain ⟨hNode, hGateway, _⟩ := intact_iff.mp h
  exact intact_iff.trans ((and_iff_right hNode).trans (and_iff_right hGateway))

/-- One field of a record may be set if its hash is there. -/
theorem sound_hset_iff {κ Field : Type} [DecidableEq κ] [DecidableEq Field]
    {Value : Field → Type} {schema : Schema Field RedisArg Value}
    {table : Table κ Field RedisArg} (h : Table.Sound schema table) (key : κ) (field : Field)
    (value : Value field) :
    Table.Sound schema (hset schema.codec table key field value) ↔
      (((schema.codec field).toArgs value).isSome → ¬Absent (table.hash key)) := by
  cases hArg : (schema.codec field).toArgs value with
  | none =>
      rw [hset_none table key hArg]
      exact iff_of_true h fun hSome => by cases hSome
  | some arg =>
      have hRead := schema.inverse field value
      rw [hArg] at hRead
      rw [hset_some table key hArg, Table.sound_put_iff h, hRead]
      simp

/-- A count is read back if it fits into 32 bits. -/
theorem downCount_readable (count : Int) :
    ((NodeField.codec .downCount).fromValue (some (.int count))).isSome ↔
      0 ≤ count ∧ count ≤ 4294967295 := by
  change (if 0 ≤ count ∧ count ≤ 4294967295 then some (UInt32.ofNat count.toNat)
    else none).isSome ↔ _
  split_ifs with hBounds
  · exact iff_of_true rfl hBounds
  · exact iff_of_false (by simp) hBounds

/-- The counter of a readable hash is raised by one, and reads back unless it
was at its end. -/
theorem incrBy_downCount {hash : NodeHash} (h : nodeSchema.Readable hash) :
    ∃ count, NodeHash.incrBy hash .downCount 1 =
        .ok (Function.update hash .downCount (some (.int count)), count) ∧
      (((NodeField.codec .downCount).fromValue (some (.int count))).isSome ↔
        hash .downCount ≠ some (.int 4294967295)) := by
  rcases h with hAbsent | hReadable
  · refine ⟨1, by rw [NodeHash.incrBy, hAbsent .downCount], ?_⟩
    rw [downCount_readable, hAbsent .downCount]
    exact iff_of_true (by decide) (by simp)
  · obtain ⟨value, hValue⟩ := Option.isSome_iff_exists.mp (hReadable .downCount)
    have hEntry : hash .downCount = some (.int value.toNat) := uint32_fromValue.mp hValue
    have hLess := value.toNat_lt
    refine ⟨value.toNat + 1, ?_, ?_⟩
    · rw [NodeHash.incrBy, hEntry]
      dsimp only
      rw [if_pos (by omega)]
    · rw [downCount_readable, hEntry, ne_eq, Option.some.injEq, RedisArg.int.injEq]
      omega

/-- An increment keeps the cache intact exactly when there is a counter to increment. -/
theorem incr_intact_iff (h : Intact cache) (addr : LoRaAddr) :
    Intact ((RedisCommand.hincrbyNode addr).apply cache) ↔
      (RedisCommand.hincrbyNode addr).Safe cache := by
  have hNode := (intact_iff.mp h).1
  obtain ⟨count, hIncr, hCount⟩ := incrBy_downCount (hNode addr).1.2
  rw [RedisCommand.apply, hIncr]
  exact (intact_node_iff h _).trans
    ((Table.sound_put_iff hNode addr .downCount (.int count)).trans
      (and_congr_right fun _ => hCount))

/-- One command keeps the cache intact exactly if it is safe. -/
theorem apply_intact_iff (h : Intact cache) (command : RedisCommand) :
    Intact (command.apply cache) ↔ command.Safe cache := by
  obtain ⟨hNode, hGateway, hSnap⟩ := intact_iff.mp h
  cases command with
  | setNodeEui devEui addr =>
      exact iff_of_true (intact_iff.mpr ⟨Table.sound_enlist hNode addr, hGateway, hSnap⟩) trivial
  | delNodeEui devEui => exact iff_of_true (intact_iff.mpr ⟨hNode, hGateway, hSnap⟩) trivial
  | writeNode addr info =>
      exact (intact_node_iff h _).trans (Table.sound_write_iff hNode addr info.get)
  | hsetNode addr field value =>
      exact (intact_node_iff h _).trans (sound_hset_iff hNode addr field value)
  | hdelNode addr field =>
      exact (intact_node_iff h _).trans (Table.sound_remove_iff hNode addr field)
  | hincrbyNode addr => exact incr_intact_iff h addr
  | delNode addr =>
      exact iff_of_true ((intact_node_iff h _).mpr (Table.sound_delete hNode addr)) trivial
  | writeGateway eui info =>
      have hWrite := Table.sound_write_iff (Table.sound_enlist hGateway eui) eui info.get
      exact iff_of_true ((intact_gateway_iff h _).mpr (hWrite.mpr (Function.update_self _ _ _)))
        trivial
  | hsetGateway eui field value =>
      exact (intact_gateway_iff h _).trans (sound_hset_iff hGateway eui field value)
  | delGateway eui =>
      exact iff_of_true ((intact_gateway_iff h _).mpr (Table.sound_delete hGateway eui)) trivial
  | writeSnap eui info =>
      have hWrite := Table.sound_write_iff (Table.sound_enlist hSnap eui) eui info.get
      exact iff_of_true ((intact_snap_iff h _).mpr (hWrite.mpr (Function.update_self _ _ _)))
        trivial
  | hsetSnap eui field value =>
      exact (intact_snap_iff h _).trans (sound_hset_iff hSnap eui field value)
  | delSnap eui =>
      exact iff_of_true ((intact_snap_iff h _).mpr (Table.sound_delete hSnap eui)) trivial

/-- Each event keeps the cache intact exactly when it is guarded. -/
theorem redisStep_intact_iff (state : RedisState) (event : RedisEvent) (h : Intact state.cache) :
    Intact (redisStep state event).cache ↔ Guarded state event := by
  cases event with
  | start client operation =>
      refine iff_of_true ?_ trivial
      unfold redisStep
      dsimp only
      split
      · exact h
      · exact h
  | step client =>
      dsimp only [redisStep, Guarded]
      cases state.clients client with
      | done => exact iff_of_true h trivial
      | send command next => exact apply_intact_iff h command
      | getNodeEui devEui next =>
          refine iff_of_true ?_ trivial
          dsimp only [RedisProgram.step]
          split
          · exact h
          · exact h
      | existsNode addr next => exact iff_of_true h trivial
      | existsSnap eui next => exact iff_of_true h trivial

/-- The cache is intact throughout a run exactly if every command is safe. -/
theorem intact_iff_guarded (events : List RedisEvent) :
    Along redisStep (fun state => Intact state.cache) RedisState.initial events ↔
      Meets redisStep Guarded RedisState.initial events :=
  along_iff_meets (fun _ _ (_ : True) _ _ => trivial)
    (fun state event _ h => redisStep_intact_iff state event h) _ events trivial
    (intact_iff.mpr ⟨Table.sound_empty, Table.sound_empty, Table.sound_empty⟩)

/-- A gateway is unregistered between its registration and the update of its
active time. -/
def lateActiveTime : List RedisEvent :=
  [.start 0 (.gatewayRegister ⟨⟨7⟩, 0, 2, ⟨0⟩, none, none⟩ ⟨5⟩), .step 0,
   .start 1 (.gatewayUnregister ⟨5⟩), .step 1,
   .start 0 (.gatewayUpdateActiveTime ⟨5⟩ ⟨0⟩), .step 0]

theorem gateway_incomplete : ¬∀ events : List RedisEvent,
    Along redisStep (fun state => Intact state.cache) RedisState.initial events := by
  intro h
  have hIntact := h lateActiveTime 6
  rcases hIntact.gateway ⟨5⟩ with hAbsent | hFields
  · have hEntry := hAbsent .a
    cases hEntry
  · have hEntry := hFields .device rfl
    cases hEntry

end SnapEmu.Device
