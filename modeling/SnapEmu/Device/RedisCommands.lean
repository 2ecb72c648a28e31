import SnapEmu.Device.GatewayInfo
import SnapEmu.Device.NodeStore
import SnapEmu.Device.SnapDeviceInfo
import SnapEmu.Semantics.Run

/-! The cache of all devices, and the operations on it as the single commands
that they send to the server. Commands of other clients may come in between. -/
namespace SnapEmu.Device

open Semantics

/-- `nodeEui` is `info:eui:node:<eui>`, the hashes are `info:node:<addr>`,
`info:gateway:<eui>` and `info:snap:<eui>`. -/
structure DeviceCache where
  nodeEui : Eui → Option LoRaAddr
  node : Table LoRaAddr NodeField RedisArg
  gateway : Table Eui GatewayField RedisArg
  snap : Table Eui SnapField RedisArg

namespace DeviceCache

def empty : DeviceCache :=
  { nodeEui := fun _ => none, node := Table.empty, gateway := Table.empty, snap := Table.empty }

/-- What concerns nodes. -/
def store (cache : DeviceCache) : NodeStore :=
  { nodeEui := cache.nodeEui, node := cache.node.hash }

end DeviceCache

section

variable {κ Field : Type} [DecidableEq κ] [DecidableEq Field] {Value : Field → Type}

/-- `HSET` of one field. A value that writes no argument is refused by the server. -/
def hset (codec : (field : Field) → FieldCodec RedisArg (Value field))
    (table : Table κ Field RedisArg) (key : κ) (field : Field) (value : Value field) :
    Table κ Field RedisArg :=
  match (codec field).toArgs value with
  | some arg => table.put key field arg
  | none => table

variable {codec : (field : Field) → FieldCodec RedisArg (Value field)} {field : Field}
  {value : Value field} (table : Table κ Field RedisArg) (key : κ)

/-- A field with a value to write is one `HSET`. -/
theorem hset_some {arg : RedisArg} (hArg : (codec field).toArgs value = some arg) :
    hset codec table key field value = table.put key field arg := by
  rw [hset, hArg]

/-- A field without one writes nothing. -/
theorem hset_none (hArg : (codec field).toArgs value = none) :
    hset codec table key field value = table := by
  rw [hset, hArg]

end

inductive RedisCommand where
  | setNodeEui (devEui : Eui) (addr : LoRaAddr)
  | delNodeEui (devEui : Eui)
  | writeNode (addr : LoRaAddr) (info : NodeInfo)
  | hsetNode (addr : LoRaAddr) (field : NodeField) (value : field.Value)
  | hdelNode (addr : LoRaAddr) (field : NodeField)
  | hincrbyNode (addr : LoRaAddr)
  | delNode (addr : LoRaAddr)
  | writeGateway (eui : Eui) (info : GatewayInfo)
  | hsetGateway (eui : Eui) (field : GatewayField) (value : field.Value)
  | delGateway (eui : Eui)
  | writeSnap (eui : Eui) (info : SnapDeviceInfo)
  | hsetSnap (eui : Eui) (field : SnapField) (value : field.Value)
  | delSnap (eui : Eui)

/-- The registration of a node begins with the key of its EUI, that of the
others is a single command. -/
def RedisCommand.apply (cache : DeviceCache) : RedisCommand → DeviceCache
  | .setNodeEui devEui addr =>
      { cache with
        nodeEui := Function.update cache.nodeEui devEui (some addr)
        node := cache.node.enlist addr }
  | .delNodeEui devEui => { cache with nodeEui := Function.update cache.nodeEui devEui none }
  | .writeNode addr info =>
      { cache with
        node := cache.node.setHash addr
          (HashRecord.write NodeField.codec info.get (cache.node.hash addr)) }
  | .hsetNode addr field value =>
      { cache with node := hset NodeField.codec cache.node addr field value }
  | .hdelNode addr field => { cache with node := cache.node.remove addr field }
  | .hincrbyNode addr =>
      match NodeHash.incrBy (cache.node.hash addr) .downCount 1 with
      | .ok (hash, _) => { cache with node := cache.node.setHash addr hash }
      | .error _ => cache
  | .delNode addr => { cache with node := cache.node.delete addr }
  | .writeGateway eui info =>
      { cache with
        gateway := (cache.gateway.enlist eui).setHash eui
          (HashRecord.write GatewayField.codec info.get (cache.gateway.hash eui)) }
  | .hsetGateway eui field value =>
      { cache with gateway := hset GatewayField.codec cache.gateway eui field value }
  | .delGateway eui => { cache with gateway := cache.gateway.delete eui }
  | .writeSnap eui info =>
      { cache with
        snap := (cache.snap.enlist eui).setHash eui
          (HashRecord.write SnapField.codec info.get (cache.snap.hash eui)) }
  | .hsetSnap eui field value =>
      { cache with snap := hset SnapField.codec cache.snap eui field value }
  | .delSnap eui => { cache with snap := cache.snap.delete eui }

/-- What a client still has to do. -/
inductive RedisProgram where
  | done
  | send (command : RedisCommand) (next : RedisProgram)
  | getNodeEui (devEui : Eui) (next : LoRaAddr → RedisProgram)
  | existsNode (addr : LoRaAddr) (next : RedisProgram)
  | existsSnap (eui : Eui) (next : RedisProgram)

/-- One command of a client. A key that is not there ends the operation. -/
def RedisProgram.step (cache : DeviceCache) : RedisProgram → DeviceCache × RedisProgram
  | .done => (cache, .done)
  | .send command next => (command.apply cache, next)
  | .getNodeEui devEui next =>
      match cache.nodeEui devEui with
      | some addr => (cache, next addr)
      | none => (cache, .done)
  | .existsNode addr next =>
      (cache, if NodeHash.Present (cache.node.hash addr) then next else .done)
  | .existsSnap eui next =>
      (cache, if ∃ field, (cache.snap.hash eui field).isSome then next else .done)

/-- All commands of a client, with none in between. -/
def RedisProgram.alone : RedisProgram → DeviceCache → DeviceCache
  | .done, cache => cache
  | .send command next, cache => next.alone (command.apply cache)
  | .getNodeEui devEui next, cache =>
      match cache.nodeEui devEui with
      | some addr => (next addr).alone cache
      | none => cache
  | .existsNode addr next, cache =>
      if NodeHash.Present (cache.node.hash addr) then next.alone cache else cache
  | .existsSnap eui next, cache =>
      if ∃ field, (cache.snap.hash eui field).isSome then next.alone cache else cache

namespace NodeProgram

def updateByAddr (addr : LoRaAddr) (field : NodeField) (value : field.Value) : RedisProgram :=
  .send (.hsetNode addr field value) .done

def resetByEui (eui : Eui) (field : NodeField) : RedisProgram :=
  .getNodeEui eui fun addr => .existsNode addr (.send (.hdelNode addr field) .done)

def updateByEui (eui : Eui) (field : NodeField) (value : field.Value) : RedisProgram :=
  .getNodeEui eui fun addr => .existsNode addr (.send (.hsetNode addr field value) .done)

def register (info : NodeInfo) (devEui : Eui) (addr : LoRaAddr) : RedisProgram :=
  .send (.setNodeEui devEui addr) (.send (.writeNode addr info) .done)

def unregister (devEui : Eui) (addr : LoRaAddr) : RedisProgram :=
  .send (.delNodeEui devEui) (.send (.delNode addr) .done)

def updateDownCount (addr : LoRaAddr) : RedisProgram := .send (.hincrbyNode addr) .done

end NodeProgram

namespace GatewayProgram

def register (info : GatewayInfo) (eui : Eui) : RedisProgram := .send (.writeGateway eui info) .done

def unregister (eui : Eui) : RedisProgram := .send (.delGateway eui) .done

def updateActiveTime (eui : Eui) (now : Timestamp) : RedisProgram :=
  .send (.hsetGateway eui .a (some now)) .done

def updateDownload (eui : Eui) (addr : String) : RedisProgram :=
  .send (.hsetGateway eui .down (some addr)) .done

/-- `update_down` of a gateway, whose address may be missing. -/
def updateDown (eui : Eui) (addr : Option String) : RedisProgram :=
  .send (.hsetGateway eui .down addr) .done

end GatewayProgram

namespace SnapProgram

def updateByEui (eui : Eui) (field : SnapField) (value : field.Value) : RedisProgram :=
  .existsSnap eui (.send (.hsetSnap eui field value) .done)

def register (info : SnapDeviceInfo) (eui : Eui) : RedisProgram := .send (.writeSnap eui info) .done

def unregister (eui : Eui) : RedisProgram := .send (.delSnap eui) .done

def updateActiveTime (eui : Eui) (timestamp : Timestamp) : RedisProgram :=
  .send (.hsetSnap eui .active (some timestamp)) .done

def updateDown (eui : Eui) (down : String) : RedisProgram :=
  .send (.hsetSnap eui .down (some down)) .done

def updateFreq (eui : Eui) (freq : F32) : RedisProgram :=
  .send (.hsetSnap eui .freq (some freq)) .done

end SnapProgram

inductive RedisOperation where
  | nodeUpdateByAddr (addr : LoRaAddr) (field : NodeField) (value : field.Value)
  | nodeResetByEui (eui : Eui) (field : NodeField)
  | nodeUpdateByEui (eui : Eui) (field : NodeField) (value : field.Value)
  | nodeRegister (info : NodeInfo) (devEui : Eui) (addr : LoRaAddr)
  | nodeUnregister (devEui : Eui) (addr : LoRaAddr)
  | nodeUpdateDownCount (addr : LoRaAddr)
  | gatewayRegister (info : GatewayInfo) (eui : Eui)
  | gatewayUnregister (eui : Eui)
  | gatewayUpdateActiveTime (eui : Eui) (now : Timestamp)
  | gatewayUpdateDownload (eui : Eui) (addr : String)
  | gatewayUpdateDown (eui : Eui) (addr : Option String)
  | snapUpdateByEui (eui : Eui) (field : SnapField) (value : field.Value)
  | snapRegister (info : SnapDeviceInfo) (eui : Eui)
  | snapUnregister (eui : Eui)
  | snapUpdateActiveTime (eui : Eui) (timestamp : Timestamp)
  | snapUpdateDown (eui : Eui) (down : String)
  | snapUpdateFreq (eui : Eui) (freq : F32)

def RedisOperation.program : RedisOperation → RedisProgram
  | .nodeUpdateByAddr addr field value => NodeProgram.updateByAddr addr field value
  | .nodeResetByEui eui field => NodeProgram.resetByEui eui field
  | .nodeUpdateByEui eui field value => NodeProgram.updateByEui eui field value
  | .nodeRegister info devEui addr => NodeProgram.register info devEui addr
  | .nodeUnregister devEui addr => NodeProgram.unregister devEui addr
  | .nodeUpdateDownCount addr => NodeProgram.updateDownCount addr
  | .gatewayRegister info eui => GatewayProgram.register info eui
  | .gatewayUnregister eui => GatewayProgram.unregister eui
  | .gatewayUpdateActiveTime eui now => GatewayProgram.updateActiveTime eui now
  | .gatewayUpdateDownload eui addr => GatewayProgram.updateDownload eui addr
  | .gatewayUpdateDown eui addr => GatewayProgram.updateDown eui addr
  | .snapUpdateByEui eui field value => SnapProgram.updateByEui eui field value
  | .snapRegister info eui => SnapProgram.register info eui
  | .snapUnregister eui => SnapProgram.unregister eui
  | .snapUpdateActiveTime eui timestamp => SnapProgram.updateActiveTime eui timestamp
  | .snapUpdateDown eui down => SnapProgram.updateDown eui down
  | .snapUpdateFreq eui freq => SnapProgram.updateFreq eui freq

/-- The cache, and what each client has begun and not finished. -/
structure RedisState where
  cache : DeviceCache
  clients : Nat → RedisProgram

inductive RedisEvent where
  | start (client : Nat) (operation : RedisOperation)
  | step (client : Nat)

def RedisState.initial : RedisState := { cache := DeviceCache.empty, clients := fun _ => .done }

/-- A client starts an operation once it has finished the one before. -/
def redisStep (state : RedisState) : RedisEvent → RedisState
  | .start client operation =>
      match state.clients client with
      | .done =>
          { state with clients := Function.update state.clients client operation.program }
      | _ => state
  | .step client =>
      { cache := ((state.clients client).step state.cache).1
        clients := Function.update state.clients client
          ((state.clients client).step state.cache).2 }

namespace NodeProgram

variable (cache : DeviceCache)

/-! Alone, the operations are the functions on the store. -/

/-- On the stored nodes, an `HSET` is the update of one field. -/
theorem store_hset (addr : LoRaAddr) (field : NodeField) (value : field.Value) :
    ((RedisCommand.hsetNode addr field value).apply cache).store =
      NodeInfo.updateByAddr cache.store addr field value := by
  rw [RedisCommand.apply, NodeInfo.updateByAddr, NodeHash.set]
  cases hArg : field.codec.toArgs value with
  | some arg =>
      rw [hset_some cache.node addr hArg]
      rfl
  | none =>
      rw [hset_none cache.node addr hArg, NodeStore.setHash, Function.update_eq_self]

/-- Run without interruption, the update by address sets the field. -/
theorem alone_updateByAddr (addr : LoRaAddr) (field : NodeField) (value : field.Value) :
    ((updateByAddr addr field value).alone cache).store =
      NodeInfo.updateByAddr cache.store addr field value := store_hset cache addr field value

/-- A command on the hash that an EUI leads to, if that exists. -/
theorem alone_byEui (eui : Eui) {command : LoRaAddr → RedisCommand}
    {change : LoRaAddr → NodeStore}
    (hChange : ∀ addr, ((command addr).apply cache).store = change addr) :
    ((RedisProgram.getNodeEui eui fun addr =>
        .existsNode addr (.send (command addr) .done)).alone cache).store =
      match cache.store.nodeEui eui with
      | none => cache.store
      | some addr => if (cache.store.node addr).Present then change addr else cache.store := by
  have hEui : cache.store.nodeEui eui = cache.nodeEui eui := rfl
  rw [RedisProgram.alone, hEui]
  cases cache.nodeEui eui with
  | none => rfl
  | some addr =>
      have hHash : cache.store.node addr = cache.node.hash addr := rfl
      dsimp only
      rw [RedisProgram.alone, hHash]
      split_ifs with hPresent
      · exact hChange addr
      · rfl

/-- Run without interruption, the reset by identifier removes the field. -/
theorem alone_resetByEui (eui : Eui) (field : NodeField) :
    ((resetByEui eui field).alone cache).store = NodeInfo.resetByEui cache.store eui field :=
  alone_byEui cache eui fun _ => rfl

/-- Run without interruption, the update by identifier sets the field. -/
theorem alone_updateByEui (eui : Eui) (field : NodeField) (value : field.Value) :
    ((updateByEui eui field value).alone cache).store =
      NodeInfo.updateByEui cache.store eui field value :=
  alone_byEui cache eui fun addr => store_hset cache addr field value

/-- Run without interruption, the registration writes the whole record. -/
theorem alone_register (info : NodeInfo) (devEui : Eui) (addr : LoRaAddr) :
    ((register info devEui addr).alone cache).store =
      NodeInfo.register cache.store info devEui addr := rfl

/-- Run without interruption, the removal deletes the record. -/
theorem alone_unregister (devEui : Eui) (addr : LoRaAddr) :
    ((unregister devEui addr).alone cache).store =
      NodeInfo.unregister cache.store devEui addr := rfl

end NodeProgram

end SnapEmu.Device
