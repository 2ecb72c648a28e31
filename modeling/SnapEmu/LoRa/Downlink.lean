import SnapEmu.LoRa.Uplink

/-! Downlink messages, the frames built from them, and the queue of messages
that wait for their device. -/
namespace SnapEmu.LoRa

open Device Semantics

structure DownloadData where
  port : UInt8
  upCount : Option UInt32
  bytes : List UInt8
  id : UInt32
  deriving DecidableEq

/-- What goes into the frame creator. The frame on air is a function of it. -/
@[ext] structure DownFrame where
  devAddr : LoRaAddr
  fcnt : UInt32
  fPort : Option UInt8
  data : List UInt8
  nwkSkey : Key
  appSkey : Key
  deriving DecidableEq

namespace RespDataBuilder

def build (node : NodeInfo) (data : List UInt8) (port : Option UInt8) : DownFrame :=
  ⟨node.devAddr, node.downCount, port, data, node.nwkSkey, node.appSkey⟩

def buildWithTask (node : NodeInfo) (down : DownloadData) : DownFrame :=
  build node down.bytes (some down.port)

def buildAck (node : NodeInfo) : DownFrame := build node [] none

end RespDataBuilder

namespace RespDataClassCBuilder

def build (node : NodeInfo) (data : List UInt8) (port : UInt8) : DownFrame :=
  ⟨node.devAddr, node.downCount, some port, data, node.nwkSkey, node.appSkey⟩

def buildWithTask (node : NodeInfo) (task : DownloadData) : DownFrame :=
  build node task.bytes task.port

end RespDataClassCBuilder

/-- `HINCRBY` of the cached down counter; the copy keeps its own. -/
def LoRaNode.updateDownCount (store : NodeStore) (node : LoRaNode) :
    NodeStore × Except RedisError UInt32 :=
  match (store.node node.info.devAddr).incrBy .downCount 1 with
  | .error error => (store, .error error)
  | .ok (hash, count) =>
      (store.setHash node.info.devAddr hash,
        if 0 ≤ count ∧ count < 2 ^ 32 then .ok (UInt32.ofNat count.toNat) else .error .type)

structure DownloadDataWrap where
  data : DownloadData
  downId : Nat
  deriving DecidableEq

/-- The queues by device EUI, where a missing queue is an empty one, and the
next identifier. -/
structure DownloadDataCache where
  data : Eui → List DownloadDataWrap
  counter : Nat

namespace DownloadDataCache

def insert (cache : DownloadDataCache) (eui : Eui) (message : DownloadData) :
    DownloadDataCache × Nat :=
  ({ data := Function.update cache.data eui (cache.data eui ++ [⟨message, cache.counter⟩])
     counter := cache.counter + 1 }, cache.counter)

/-- Whether the message stands at the front. -/
def repetitionTask (cache : DownloadDataCache) (eui : Eui) (counter : Nat) : Bool :=
  match (cache.data eui).head? with
  | some front => front.downId == counter
  | none => false

def pop (cache : DownloadDataCache) (eui : Eui) : DownloadDataCache × Option DownloadData :=
  ({ cache with data := Function.update cache.data eui (cache.data eui).tail },
    (cache.data eui).head?.map DownloadDataWrap.data)

def commit (cache : DownloadDataCache) (eui : Eui) : DownloadDataCache := (cache.pop eui).1

end DownloadDataCache
end SnapEmu.LoRa
