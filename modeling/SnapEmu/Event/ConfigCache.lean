import SnapEmu.Device.Types
import SnapEmu.Semantics.Registry
import SnapEmu.Semantics.Run

/-! Requests to gateways that wait for their answers in one cache, by device
and key. Each access to the cache locks it anew. -/
namespace SnapEmu.Event

open Device Semantics Registry

inductive Kind where
  | config | updateConfig
  deriving DecidableEq

/-- Where a request stands. `checked` remembers whether the device had a map. -/
inductive Phase (Config : Type) where
  | started
  | checked (present : Bool)
  | waiting
  | answered (config : Config)
  | finished (result : Option Config)
  deriving DecidableEq

structure Request (Config : Type) where
  kind : Kind
  device : Id
  key : UInt32
  phase : Phase Config
  timerPending : Bool
  deriving DecidableEq

/-- The cache holds the requests whose senders stand in it. -/
structure CacheState (Config : Type) where
  nextId : UInt32
  configCache : Id → Option (UInt32 → Option Nat)
  poisoned : Bool
  requests : Nat → Option (Request Config)

inductive CacheEvent (Config : Type) where
  | start (request : Nat) (kind : Kind) (device : Id)
  | check (request : Nat)
  | insert (request : Nat)
  | respond (device : Id) (key : UInt32) (config : Config)
  | timer (request : Nat)
  | timeout (request : Nat)
  | complete (request : Nat)
  deriving DecidableEq

variable {Config : Type}

namespace CacheState

def initial : CacheState Config :=
  { nextId := 0, configCache := fun _ => none, poisoned := false, requests := fun _ => none }

def set (state : CacheState Config) (number : Nat) (request : Request Config) :
    CacheState Config :=
  { state with requests := Function.update state.requests number (some request) }

def setMap (state : CacheState Config) (device : Id) (map : Option (UInt32 → Option Nat)) :
    CacheState Config :=
  { state with configCache := Function.update state.configCache device map }

/-- `get_mut(&device_id).and_then(|map| map.remove(&key))`. -/
def remove (state : CacheState Config) (device : Id) (key : UInt32) : CacheState Config :=
  match state.configCache device with
  | none => state
  | some map => state.setMap device (some (Function.update map key none))

end CacheState

def onlyKey (key : UInt32) (number : Nat) : UInt32 → Option Nat :=
  Function.update (fun _ => none) key (some number)

/-- A request is given the next key. -/
def startRequest (state : CacheState Config) (number : Nat) (kind : Kind) (device : Id) :
    CacheState Config :=
  match state.requests number with
  | some _ => state
  | none =>
      { state with nextId := state.nextId + 1 }.set number
        { kind := kind, device := device, key := state.nextId, phase := .started,
          timerPending := false }

def checkDevice (state : CacheState Config) (number : Nat) (request : Request Config) :
    CacheState Config :=
  match request.phase with
  | .started =>
      if state.poisoned then state.set number { request with phase := .finished none }
      else
        state.set number
          { request with phase := .checked (state.configCache request.device).isSome }
  | _ => state

/-- The second lock. The unwrap fails if the map has gone, and poisons the lock. -/
def insertSender (state : CacheState Config) (number : Nat) (request : Request Config) :
    CacheState Config :=
  match request.phase with
  | .checked present =>
      if state.poisoned then state.set number { request with phase := .finished none }
      else if present then
        match state.configCache request.device with
        | none =>
            { state with poisoned := true }.set number { request with phase := .finished none }
        | some map =>
            (state.setMap request.device (some (Function.update map request.key (some number)))).set
              number { request with phase := .waiting, timerPending := true }
      else
        (state.setMap request.device (some (onlyKey request.key number))).set number
          { request with phase := .waiting, timerPending := true }
  | _ => state

/-- The configuration goes to the request, if it still waits. -/
def deliver (state : CacheState Config) (number : Nat) (config : Config) : CacheState Config :=
  match state.requests number with
  | none => state
  | some request =>
      match request.phase with
      | .waiting => state.set number { request with phase := .answered config }
      | _ => state

def respond (state : CacheState Config) (device : Id) (key : UInt32) (config : Config) :
    CacheState Config :=
  if state.poisoned then state
  else match (state.configCache device).bind fun map => map key with
    | none => state
    | some number => deliver (state.remove device key) number config

def fireTimer (state : CacheState Config) (number : Nat) (request : Request Config) :
    CacheState Config :=
  if request.timerPending then
    if state.poisoned then state.set number { request with timerPending := false }
    else (state.remove request.device request.key).set number { request with timerPending := false }
  else state

/-- The wait ends without an answer: its time is over, or its sender was dropped. -/
def timeOut (state : CacheState Config) (number : Nat) (request : Request Config) :
    CacheState Config :=
  match request.phase with
  | .waiting => state.set number { request with phase := .finished none }
  | _ => state

/-- The answer of `config` removes the map of the device. -/
def completeRequest (state : CacheState Config) (number : Nat) (request : Request Config) :
    CacheState Config :=
  match request.phase with
  | .answered config =>
      match request.kind with
      | .updateConfig => state.set number { request with phase := .finished (some config) }
      | .config =>
          if state.poisoned then state.set number { request with phase := .finished none }
          else
            (state.setMap request.device none).set number
              { request with phase := .finished (some config) }
  | _ => state

def onRequest (state : CacheState Config) (number : Nat)
    (act : CacheState Config → Nat → Request Config → CacheState Config) : CacheState Config :=
  match state.requests number with
  | none => state
  | some request => act state number request

def cacheStep (state : CacheState Config) : CacheEvent Config → CacheState Config
  | .start number kind device => startRequest state number kind device
  | .check number => onRequest state number checkDevice
  | .insert number => onRequest state number insertSender
  | .respond device key config => respond state device key config
  | .timer number => onRequest state number fireTimer
  | .timeout number => onRequest state number timeOut
  | .complete number => onRequest state number completeRequest

end SnapEmu.Event
