import SnapEmu.Server.DeviceOrder
import SnapEmu.Server.OnlineTime

/-! The devices of a group in a response, and the counts beside them. -/
namespace SnapEmu.Server

open Device Management Semantics User Calculation DeviceService DeviceOrderService

variable {δ : Type}

structure DeviceResp (δ : Type) where
  id : Option Id
  eui : Option Eui
  name : Option String
  blueName : Option String
  online : Option Bool
  battery : Option Int16
  data : Option δ
  charge : Option Bool
  description : Option String
  deviceType : Option DeviceType
  activeTime : Option Timestamp
  productId : Option Id
  productUrl : Option String

structure DeviceGroupResp (δ : Type) where
  id : Option Id
  name : Option String
  deviceCount : Option Nat
  onlineDeviceCount : Option Nat
  nodeCount : Option Nat
  gatewayCount : Option Nat
  defaultGroup : Option Bool
  offset : Option Nat
  description : Option String
  createTime : Option Timestamp
  devices : Option (List (DeviceResp δ))

structure SnapProductInfoModel where
  id : Id
  image : String

/-- The product of a device, or else the first of all. -/
def ProductNameCache.getById (products : Id → Option SnapProductInfoModel)
    (productId : Option Id) : Option SnapProductInfoModel :=
  match productId with
  | some id =>
      match products id with
      | some product => some product
      | none => products ⟨1⟩
  | none => products ⟨1⟩

/-- A map collected from rows; the last row of a key stays. -/
def collected {α : Type} (key : α → Id) (rows : List α) (id : Id) : Option α :=
  rows.reverse.find? fun row => key row = id

namespace DeviceService

def queryAll (world : World) (userId : Id) : List DevicesModel :=
  (queryAllWithAuth world userId).map fun found => found.device

def funcBluetooth : String := "blue"

def queryAllDeviceFunctions (world : World) (devices : List Id) : List DeviceFunctionModel :=
  world.rows.functions.filter fun row => row.device ∈ devices

end DeviceService

def LoRaNodeService.getAllLoraNode (world : World) (devices : List Id) :
    List DeviceLoraNodeModel :=
  world.rows.loraNodes.filter fun row => row.deviceId ∈ devices

def SnapDeviceService.getAll (world : World) (devices : List Id) : List SnapDeviceModel :=
  world.rows.snaps.filter fun row => row.deviceId ∈ devices

/-- The devices of a type. -/
def ofType (deviceType : DeviceType) (devices : List DevicesModel) : List DevicesModel :=
  devices.filter fun device => device.deviceType = deviceType

def deviceIds (devices : List DevicesModel) : List Id := devices.map fun device => device.id

/-- What the database, the clock and the service of last data answer during a
request. The clock is read again for each LoRa node. -/
structure SummaryReads (δ : Type) (world : World) (userId group : Id) where
  links : List DeviceMapGroupModel
  linksHeld : links.Perm (inGroup group world.rows.links)
  samples : List DeviceDataModel
  samplesLast : LastTwo world.rows.data (deviceIds (ofType .LoRaNode (queryAll world userId)))
    samples
  lastData : Except ApiError (Id → Option δ)
  products : Id → Option SnapProductInfoModel
  now : Timestamp
  nowAt : Id → Timestamp

section

variable {world : World} {userId group : Id} (reads : SummaryReads δ world userId group)

/-- What the entries of all types have in common. -/
def baseResp (device : DevicesModel) (online : Bool) : DeviceResp δ where
  id := some device.id
  eui := some device.eui
  name := some device.name
  blueName := none
  online := some online
  battery := none
  data := none
  charge := none
  description := some device.description
  deviceType := some device.deviceType
  activeTime := device.activeTime
  productId := (ProductNameCache.getById reads.products device.productId).map (·.id)
  productUrl := (ProductNameCache.getById reads.products device.productId).map (·.image)

/-- The names that the devices of the user have for bluetooth. -/
def blueFunction (world : World) (userId device : Id) : Option String :=
  (collected (fun row => row.device) ((queryAllDeviceFunctions world
    (deviceIds (queryAll world userId))).filter fun row => row.funcName = funcBluetooth)
      device).map fun row => row.funcValue

def snapRow (world : World) (userId device : Id) : Option SnapDeviceModel :=
  collected (fun row => row.deviceId)
    (SnapDeviceService.getAll world (deviceIds (ofType .Snap (queryAll world userId)))) device

def nodeRow (world : World) (userId device : Id) : Option DeviceLoraNodeModel :=
  collected (fun row => row.deviceId)
    (LoRaNodeService.getAllLoraNode world (deviceIds (ofType .LoRaNode (queryAll world userId))))
      device

/-- A LoRa node counts as online if it has been active for less than the time
between its last two samples. -/
def countOnline (checks : Bool) (device : DevicesModel) (now : UInt64)
    (onlineTime : Option UInt64) : Calculation Stop Nat :=
  match device.activeTime with
  | none => return 0
  | some active => do
      let time ← sub checks .overflow now (timestampMillis active)
      match onlineTime with
      | some onlineTime => return if time < onlineTime then 1 else 0
      | none => return 0

def redisResult {α : Type} (result : Except RedisError α) : Calculation Stop α :=
  ofResult (result.mapError fun error => .failed (redisError error))

/-- The entry of a device, and by how much it raises the number of devices that
are online. A device of a type with rows of its own needs one. -/
def entryOf (checks : Bool) (onlineTime : Id → Option UInt64) (lastData : Id → Option δ)
    (device : DevicesModel) : Calculation Stop (Option (DeviceResp δ × Nat)) :=
  let nowTime := timestampMillis reads.now
  match device.deviceType with
  | .Snap =>
      match snapRow world userId device.id with
      | none => return none
      | some node => do
          let online ← cmpPeriod checks device.period nowTime device.activeTime
          return some ({ baseResp reads device online with
            blueName := blueFunction world userId device.id
            charge := some node.charge
            battery := node.battery
            data := lastData device.id }, 0)
  | .MQTT => do
      let online ← cmpPeriod checks device.period nowTime device.activeTime
      return some ({ baseResp reads device online with
        blueName := blueFunction world userId device.id }, 0)
  | .LoRaNode =>
      match nodeRow world userId device.id with
      | none => return none
      | some node => do
          let more ← countOnline checks device (timestampMillis (reads.nowAt device.id))
            (onlineTime device.id)
          let online ← cmpPeriod checks device.period nowTime device.activeTime
          let charge ← redisResult (NodeInfo.loadCharge world.cache.nodes node.devAddr)
          let battery ← redisResult (NodeInfo.loadBattery world.cache.nodes node.devAddr)
          return some ({ baseResp reads device online with
            blueName := blueFunction world userId device.id
            charge := charge
            battery := battery
            data := lastData device.id }, more)
  | .LoRaGate => do
      let online ← cmpPeriod checks device.period nowTime device.activeTime
      return some (baseResp reads device online, 0)

end

/-- The devices that have not been listed yet, the entries, and how many of
them are online. -/
structure Listing (δ : Type) where
  known : Id → Option DevicesModel
  v : List (DeviceResp δ)
  onlineDeviceCount : Nat

/-- A device of the group is taken from those that are known. -/
def listOne (entry : DevicesModel → Calculation Stop (Option (DeviceResp δ × Nat)))
    (listing : Listing δ) (order : DeviceMapGroupModel) : Calculation Stop (Listing δ) :=
  match listing.known order.deviceId with
  | none => return listing
  | some device => do
      let found ← entry device
      return {
        known := Function.update listing.known order.deviceId none
        v := listing.v ++ (found.map Prod.fst).toList
        onlineDeviceCount := listing.onlineDeviceCount + (found.map Prod.snd).getD 0 }

/-- The response for a group, with the counts of all devices of the user. -/
def groupResp (group : DeviceGroupModel) (orderDevice : List DevicesModel) (listing : Listing δ) :
    DeviceGroupResp δ where
  id := some group.id
  name := some group.name
  deviceCount := some listing.v.length
  onlineDeviceCount := some listing.onlineDeviceCount
  nodeCount := some (ofType .LoRaNode orderDevice).length
  gatewayCount := some (ofType .LoRaGate orderDevice).length
  defaultGroup := some group.defaultGroup
  offset := some 0
  description := some group.description
  createTime := none
  devices := some listing.v

def DeviceGroupService.selectOne (checks : Bool) (world : World) (userId : Id)
    (group : DeviceGroupModel) (reads : SummaryReads δ world userId group.id) :
    Calculation Stop (DeviceGroupResp δ) := do
  let orderDevice := queryAll world userId
  let onlineTime ←
    queryDeviceOnlineWithIds checks (deviceIds (ofType .LoRaNode orderDevice)) reads.samples
  let lastData ← ofResult (reads.lastData.mapError Stop.failed)
  let listing ← (deviceOrderGroup reads.links).foldlM
    (listOne (entryOf reads checks onlineTime lastData))
    ⟨collected (fun device => device.id) orderDevice, [], 0⟩
  return groupResp group orderDevice listing

/-- The entries of a type. -/
def entriesOf (deviceType : DeviceType) (devices : List (DeviceResp δ)) : Nat :=
  devices.countP fun device => device.deviceType = some deviceType

/-- The counts of a response are those of its entries. -/
structure CountsEntries (response : DeviceGroupResp δ) (devices : List (DeviceResp δ)) : Prop where
  entries : response.devices = some devices
  deviceCount : response.deviceCount = some devices.length
  nodeCount : response.nodeCount = some (entriesOf .LoRaNode devices)
  gatewayCount : response.gatewayCount = some (entriesOf .LoRaGate devices)
  onlineDeviceCount : response.onlineDeviceCount =
    some (devices.countP fun device => device.online = some true)

/-- No subtraction underflows, and a response counts its entries. -/
structure Agrees (summary : Calculation Stop (DeviceGroupResp δ)) : Prop where
  subtracts : summary.underflowed = false
  counts : ∀ response, summary.result = .ok response → ∃ devices, CountsEntries response devices

/-! When the counts agree, in terms of what the request reads. -/

/-- The devices in the order of the links to them, each once. -/
def taken (known : Id → Option DevicesModel) : List DeviceMapGroupModel → List DevicesModel
  | [] => []
  | order :: orders =>
      match known order.deviceId with
      | none => taken known orders
      | some device => device :: taken (Function.update known order.deviceId none) orders

section

variable {world : World} {userId group : Id} (reads : SummaryReads δ world userId group)

/-- A Snap device and a LoRa node have a row of their own. -/
def hasRow (world : World) (userId : Id) (device : DevicesModel) : Bool :=
  match device.deviceType with
  | .Snap => (snapRow world userId device.id).isSome
  | .LoRaNode => (nodeRow world userId device.id).isSome
  | .MQTT | .LoRaGate => true

/-- The devices of which the response has an entry. -/
def listed : List DevicesModel :=
  (taken (collected (fun device => device.id) (queryAll world userId))
    (deviceOrderGroup reads.links)).filter (hasRow world userId)

/-- A device has not been active after the readings of the clock. -/
def Punctual (device : DevicesModel) : Prop :=
  ∀ active, device.activeTime = some active →
    timestampMillis active ≤ timestampMillis reads.now ∧
      (device.deviceType = .LoRaNode →
        timestampMillis active ≤ timestampMillis (reads.nowAt device.id))

/-- An entry of the device fails, but by no subtraction: the product with a
negative period overflows, in a build with overflow checks, or the charge or the
battery cannot be read. -/
def Blocked (checks : Bool) (world : World) (userId : Id) (device : DevicesModel) : Prop :=
  checks = true ∧ device.activeTime ≠ none ∧ device.period < 0 ∨
    ∃ node error, device.deviceType = .LoRaNode ∧ nodeRow world userId device.id = some node ∧
      (NodeInfo.loadCharge world.cache.nodes node.devAddr = .error error ∨
        NodeInfo.loadBattery world.cache.nodes node.devAddr = .error error)

/-- The devices are punctual up to the first of which the entry fails. -/
def InTime (checks : Bool) : List DevicesModel → Prop
  | [] => True
  | device :: devices =>
      Punctual reads device ∧ (Blocked checks world userId device ∨ InTime checks devices)

/-- Online by the time since the device was active, against its period. -/
def byPeriod (device : DevicesModel) : Bool :=
  match device.activeTime with
  | none => false
  | some active => timestampMillis reads.now - timestampMillis active <
      device.period.toInt64.toUInt64 * 2000

/-- Online by the time since the LoRa node was active, against the time between
its last two samples. -/
def bySamples (device : DevicesModel) : Bool :=
  match device.deviceType, device.activeTime, sampleTime device.id reads.samples with
  | .LoRaNode, some active, some time =>
      timestampMillis (reads.nowAt device.id) - timestampMillis active < time
  | _, _, _ => false

/-- Each device of the type that the user may see is in the group, has the row
that its type needs, and has one authority of the user. -/
structure WholeType (deviceType : DeviceType) : Prop where
  once : (deviceIds (ofType deviceType (queryAll world userId))).Nodup
  linked : ∀ device ∈ ofType deviceType (queryAll world userId),
    (∃ link ∈ reads.links, link.deviceId = device.id) ∧ hasRow world userId device = true

/-- The neighbours among the samples come newest first, no device is active
after the clock, all LoRa nodes and gateways of the user are in the group, and
the two rules for devices that are online err as often in one direction as in
the other. -/
structure Coincides (checks : Bool) : Prop where
  samples : NewestFirst reads.samples
  inTime : (∃ found, reads.lastData = .ok found) → InTime reads checks (listed reads)
  whole : (∃ found, reads.lastData = .ok found) →
    (∀ device ∈ listed reads, ¬Blocked checks world userId device) →
      WholeType reads .LoRaNode ∧ WholeType reads .LoRaGate
  online : (∃ found, reads.lastData = .ok found) →
    (∀ device ∈ listed reads, ¬Blocked checks world userId device) →
      ((listed reads).countP fun device =>
          bySamples reads device && !byPeriod reads device) =
        (listed reads).countP fun device =>
          byPeriod reads device && !bySamples reads device

/-! One entry. -/

variable {reads} {device : DevicesModel} {checks : Bool}

/-- The product of a period fits into 64 bits exactly if the period is not negative. -/
theorem product_lt_iff (period : Int32) :
    period.toInt64.toUInt64.toNat * (2000 : UInt64).toNat < 2 ^ 64 ↔ ¬period < 0 := by
  have hInt : period.toInt64.toInt = period.toInt := Int32.toInt_toInt64 period
  have hLow := period.le_toInt
  have hHigh := period.toInt_lt
  have hNat : (period.toInt64.toUInt64.toNat : Int) = period.toInt % 2 ^ 64 := by
    rw [← hInt]
    change (period.toInt64.toBitVec.toNat : Int) =
      period.toInt64.toBitVec.toInt % ((2 ^ 64 : Nat) : Int)
    rw [BitVec.toInt_eq_toNat_bmod, Int.bmod_emod]
    exact (Int.emod_eq_of_lt (Int.natCast_nonneg _)
      (Int.ofNat_lt.mpr period.toInt64.toBitVec.isLt)).symm
  have hFactor : (2000 : UInt64).toNat = 2000 := rfl
  rw [Int32.lt_iff_toInt_lt, hFactor]
  have hZero : (0 : Int32).toInt = 0 := rfl
  omega

/-- The period rule: a subtraction that underflows, a product that overflows,
or an answer. -/
theorem cmpPeriod_cases (period : Int32) (now : UInt64) (active : Option Timestamp) :
    ((∃ time, active = some time ∧ ¬timestampMillis time ≤ now) ∧
      (cmpPeriod checks period now active).underflowed = true) ∨
    (∀ time, active = some time → timestampMillis time ≤ now) ∧
      ((checks = true ∧ active ≠ none ∧ period < 0) ∧
          cmpPeriod checks period now active = ofResult (.error .overflow) ∨
        ¬(checks = true ∧ active ≠ none ∧ period < 0) ∧
          cmpPeriod checks period now active = pure (match active with
            | none => false
            | some time => now - timestampMillis time < period.toInt64.toUInt64 * 2000)) := by
  cases active with
  | none => exact .inr ⟨by simp, .inr ⟨by simp, rfl⟩⟩
  | some time =>
      unfold cmpPeriod
      dsimp only
      by_cases hTime : timestampMillis time ≤ now
      · rw [sub_of_le hTime, value_bind]
        refine .inr ⟨fun other hOther => Option.some.inj hOther ▸ hTime, ?_⟩
        by_cases hBoth : checks = true ∧ period < 0
        · have hProduct := Nat.not_lt.mp fun hLess => (product_lt_iff period).mp hLess hBoth.2
          rw [mul_of_overflow hBoth.1 hProduct, error_bind]
          exact .inl ⟨⟨hBoth.1, Option.some_ne_none time, hBoth.2⟩, rfl⟩
        · rw [mul_of_fits fun hOverflow => hBoth ⟨hOverflow.1, ?_⟩, value_bind]
          · exact .inr ⟨fun h => hBoth ⟨h.1, h.2.2⟩, rfl⟩
          · by_contra hPeriod
            exact Nat.not_lt.mpr hOverflow.2 ((product_lt_iff period).mpr hPeriod)
      · exact .inl ⟨⟨time, rfl, hTime⟩, underflowed_bind (underflowed_sub hTime) _⟩

/-- What the entry of a device can be. -/
inductive EntryResult (checks : Bool) (reads : SummaryReads δ world userId group)
    (device : DevicesModel) : Calculation Stop (Option (DeviceResp δ × Nat)) → Prop where
  | hidden (hRow : hasRow world userId device = false) :
      EntryResult checks reads device (pure none)
  | late (hRow : hasRow world userId device = true) (hLate : ¬Punctual reads device)
      {calculation : Calculation Stop (Option (DeviceResp δ × Nat))}
      (hUnderflow : calculation.underflowed = true) :
      EntryResult checks reads device calculation
  | blocked (hRow : hasRow world userId device = true) (hPunctual : Punctual reads device)
      (hBlocked : Blocked checks world userId device) (stop : Stop) :
      EntryResult checks reads device (ofResult (.error stop))
  | shown (hRow : hasRow world userId device = true) (hPunctual : Punctual reads device)
      (hFree : ¬Blocked checks world userId device) {entry : DeviceResp δ}
      (hType : entry.deviceType = some device.deviceType)
      (hOnline : entry.online = some (byPeriod reads device)) :
      EntryResult checks reads device
        (pure (some (entry, if bySamples reads device then 1 else 0)))

/-- The entry of a device that is no LoRa node. -/
theorem entryResult_of_period (hType : device.deviceType ≠ .LoRaNode)
    (hRow : hasRow world userId device = true) {entry : Bool → DeviceResp δ}
    (hEntryType : ∀ online, (entry online).deviceType = some device.deviceType)
    (hEntryOnline : ∀ online, (entry online).online = some online) :
    EntryResult checks reads device (do
      let online ← cmpPeriod checks device.period (timestampMillis reads.now) device.activeTime
      return some (entry online, 0)) := by
  have hBlocked : Blocked checks world userId device ↔
      checks = true ∧ device.activeTime ≠ none ∧ device.period < 0 := by
    refine ⟨fun h => h.resolve_right fun hNode => ?_, .inl⟩
    obtain ⟨node, error, hLora, _⟩ := hNode
    exact hType hLora
  have hSamples : bySamples reads device = false := by
    unfold bySamples
    cases hDevice : device.deviceType with
    | LoRaNode => exact absurd hDevice hType
    | _ => rfl
  rcases cmpPeriod_cases device.period (timestampMillis reads.now) device.activeTime with
    ⟨⟨time, hActive, hLate⟩, hResult⟩ | ⟨hPunctual, hRest⟩
  · exact .late hRow (fun h => hLate (h time hActive).1) (underflowed_bind hResult _)
  · have hPunctual' : Punctual reads device := fun active hActive =>
      ⟨hPunctual active hActive, fun hLora => absurd hLora hType⟩
    rcases hRest with ⟨hOverflow, hResult⟩ | ⟨hFree, hResult⟩
    · rw [hResult, error_bind]
      exact .blocked hRow hPunctual' (hBlocked.mpr hOverflow) _
    · rw [hResult, value_bind]
      have hShown := EntryResult.shown hRow hPunctual' (fun h => hFree (hBlocked.mp h))
        (hEntryType _) (hEntryOnline (byPeriod reads device))
      rw [hSamples] at hShown
      exact hShown

/-- A command of the cache gives a value or ends the request. -/
theorem redisResult_cases {α : Type} (result : Except RedisError α) :
    (∃ value, result = .ok value ∧ redisResult result = pure value) ∨
      ∃ error, result = .error error ∧
        redisResult result = ofResult (.error (.failed (redisError error))) := by
  cases result with
  | ok value => exact .inl ⟨value, rfl, rfl⟩
  | error error => exact .inr ⟨error, rfl, rfl⟩

/-- Whether a LoRa node counts. -/
theorem countOnline_cases (reads : SummaryReads δ world userId group)
    (hType : device.deviceType = .LoRaNode) :
    ((∃ active, device.activeTime = some active ∧
        ¬timestampMillis active ≤ timestampMillis (reads.nowAt device.id)) ∧
      (countOnline checks device (timestampMillis (reads.nowAt device.id))
        (sampleTime device.id reads.samples)).underflowed = true) ∨
    (∀ active, device.activeTime = some active →
        timestampMillis active ≤ timestampMillis (reads.nowAt device.id)) ∧
      countOnline checks device (timestampMillis (reads.nowAt device.id))
        (sampleTime device.id reads.samples) = pure (if bySamples reads device then 1 else 0) := by
  unfold countOnline bySamples
  rw [hType]
  cases hActive : device.activeTime with
  | none => exact .inr ⟨by simp, rfl⟩
  | some active =>
      dsimp only
      by_cases hTime : timestampMillis active ≤ timestampMillis (reads.nowAt device.id)
      · rw [sub_of_le hTime, value_bind]
        refine .inr ⟨fun other hOther => Option.some.inj hOther ▸ hTime, ?_⟩
        cases sampleTime device.id reads.samples with
        | none => rfl
        | some time =>
            dsimp only
            by_cases hLess :
                timestampMillis (reads.nowAt device.id) - timestampMillis active < time
            · rw [if_pos hLess, if_pos (decide_eq_true hLess)]
            · rw [if_neg hLess, if_neg (by rwa [decide_eq_true_eq])]
      · exact .inl ⟨⟨active, rfl, hTime⟩, underflowed_bind (underflowed_sub hTime) _⟩

/-- The entry of a node, once its row is found. -/
theorem entryResult_of_node {node : DeviceLoraNodeModel} (hType : device.deviceType = .LoRaNode)
    (hNode : nodeRow world userId device.id = some node)
    {entry : Bool → Option Bool → Option Int16 → DeviceResp δ}
    (hEntryType : ∀ online charge battery,
      (entry online charge battery).deviceType = some device.deviceType)
    (hEntryOnline : ∀ online charge battery,
      (entry online charge battery).online = some online) :
    EntryResult checks reads device (do
      let more ← countOnline checks device (timestampMillis (reads.nowAt device.id))
        (sampleTime device.id reads.samples)
      let online ← cmpPeriod checks device.period (timestampMillis reads.now) device.activeTime
      let charge ← redisResult (NodeInfo.loadCharge world.cache.nodes node.devAddr)
      let battery ← redisResult (NodeInfo.loadBattery world.cache.nodes node.devAddr)
      return some (entry online charge battery, more)) := by
  have hRow : hasRow world userId device = true := by
    rw [hasRow, hType, hNode]
    rfl
  rcases countOnline_cases reads hType with
    ⟨⟨active, hActive, hLate⟩, hCount⟩ | ⟨hNowAt, hCount⟩
  · refine .late hRow (fun h => hLate ((h active hActive).2 hType)) ?_
    exact underflowed_bind hCount _
  rw [hCount, value_bind]
  rcases cmpPeriod_cases device.period (timestampMillis reads.now) device.activeTime with
    ⟨⟨active, hActive, hLate⟩, hResult⟩ | ⟨hNow, hRest⟩
  · exact .late hRow (fun h => hLate (h active hActive).1) (underflowed_bind hResult _)
  have hPunctual : Punctual reads device := fun active hActive =>
    ⟨hNow active hActive, fun _ => hNowAt active hActive⟩
  rcases hRest with ⟨hOverflow, hResult⟩ | ⟨hFree, hResult⟩
  · rw [hResult, error_bind]
    exact .blocked hRow hPunctual (.inl hOverflow) _
  rw [hResult, value_bind]
  rcases redisResult_cases (NodeInfo.loadCharge world.cache.nodes node.devAddr) with
    ⟨charge, hCharge, hRead⟩ | ⟨error, hCharge, hRead⟩
  · rcases redisResult_cases (NodeInfo.loadBattery world.cache.nodes node.devAddr) with
      ⟨battery, hBattery, hSecond⟩ | ⟨error, hBattery, hSecond⟩
    · rw [hRead, hSecond, value_bind, value_bind]
      refine .shown hRow hPunctual (fun hBlocked => ?_) (hEntryType _ charge battery)
        (hEntryOnline (byPeriod reads device) charge battery)
      rcases hBlocked with hOverflow | ⟨other, error, _, hOther, hUnread⟩
      · exact hFree hOverflow
      · obtain rfl : node = other := Option.some.inj (hNode.symm.trans hOther)
        rw [hCharge, hBattery] at hUnread
        simp at hUnread
    · rw [hRead, hSecond, value_bind, error_bind]
      exact .blocked hRow hPunctual (.inr ⟨node, error, hType, hNode, .inr hBattery⟩) _
  · rw [hRead, error_bind]
    exact .blocked hRow hPunctual (.inr ⟨node, error, hType, hNode, .inl hCharge⟩) _

/-- The entry of a device is made, skipped or ends the request. -/
theorem entryOf_result {onlineTime : Id → Option UInt64}
    (hTime : ∀ id, onlineTime id = sampleTime id reads.samples) (lastData : Id → Option δ)
    (device : DevicesModel) :
    EntryResult checks reads device (entryOf reads checks onlineTime lastData device) := by
  unfold entryOf
  cases hType : device.deviceType with
  | Snap =>
      dsimp only
      cases hSnap : snapRow world userId device.id with
      | none =>
          refine .hidden ?_
          rw [hasRow, hType, hSnap]
          rfl
      | some node =>
          refine entryResult_of_period (by simp [hType]) ?_ (fun _ => rfl) fun _ => rfl
          rw [hasRow, hType, hSnap]
          rfl
  | MQTT =>
      refine entryResult_of_period (by simp [hType]) ?_ (fun _ => rfl) fun _ => rfl
      rw [hasRow, hType]
  | LoRaNode =>
      dsimp only
      cases hNode : nodeRow world userId device.id with
      | none =>
          refine .hidden ?_
          rw [hasRow, hType, hNode]
          rfl
      | some node =>
          dsimp only
          rw [hTime]
          exact entryResult_of_node hType hNode (fun _ _ _ => rfl) fun _ _ _ => rfl
  | LoRaGate =>
      refine entryResult_of_period (by simp [hType]) ?_ (fun _ => rfl) fun _ => rfl
      rw [hasRow, hType]

/-! The loop over the links. -/

theorem inTime_cons {devices : List DevicesModel} :
    InTime reads checks (device :: devices) ↔
      Punctual reads device ∧
        (Blocked checks world userId device ∨ InTime reads checks devices) :=
  Iff.rfl

/-- How the loop over the devices that are left can end, after some entries. -/
inductive ListingResult (checks : Bool) (reads : SummaryReads δ world userId group)
    (devices : List DevicesModel) (v : List (DeviceResp δ)) (count : Nat) :
    Calculation Stop (Listing δ) → Prop where
  | late (hLate : ¬InTime reads checks devices) {calculation : Calculation Stop (Listing δ)}
      (hUnderflow : calculation.underflowed = true) :
      ListingResult checks reads devices v count calculation
  | blocked (hInTime : InTime reads checks devices)
      (hBlocked : ∃ device ∈ devices, Blocked checks world userId device) (stop : Stop) :
      ListingResult checks reads devices v count (ofResult (.error stop))
  | shown (hInTime : InTime reads checks devices)
      (hFree : ∀ device ∈ devices, ¬Blocked checks world userId device) {after : Listing δ}
      {entries : List (DeviceResp δ)} (hEntries : after.v = v ++ entries)
      (hTypes : entries.map (fun entry => entry.deviceType) =
        devices.map fun device => some device.deviceType)
      (hOnline : entries.map (fun entry => entry.online) =
        devices.map fun device => some (byPeriod reads device))
      (hCount : after.onlineDeviceCount = count + devices.countP (bySamples reads)) :
      ListingResult checks reads devices v count (pure after)

/-- An entry that is shown stands before those of the devices that are left. -/
theorem ListingResult.cons {devices : List DevicesModel} {v : List (DeviceResp δ)} {count : Nat}
    {found : DeviceResp δ} {last : Calculation Stop (Listing δ)} (hPunctual : Punctual reads device)
    (hFree : ¬Blocked checks world userId device)
    (hType : found.deviceType = some device.deviceType)
    (hOnline : found.online = some (byPeriod reads device))
    (h : ListingResult checks reads devices (v ++ [found])
      (count + if bySamples reads device then 1 else 0) last) :
    ListingResult checks reads (device :: devices) v count last := by
  cases h with
  | late hLate hUnderflow =>
      exact .late (fun h => hLate ((inTime_cons.mp h).2.resolve_left hFree)) hUnderflow
  | blocked hInTime hBlocked stop =>
      obtain ⟨other, hOther, hBlock⟩ := hBlocked
      exact .blocked (inTime_cons.mpr ⟨hPunctual, .inr hInTime⟩)
        ⟨other, List.mem_cons_of_mem device hOther, hBlock⟩ stop
  | @shown hInTime hRestFree after entries hEntries hTypes hOnlines hCount =>
      refine .shown (inTime_cons.mpr ⟨hPunctual, .inr hInTime⟩)
        (List.forall_mem_cons.mpr ⟨hFree, hRestFree⟩)
        (hEntries.trans (List.append_assoc v [found] entries)) ?_ ?_ ?_
      · exact congrArg₂ List.cons hType hTypes
      · exact congrArg₂ List.cons hOnline hOnlines
      · rw [hCount, List.countP_cons]
        omega

/-- The list is made of the entries of all devices, or ends with the first that fails.
-/
theorem listAll_result {entry : DevicesModel → Calculation Stop (Option (DeviceResp δ × Nat))}
    (hEntry : ∀ device, EntryResult checks reads device (entry device))
    (orders : List DeviceMapGroupModel) (listing : Listing δ) :
    ListingResult checks reads ((taken listing.known orders).filter (hasRow world userId)) listing.v
      listing.onlineDeviceCount (orders.foldlM (listOne entry) listing) := by
  induction orders generalizing listing with
  | nil =>
      have hInTime : InTime reads checks [] := trivial
      exact .shown hInTime (fun _ h => absurd h List.not_mem_nil) (List.append_nil _).symm rfl rfl
        rfl
  | cons order orders ih =>
      rw [List.foldlM_cons, listOne, taken]
      cases hKnown : listing.known order.deviceId with
      | none =>
          rw [value_bind]
          exact ih listing
      | some device =>
          dsimp only
          have hResult := hEntry device
          generalize entry device = result at hResult ⊢
          cases hResult with
          | hidden hRow =>
              rw [List.filter_cons_of_neg (by rw [hRow]; exact Bool.false_ne_true), value_bind,
                value_bind]
              let next : Listing δ := ⟨Function.update listing.known order.deviceId none,
                listing.v ++ [], listing.onlineDeviceCount⟩
              have hRest := ih next
              rw [show next.v = listing.v from List.append_nil _] at hRest
              exact hRest
          | late hRow hLate hUnderflow =>
              rw [List.filter_cons_of_pos hRow]
              exact .late (fun h => hLate (inTime_cons.mp h).1)
                (underflowed_bind (underflowed_bind hUnderflow _) _)
          | blocked hRow hPunctual hBlocked stop =>
              rw [List.filter_cons_of_pos hRow, error_bind, error_bind]
              exact .blocked (inTime_cons.mpr ⟨hPunctual, .inl hBlocked⟩)
                ⟨device, List.mem_cons_self, hBlocked⟩ stop
          | @shown hRow hPunctual hFree found hType hOnline =>
              rw [List.filter_cons_of_pos hRow, value_bind, value_bind]
              let next : Listing δ := ⟨Function.update listing.known order.deviceId none,
                listing.v ++ [found],
                listing.onlineDeviceCount + if bySamples reads device then 1 else 0⟩
              exact (ih next).cons hPunctual hFree hType hOnline

/-! The devices that are listed. -/

/-- A map of devices by their numbers. -/
def ByNumber (known : Id → Option DevicesModel) : Prop :=
  ∀ id device, known id = some device → device.id = id

variable {known : Id → Option DevicesModel}

/-- A device that is taken is not found again. -/
theorem ByNumber.remove (h : ByNumber known) (removed : Id) :
    ByNumber (Function.update known removed none) := by
  intro id device hDevice
  by_cases hId : id = removed
  · rw [hId, Function.update_self] at hDevice
    cases hDevice
  · rw [Function.update_of_ne hId] at hDevice
    exact h id device hDevice

/-- The devices that are taken are the known ones with an order. -/
theorem mem_taken (h : ByNumber known) (orders : List DeviceMapGroupModel) :
    device ∈ taken known orders ↔
      known device.id = some device ∧ ∃ order ∈ orders, order.deviceId = device.id := by
  induction orders generalizing known with
  | nil => simp [taken]
  | cons order orders ih =>
      rw [taken]
      cases hKnown : known order.deviceId with
      | none =>
          dsimp only
          simp only [ih h, List.mem_cons, exists_eq_or_imp]
          refine and_congr_right fun hDevice => (or_iff_right fun hId => ?_).symm
          rw [hId, hDevice] at hKnown
          cases hKnown
      | some found =>
          have hFound := h _ _ hKnown
          dsimp only
          simp only [List.mem_cons, ih (h.remove _), exists_eq_or_imp]
          by_cases hId : device.id = order.deviceId
          · rw [hId, Function.update_self, hKnown]
            constructor
            · rintro (rfl | ⟨hNone, _⟩)
              · exact ⟨rfl, .inl rfl⟩
              · cases hNone
            · intro hBoth
              exact .inl (Option.some.inj hBoth.1).symm
          · rw [Function.update_of_ne hId]
            constructor
            · rintro (rfl | ⟨hDevice, hOrder⟩)
              · exact absurd hFound hId
              · exact ⟨hDevice, .inr hOrder⟩
            · rintro ⟨hDevice, hEq | hOrder⟩
              · exact absurd hEq.symm hId
              · exact .inr ⟨hDevice, hOrder⟩

/-- No device is taken twice, however many orders it has. -/
theorem taken_nodup (h : ByNumber known) (orders : List DeviceMapGroupModel) :
    (deviceIds (taken known orders)).Nodup := by
  induction orders generalizing known with
  | nil => exact List.nodup_nil
  | cons order orders ih =>
      rw [taken]
      cases hKnown : known order.deviceId with
      | none => exact ih h
      | some found =>
          dsimp only
          refine List.nodup_cons.mpr ⟨fun hMem => ?_, ih (h.remove _)⟩
          obtain ⟨other, hOther, hId⟩ := List.mem_map.mp hMem
          have hHeld := ((mem_taken (h.remove _) orders).mp hOther).1
          have hOrder : other.id = order.deviceId := hId.trans (h _ _ hKnown)
          rw [hOrder, Function.update_self] at hHeld
          cases hHeld

/-- A device of the user is found under its number. -/
theorem queryAll_found (h : device ∈ queryAll world userId) :
    world.findDevice device.id = some device := by
  obtain ⟨found, hFound, rfl⟩ := List.mem_map.mp h
  obtain ⟨auth, _, hAuth⟩ := List.mem_filterMap.mp hFound
  obtain ⟨device, hDevice, rfl⟩ := Option.map_eq_some_iff.mp hAuth
  unfold World.findDevice at hDevice ⊢
  have hId := List.find?_some hDevice
  rw [decide_eq_true_eq] at hId
  rw [hId]
  exact hDevice

/-- The map of the devices of a user. -/
def knownDevices (world : World) (userId : Id) : Id → Option DevicesModel :=
  collected (fun device => device.id) (queryAll world userId)

/-- What is collected under a key is a row with that key. -/
theorem collected_some {α : Type} {key : α → Id} {rows : List α} {id : Id} {row : α}
    (h : collected key rows id = some row) : row ∈ rows ∧ key row = id := by
  unfold collected at h
  have hKey := List.find?_some h
  rw [decide_eq_true_eq] at hKey
  exact ⟨List.mem_reverse.mp (List.mem_of_find?_eq_some h), hKey⟩

theorem knownDevices_byNumber : ByNumber (knownDevices world userId) :=
  fun _ _ hDevice => (collected_some hDevice).2

/-- A device is known exactly if it is one of the user. -/
theorem knownDevices_eq_some :
    knownDevices world userId device.id = some device ↔ device ∈ queryAll world userId := by
  constructor
  · exact fun hDevice => (collected_some hDevice).1
  · intro hDevice
    cases hKnown : knownDevices world userId device.id with
    | none =>
        exact absurd (decide_eq_true rfl)
          (List.find?_eq_none.mp hKnown device (List.mem_reverse.mpr hDevice))
    | some found =>
        obtain ⟨hMem, hId⟩ := collected_some hKnown
        have hFound := queryAll_found hMem
        rw [hId, queryAll_found hDevice] at hFound
        exact hFound.symm

/-- The devices of the list are those of the user that are linked and have a row of
their type. -/
theorem mem_listed :
    device ∈ listed reads ↔ device ∈ queryAll world userId ∧
      (∃ link ∈ reads.links, link.deviceId = device.id) ∧ hasRow world userId device = true := by
  have hOrders : ∀ link, link ∈ deviceOrderGroup reads.links ↔ link ∈ reads.links := fun link =>
    (List.mergeSort_perm reads.links _).mem_iff
  unfold listed
  change device ∈ (taken (knownDevices world userId) _).filter _ ↔ _
  rw [List.mem_filter, mem_taken knownDevices_byNumber, knownDevices_eq_some, and_assoc]
  simp only [hOrders]

theorem listed_nodup : (deviceIds (listed reads)).Nodup :=
  (taken_nodup knownDevices_byNumber _).sublist (List.filter_sublist.map _)

theorem mem_ofType {deviceType : DeviceType} {devices : List DevicesModel} :
    device ∈ ofType deviceType devices ↔ device ∈ devices ∧ device.deviceType = deviceType := by
  rw [ofType, List.mem_filter, decide_eq_true_eq]

/-- As many devices of a type are listed as the user has, exactly if each is
listed, and is there once. -/
theorem length_listed_iff (deviceType : DeviceType) :
    (ofType deviceType (queryAll world userId)).length =
      (ofType deviceType (listed reads)).length ↔ WholeType reads deviceType := by
  have hNodup : (deviceIds (ofType deviceType (listed reads))).Nodup :=
    listed_nodup.sublist (List.filter_sublist.map _)
  constructor
  · intro hLength
    have hSubset :
        ofType deviceType (listed reads) ⊆ ofType deviceType (queryAll world userId) := by
      intro device hDevice
      obtain ⟨hListed, hType⟩ := mem_ofType.mp hDevice
      exact mem_ofType.mpr ⟨(mem_listed.mp hListed).1, hType⟩
    have hPerm := (List.subperm_of_subset (hNodup.of_map _) hSubset).perm_of_length_le hLength.le
    refine ⟨(hPerm.map _).nodup_iff.mp hNodup, fun device hDevice => ?_⟩
    exact (mem_listed.mp (mem_ofType.mp (hPerm.symm.subset hDevice)).1).2
  · intro hWhole
    refine ((List.perm_ext_iff_of_nodup (hWhole.once.of_map _) (hNodup.of_map _)).mpr
      fun device => ?_).length_eq
    constructor
    · intro hDevice
      obtain ⟨hMem, hType⟩ := mem_ofType.mp hDevice
      exact mem_ofType.mpr ⟨mem_listed.mpr ⟨hMem, hWhole.linked device hDevice⟩, hType⟩
    · intro hDevice
      obtain ⟨hListed, hType⟩ := mem_ofType.mp hDevice
      exact mem_ofType.mpr ⟨(mem_listed.mp hListed).1, hType⟩

/-! The counts. -/

/-- Two conditions hold equally often exactly if they fail each other equally
often. -/
theorem countP_eq_iff {α : Type} (items : List α) (first second : α → Bool) :
    items.countP first = items.countP second ↔
      (items.countP fun item => first item && !second item) =
        items.countP fun item => second item && !first item := by
  have hFirst := List.countP_eq_countP_filter_add items first second
  have hSecond := List.countP_eq_countP_filter_add items second first
  simp only [List.countP_filter] at hFirst hSecond
  have hBoth : (items.countP fun item => second item && first item) =
      items.countP fun item => first item && second item :=
    List.countP_congr fun item _ => by rw [Bool.and_comm]
  rw [hBoth] at hSecond
  omega

variable {entries : List (DeviceResp δ)} {devices : List DevicesModel}

/-- The entries of a type are counted as the devices of that type. -/
theorem entriesOf_eq (hTypes : entries.map (fun entry => entry.deviceType) =
      devices.map fun device => some device.deviceType) (deviceType : DeviceType) :
    entriesOf deviceType entries = (ofType deviceType devices).length := by
  have hCount := congrArg (List.countP fun found => found = some deviceType) hTypes
  rw [List.countP_map, List.countP_map] at hCount
  refine hCount.trans ((List.countP_congr fun device _ => ?_).trans List.countP_eq_length_filter)
  simp

/-- The entries that are online are counted as the devices that are. -/
theorem onlineEntries_eq (hOnline : entries.map (fun entry => entry.online) =
      devices.map fun device => some (byPeriod reads device)) :
    (entries.countP fun entry => entry.online = some true) = devices.countP (byPeriod reads) := by
  have hCount := congrArg (List.countP fun found => found = some true) hOnline
  rw [List.countP_map, List.countP_map] at hCount
  refine hCount.trans (List.countP_congr fun device _ => ?_)
  simp

/-- A calculation that underflows does not agree. -/
theorem not_agrees {summary : Calculation Stop (DeviceGroupResp δ)}
    (h : summary.underflowed = true) : ¬Agrees summary := by
  intro hAgrees
  rw [hAgrees.subtracts] at h
  cases h

theorem agrees_error (stop : Stop) :
    Agrees (ofResult (.error stop) : Calculation Stop (DeviceGroupResp δ)) := by
  refine ⟨rfl, fun response hResult => ?_⟩
  cases hResult

/-- A response agrees exactly if its counts are those of some devices. -/
theorem agrees_pure {response : DeviceGroupResp δ} :
    Agrees (pure response : Calculation Stop (DeviceGroupResp δ)) ↔
      ∃ devices, CountsEntries response devices := by
  constructor
  · exact fun h => h.counts response rfl
  · intro hCounts
    refine ⟨rfl, fun other hOther => ?_⟩
    rw [← Except.ok.inj hOther]
    exact hCounts

/-- What a response with all entries has to count. -/
theorem countsEntries_iff (group : DeviceGroupModel) {after : Listing δ}
    (hEntries : after.v = entries)
    (hTypes : entries.map (fun entry => entry.deviceType) =
      (listed reads).map fun device => some device.deviceType)
    (hOnline : entries.map (fun entry => entry.online) =
      (listed reads).map fun device => some (byPeriod reads device))
    (hCount : after.onlineDeviceCount = (listed reads).countP (bySamples reads)) :
    (∃ devices, CountsEntries (groupResp group (queryAll world userId) after) devices) ↔
      (WholeType reads .LoRaNode ∧ WholeType reads .LoRaGate) ∧
        ((listed reads).countP fun device => bySamples reads device && !byPeriod reads device) =
          (listed reads).countP fun device =>
            byPeriod reads device && !bySamples reads device := by
  have hNodes := entriesOf_eq hTypes .LoRaNode
  have hGates := entriesOf_eq hTypes .LoRaGate
  have hFlags := onlineEntries_eq hOnline
  rw [← countP_eq_iff, ← length_listed_iff, ← length_listed_iff, ← hNodes, ← hGates, ← hFlags,
    ← hCount]
  constructor
  · rintro ⟨devices, hCounts⟩
    obtain rfl : entries = devices := hEntries.symm.trans (Option.some.inj hCounts.entries)
    exact ⟨⟨Option.some.inj hCounts.nodeCount, Option.some.inj hCounts.gatewayCount⟩,
      Option.some.inj hCounts.onlineDeviceCount⟩
  · rintro ⟨⟨hNode, hGate⟩, hOnlineCount⟩
    exact ⟨entries, congrArg some hEntries, congrArg some (congrArg List.length hEntries),
      congrArg some hNode, congrArg some hGate, congrArg some hOnlineCount⟩

/-- The summary of a group agrees with its list exactly where the two rules for
devices that are online, the devices of the user and those of the group, and
the orders of samples coincide. -/
theorem summary_agrees_iff (checks : Bool) (group : DeviceGroupModel)
    (reads : SummaryReads δ world userId group.id) :
    Agrees (DeviceGroupService.selectOne checks world userId group reads) ↔
      Coincides reads checks := by
  unfold DeviceGroupService.selectOne
  dsimp only
  rcases queryDeviceOnlineWithIds_cases reads.samplesLast with
    ⟨hNewest, onlineTime, hOnlineTime, hTime⟩ | ⟨hOrder, hUnderflow⟩
  · rw [hOnlineTime, value_bind]
    cases hData : reads.lastData with
    | error error =>
        have hNone : ¬∃ found, reads.lastData = .ok found := by simp [hData]
        refine iff_of_true (agrees_error _) ?_
        exact ⟨hNewest, fun h => absurd h hNone, fun h => absurd h hNone, fun h => absurd h hNone⟩
    | ok lastData =>
        have hSome : ∃ found, reads.lastData = .ok found := ⟨lastData, hData⟩
        have hEntry : ∀ device, EntryResult checks reads device
            (entryOf reads checks onlineTime lastData device) := entryOf_result hTime lastData
        have hList := listAll_result hEntry
          (deviceOrderGroup reads.links) ⟨knownDevices world userId, [], 0⟩
        change ListingResult checks reads (listed reads) [] 0 _ at hList
        rw [Except.mapError, ok_bind]
        change Agrees ((deviceOrderGroup reads.links).foldlM
          (listOne (entryOf reads checks onlineTime lastData))
            ⟨knownDevices world userId, [], 0⟩ >>= fun listing =>
              pure (groupResp group (queryAll world userId) listing)) ↔ _
        generalize (deviceOrderGroup reads.links).foldlM
          (listOne (entryOf reads checks onlineTime lastData))
            ⟨knownDevices world userId, [], 0⟩ = last at hList ⊢
        cases hList with
        | late hLate hLast =>
            refine iff_of_false (not_agrees (underflowed_bind hLast _)) fun h => ?_
            exact hLate (h.inTime hSome)
        | blocked hInTime hBlocked stop =>
            obtain ⟨device, hDevice, hBlock⟩ := hBlocked
            rw [error_bind]
            refine iff_of_true (agrees_error _) ?_
            exact ⟨hNewest, fun _ => hInTime, fun _ h => absurd hBlock (h device hDevice),
              fun _ h => absurd hBlock (h device hDevice)⟩
        | shown hInTime hFree hEntries hTypes hOnline hCount =>
            rw [List.nil_append] at hEntries
            rw [Nat.zero_add] at hCount
            rw [value_bind]
            refine agrees_pure.trans
              ((countsEntries_iff group hEntries hTypes hOnline hCount).trans ?_)
            constructor
            · exact fun h => ⟨hNewest, fun _ => hInTime, fun _ _ => h.1, fun _ _ => h.2⟩
            · exact fun h => ⟨h.whole hSome hFree, h.online hSome hFree⟩
  · exact iff_of_false (not_agrees (underflowed_bind hUnderflow _)) fun h => hOrder h.samples

end

/-- A gateway of a user who has a group without devices. -/
def gatewayAlone : World :=
  { World.empty with
    rows := { Rows.empty with
      devices := [⟨⟨1⟩, ⟨1⟩, "Gateway", "", ⟨1⟩, true, 60, none, none, none, .LoRaGate, none, ⟨0⟩⟩]
      authorities := [⟨⟨1⟩, ⟨1⟩, ⟨1⟩, .User, ⟨1⟩, true, true, true, true, true, ⟨0⟩⟩]
      groups := [⟨⟨1⟩, "Home", "", false, ⟨1⟩, ⟨0⟩⟩] } }

def gatewayReads : SummaryReads Unit gatewayAlone ⟨1⟩ ⟨1⟩ where
  links := []
  linksHeld := .refl _
  samples := []
  samplesLast := ⟨List.nil_subperm, fun _ _ => rfl, fun _ h => absurd h List.not_mem_nil⟩
  lastData := .ok fun _ => none
  products := fun _ => none
  now := ⟨0⟩
  nowAt := fun _ => ⟨0⟩

/-- The group has no gateway, but its gateway count is one. -/
theorem gateway_outside_group_counted :
    ¬∀ (checks : Bool) (δ : Type) (world : World) (userId : Id) (group : DeviceGroupModel)
      (reads : SummaryReads δ world userId group.id),
      Agrees (DeviceGroupService.selectOne checks world userId group reads) := by
  intro h
  have hAgrees := h false Unit gatewayAlone ⟨1⟩ ⟨⟨1⟩, "Home", "", false, ⟨1⟩, ⟨0⟩⟩ gatewayReads
  have hSorted : deviceOrderGroup gatewayReads.links = [] := List.mergeSort_nil
  unfold DeviceGroupService.selectOne at hAgrees
  rw [hSorted] at hAgrees
  obtain ⟨devices, hCounts⟩ := hAgrees.counts _ rfl
  obtain rfl : [] = devices := Option.some.inj hCounts.entries
  have hGateways := Option.some.inj hCounts.gatewayCount
  revert hGateways
  decide

end SnapEmu.Server
