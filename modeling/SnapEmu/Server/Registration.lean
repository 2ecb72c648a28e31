import SnapEmu.Management.IdentityChange
import SnapEmu.Server.Creation

/-! What the creation of a device does before its links and its authority: it
numbers the device and inserts its rows, and the commands for its record come
last. -/
namespace SnapEmu.Server

open Device Management Semantics User Action DeviceService

/-- A creation on its way has not touched the groups, the authorities and the
cache. -/
structure Untouched (world after : World) : Prop where
  groups : after.rows.groups = world.rows.groups
  links : after.rows.links = world.rows.links
  authorities : after.rows.authorities = world.rows.authorities
  group : after.sequences.group = world.sequences.group
  link : after.sequences.link = world.sequences.link
  authority : after.sequences.authority = world.sequences.authority
  device : world.sequences.device ≤ after.sequences.device
  cache : after.cache = world.cache

/-- The row of the device is there, under the next number. -/
structure Prepared (world : World) (id : Id) (after : World) : Prop extends
    Untouched world after where
  number : numbered world.sequences.device = .ok id
  next : after.sequences.device = world.sequences.device + 1
  devices : ∃ row : DevicesModel, row.id = id ∧ after.rows.devices = world.rows.devices ++ [row]

section

variable {world : World}

theorem untouched_refl (world : World) : Untouched world world :=
  ⟨rfl, rfl, rfl, rfl, rfl, rfl, le_refl _, rfl⟩

/-- A check that fails has touched nothing. -/
theorem untouched_of_eq (_ : ApiError) (state : World) (h : state = world) :
    Untouched world state := by
  rw [h]
  exact untouched_refl world

/-- The row of a new device has the next number of its table. -/
theorem triple_registerDevice (world : World) (env : Environment) (userId : Id) (eui : Eui)
    (name description : String) (deviceType : DeviceType) :
    Triple (fun state => state = world)
      (registerDevice env userId eui name description deviceType)
      (fun device after =>
        device = newRow device.id userId eui name description deviceType env.now ∧
          Prepared world device.id after)
      (fun _ => Untouched world) := by
  refine triple_bind (triple_ofExcept untouched_of_eq) fun _ => triple_of_fact fun _ => ?_
  rintro state rfl
  cases hNumber : numbered state.sequences.device with
  | error error =>
      rw [bind_error (draw_error hNumber)]
      exact untouched_refl state
  | ok id =>
      rw [bind_ok (draw_ok hNumber)]
      dsimp only
      by_cases hTaken : (state.rows.devices.any fun row => row.id = id || row.eui = eui) = true
      · rw [bind_error (insertRow_error hTaken)]
        exact ⟨rfl, rfl, rfl, rfl, rfl, rfl, Nat.le_succ _, rfl⟩
      · rw [bind_ok (insertRow_ok (Bool.eq_false_iff.mpr hTaken))]
        exact ⟨rfl, ⟨rfl, rfl, rfl, rfl, rfl, rfl, Nat.le_succ _, rfl⟩, hNumber, rfl,
          _, rfl, rfl⟩

/-- A statement that is refused leaves a device that is prepared. -/
theorem triple_answer {id : Id} (answer : Except ApiError Unit) :
    Triple (Prepared world id) (ofExcept answer) (fun _ => Prepared world id)
      (fun _ => Untouched world) :=
  triple_weaken (triple_ofExcept fun _ _ hState => hState.toUntouched) (fun _ h => h)
    (fun _ _ h => h.2) fun _ _ h => h

/-- Rows of other tables do not matter to a device that is prepared. -/
theorem triple_prepared {α : Type} {id : Id} {action : Service α}
    (h : Keeps (Prepared world id) action) :
    Triple (Prepared world id) action (fun _ => Prepared world id) (fun _ => Untouched world) :=
  triple_weaken h (fun _ hState => hState) (fun _ _ hState => hState) fun _ _ hState =>
    hState.toUntouched

/-- A number of another table does not matter to a device that is prepared. -/
theorem keeps_prepared_draw {id : Id} {number : Sequences → Nat} {next : Sequences → Sequences}
    (h : ∀ sequences, (next sequences).group = sequences.group ∧
      (next sequences).link = sequences.link ∧ (next sequences).authority = sequences.authority ∧
        (next sequences).device = sequences.device) :
    Keeps (Prepared world id) (draw number next) := by
  refine keeps_draw fun state hState => ?_
  obtain ⟨hGroup, hLink, hAuthority, hDevice⟩ := h state.sequences
  exact
    { groups := hState.groups
      links := hState.links
      authorities := hState.authorities
      group := hGroup.trans hState.group
      link := hLink.trans hState.link
      authority := hAuthority.trans hState.authority
      device := hState.device.trans_eq hDevice.symm
      cache := hState.cache
      number := hState.number
      next := hDevice.trans hState.next
      devices := hState.devices }

/-- A row of another table does not matter to a device that is prepared. -/
theorem keeps_prepared_insertRow {id : Id} {taken : World → Bool} {add : Rows → Rows}
    (h : ∀ rows, (add rows).groups = rows.groups ∧ (add rows).links = rows.links ∧
      (add rows).authorities = rows.authorities ∧ (add rows).devices = rows.devices) :
    Keeps (Prepared world id) (insertRow taken add) := by
  refine keeps_insertRow fun state hState => ?_
  obtain ⟨hGroups, hLinks, hAuthorities, hDevices⟩ := h state.rows
  exact
    { groups := hGroups.trans hState.groups
      links := hLinks.trans hState.links
      authorities := hAuthorities.trans hState.authorities
      group := hState.group
      link := hState.link
      authority := hState.authority
      device := hState.device
      cache := hState.cache
      number := hState.number
      next := hState.next
      devices := hState.devices.imp fun row hRow => ⟨hRow.1, hDevices.trans hRow.2⟩ }

/-- A device of the other protocol is prepared, and its record has the key of the
request. -/
theorem triple_createSnap (world : World) (env : Environment) (req : ReqSnap) (userId : Id) :
    Triple (fun state => state = world) (SnapDeviceService.create env req userId)
      (fun record after => ∃ key, snapKey req.key = .ok key ∧
        record.commands = [.writeSnap req.eui ⟨record.device, key, none, 0, none, none, none⟩] ∧
          Prepared world record.device after)
      (fun _ => Untouched world) := by
  refine triple_bind (triple_registerDevice world env userId _ _ _ _)
    fun device => triple_of_fact fun hDevice => ?_
  refine triple_bind (triple_ofExcept fun _ _ hState => hState.toUntouched) fun key => ?_
  refine triple_of_fact fun hKey => ?_
  refine triple_bind (triple_answer _) fun _ => ?_
  refine triple_bind (triple_prepared (keeps_prepared_draw fun _ => ⟨rfl, rfl, rfl, rfl⟩))
    fun id => ?_
  refine triple_bind (triple_prepared (keeps_prepared_insertRow fun _ => ⟨rfl, rfl, rfl, rfl⟩))
    fun _ => ?_
  have hScript : device.script = none := by rw [hDevice, newRow]
  rw [hScript]
  exact triple_pure fun _ hState => ⟨key, hKey, rfl, hState⟩

/-- An MQTT device is prepared, and has no record. -/
theorem triple_createMqtt (world : World) (env : Environment) (req : ReqMQTT) (userId : Id) :
    Triple (fun state => state = world) (MQTTService.create env req userId)
      (fun record after => record.commands = [] ∧ Prepared world record.device after)
      (fun _ => Untouched world) := by
  refine triple_bind (triple_registerDevice world env userId _ _ _ _)
    fun device => triple_of_fact fun _ => ?_
  refine triple_bind (triple_answer _) fun _ => ?_
  refine triple_bind (triple_prepared (keeps_prepared_draw fun _ => ⟨rfl, rfl, rfl, rfl⟩))
    fun id => ?_
  refine triple_bind (triple_prepared (keeps_prepared_insertRow fun _ => ⟨rfl, rfl, rfl, rfl⟩))
    fun _ => ?_
  exact triple_pure fun _ hState => ⟨rfl, hState⟩

/-- A check on nodes and devices changes nothing. -/
theorem triple_onLora_check {α : Type} (check : State → Except ApiError α) :
    Triple (fun state => state = world) (onLora fun state => (state, check state))
      (fun value state => check world.lora = .ok value ∧ state = world)
      (fun _ state => state = world) := by
  rintro state rfl
  have hRun : onLora (fun state => (state, check state)) state = some (state, check state.lora) :=
    rfl
  rw [hRun]
  cases check state.lora with
  | error error => exact rfl
  | ok value => exact ⟨rfl, rfl⟩

/-- A gateway is prepared, and its record starts now. -/
theorem triple_createGate (world : World) (env : Environment) (req : ReqLoraGateway) (userId : Id) :
    Triple (fun state => state = world) (LoRaGateService.create env req userId)
      (fun record after =>
        record.commands = [.writeGateway req.eui ⟨record.device, 0, 0, env.now, none, none⟩] ∧
          Prepared world record.device after)
      (fun _ => Untouched world) := by
  refine triple_bind (triple_weaken (triple_onLora_check _) (fun _ h => h) (fun _ _ h => h)
    untouched_of_eq) fun _ => triple_of_fact fun _ => ?_
  refine triple_bind (triple_ofExcept untouched_of_eq) fun found => triple_of_fact fun _ => ?_
  refine triple_bind (triple_ofExcept untouched_of_eq) fun _ => triple_of_fact fun _ => ?_
  refine triple_bind (triple_registerDevice world env userId _ _ _ _)
    fun device => triple_of_fact fun _ => ?_
  refine triple_bind (triple_answer _) fun _ => ?_
  refine triple_bind (triple_prepared (keeps_prepared_draw fun _ => ⟨rfl, rfl, rfl, rfl⟩))
    fun id => ?_
  refine triple_bind (triple_prepared (keeps_prepared_insertRow fun _ => ⟨rfl, rfl, rfl, rfl⟩))
    fun _ => ?_
  refine triple_bind (triple_answer _) fun _ => ?_
  refine triple_bind (triple_prepared (keeps_prepared_draw fun _ => ⟨rfl, rfl, rfl, rfl⟩))
    fun token => ?_
  refine triple_bind (triple_prepared (keeps_prepared_insertRow fun _ => ⟨rfl, rfl, rfl, rfl⟩))
    fun _ => ?_
  exact triple_pure fun _ hState => ⟨rfl, hState⟩

/-- The name for Bluetooth does not matter to a device that is prepared. -/
theorem keeps_newFuncBlue {id : Id} (env : Environment) (deviceId : Id) (blueName : String) :
    Keeps (Prepared world id) (newFuncBlue env deviceId blueName) := by
  refine keeps_bind (keeps_ofExcept _) fun _ => ?_
  refine keeps_get fun state hState => ?_
  dsimp only
  cases state.rows.functions.find? fun row => row.device = deviceId ∧ row.funcName = "blue" with
  | some function =>
      refine keeps_modify fun state hState => ?_
      exact
        { groups := hState.groups
          links := hState.links
          authorities := hState.authorities
          group := hState.group
          link := hState.link
          authority := hState.authority
          device := hState.device
          cache := hState.cache
          number := hState.number
          next := hState.next
          devices := hState.devices }
  | none =>
      refine keeps_bind (keeps_prepared_draw fun _ => ⟨rfl, rfl, rfl, rfl⟩) fun id => ?_
      exact keeps_prepared_insertRow fun _ => ⟨rfl, rfl, rfl, rfl⟩

/-- The commands for the record of a new node, in which the number of its row does
not occur. -/
def newNodeCommands (env : Environment) (node : LoraNodeDeviceDefault) (userId id : Id) :
    List RecordCommand :=
  registerNode
    (NodeInfo.ofModels (newNode node ⟨id, ⟨0⟩, env.now⟩)
      (newRow id userId node.eui node.name node.description .LoRaNode env.now))
    node.devEui node.devAddr

/-- A node is prepared, and its record is that of its rows. -/
theorem triple_insertNode (world : World) (env : Environment) (node : LoraNodeDeviceDefault)
    (userId : Id) :
    Triple (fun state => state = world) (LoRaNodeService.insertNode env node userId)
      (fun record after =>
        record.commands = newNodeCommands env node userId record.device ∧
          Prepared world record.device after)
      (fun _ => Untouched world) := by
  refine triple_bind (triple_ofExcept untouched_of_eq) fun _ => triple_of_fact fun _ => ?_
  refine triple_bind (triple_weaken (triple_onLora_check _) (fun _ h => h) (fun _ _ h => h)
    untouched_of_eq) fun _ => triple_of_fact fun _ => ?_
  refine triple_bind (triple_registerDevice world env userId _ _ _ _) fun device =>
    triple_of_fact fun hDevice => ?_
  refine triple_bind (triple_answer _) fun _ => ?_
  refine triple_bind (triple_prepared (keeps_prepared_draw fun _ => ⟨rfl, rfl, rfl, rfl⟩))
    fun id => ?_
  refine triple_bind (triple_prepared (keeps_prepared_insertRow fun _ => ⟨rfl, rfl, rfl, rfl⟩))
    fun _ => ?_
  have hBlue : Keeps (Prepared world device.id)
      (forEach (newFuncBlue env device.id) node.blueName.toList) :=
    keeps_forEach fun blueName _ => keeps_newFuncBlue env device.id blueName
  refine triple_bind (triple_prepared hBlue) fun _ => ?_
  refine triple_pure fun _ hState => ⟨?_, hState⟩
  rw [newNodeCommands, ← hDevice]
  rfl

/-- The device that a request changes instead of making one. -/
def renews (req : DeviceCreate) : Option Id :=
  if req.deviceType = .LoRaNode ∧ req.blueParm.isSome then req.device else none

/-- The node that a request makes. -/
def askedNode (env : Environment) (world : World) (req : DeviceCreate) :
    Option LoraNodeDeviceDefault := do
  let eui ← req.eui.bind parseEui
  let region ← req.region
  let joinType ← req.joinType
  let value ← req.joinParameter
  let joinParameter ← value.node.toOption
  let join := req.joinNode eui region joinType joinParameter
  if req.blueParm.isSome then (withBluetooth join.toReqLoraNode).toOption
  else (Management.withDefault env.queryEui world.lora join env.draws).bind Except.toOption

/-- The commands for the record that a request asks for, as request and tables
tell before it. -/
def recordCommands (env : Environment) (userId : Id) (world : World) (req : DeviceCreate) :
    Option (List RecordCommand) :=
  match req.deviceType with
  | .MQTT => some []
  | .Snap => do
      let eui ← req.eui.bind parseEui
      let value ← req.joinParameter
      let text ← value.snap.toOption
      let key ← (snapKey text).toOption
      let id ← (numbered world.sequences.device).toOption
      return [.writeSnap eui ⟨id, key, none, 0, none, none, none⟩]
  | .LoRaGate => do
      let eui ← req.eui.bind parseEui
      let id ← (numbered world.sequences.device).toOption
      return [.writeGateway eui ⟨id, 0, 0, env.now, none, none⟩]
  | .LoRaNode =>
      match renews req with
      | some deviceId => do
          let blue ← req.blueParm
          let device ← (queryOne world.lora userId deviceId).toOption
          let node ← world.lora.findNode deviceId
          let next ← (blueModel (predefined env.queryEui) world.lora node blue).toOption
          return unregisterNode next.devEui next.devAddr ++
            registerNode (NodeInfo.ofModels next device) next.devEui next.devAddr
      | none => do
          let node ← askedNode env world req
          let id ← (numbered world.sequences.device).toOption
          return newNodeCommands env node userId id

/-- What a creation leaves apart from its record: a device, new or changed. -/
structure Registered (userId : Id) (world : World) (req : DeviceCreate) (id : Id)
    (after : World) : Prop where
  groups : after.rows.groups = world.rows.groups
  links : after.rows.links = world.rows.links
  authorities : after.rows.authorities = world.rows.authorities
  group : after.sequences.group = world.sequences.group
  link : after.sequences.link = world.sequences.link
  authority : after.sequences.authority = world.sequences.authority
  entries : after.cache.groups = world.cache.groups
  device : match renews req with
    | some deviceId => id = deviceId ∧ after.sequences.device = world.sequences.device ∧
        after.rows.devices = world.rows.devices ∧ (world.findDevice id).isSome
    | none => numbered world.sequences.device = .ok id ∧
        after.sequences.device = world.sequences.device + 1 ∧
          ∃ row : DevicesModel, row.id = id ∧ after.rows.devices = world.rows.devices ++ [row]

/-- The rows of a creation are there, and its record is still to be written. -/
structure Inserted (env : Environment) (userId : Id) (world : World) (req : DeviceCreate)
    (record : DeviceRecord) (after : World) : Prop extends
    Registered userId world req record.device after where
  cache : after.cache = world.cache
  commands : recordCommands env userId world req = some record.commands

/-- The rows of a new device are those of its creation. -/
theorem Prepared.inserted {env : Environment} {userId : Id} {req : DeviceCreate}
    {record : DeviceRecord} {after : World} (h : Prepared world record.device after)
    (hNew : renews req = none)
    (hCommands : recordCommands env userId world req = some record.commands) :
    Inserted env userId world req record after := by
  refine
    { groups := h.groups
      links := h.links
      authorities := h.authorities
      group := h.group
      link := h.link
      authority := h.authority
      entries := congrArg Cache.groups h.cache
      device := ?_
      cache := h.cache
      commands := hCommands }
  rw [hNew]
  exact ⟨h.number, h.next, h.devices⟩

/-- A part that is required is there. -/
theorem orMissing_ok {α : Type} {value : Option α} {key : String} {result : α}
    (h : orMissing value key = .ok result) : value = some result := by
  cases value with
  | none => cases h
  | some found => rw [Except.ok.inj h]

/-- A value that is read has been parsed. -/
theorem fromValue_ok {α : Type} {value : Except String α} {result : α}
    (h : fromValue value = .ok result) : value = .ok result := by
  cases value with
  | error msg => cases h
  | ok found => rw [Except.ok.inj h]

theorem renews_of_type {req : DeviceCreate} (h : req.deviceType ≠ .LoRaNode) : renews req = none :=
  if_neg fun hNode => h hNode.1

theorem toOption_ok {α : Type} {ε : Type} {result : Except ε α} {value : α}
    (h : result = .ok value) : result.toOption = some value := by
  rw [h]
  rfl

section

variable (env : Environment) (userId : Id) {req : DeviceCreate} {eui : Eui}
  (hEui : req.eui.bind parseEui = some eui)

include hEui

/-- The record of a device of the other protocol is the one that the request asks for.
-/
theorem triple_insertDevice_snap (hType : req.deviceType = .Snap) {value : JoinParameter}
    (hValue : req.joinParameter = some value) {text : String} (hText : value.snap = .ok text) :
    Triple (fun state => state = world)
      (SnapDeviceService.create env ⟨req.name, req.description.getD "", eui, text⟩ userId)
      (Inserted env userId world req) (fun _ => Untouched world) := by
  refine triple_weaken (triple_createSnap world env _ userId) (fun _ h => h) ?_ fun _ _ h => h
  rintro record after ⟨key, hKey, hCommands, hPrepared⟩
  refine hPrepared.inserted (renews_of_type (by rw [hType]; decide)) ?_
  rw [hCommands, recordCommands, hType]
  simp only [hEui, hValue, toOption_ok hText, toOption_ok hKey, toOption_ok hPrepared.number,
    Option.bind_eq_bind, Option.bind_some]
  rfl

/-- The record of a gateway is the one that the request asks for. -/
theorem triple_insertDevice_gate (hType : req.deviceType = .LoRaGate) (region : LoRaRegion) :
    Triple (fun state => state = world)
      (LoRaGateService.create env ⟨req.name, req.description.getD req.name, eui, region⟩ userId)
      (Inserted env userId world req) (fun _ => Untouched world) := by
  refine triple_weaken (triple_createGate world env _ userId) (fun _ h => h) ?_ fun _ _ h => h
  rintro record after ⟨hCommands, hPrepared⟩
  refine hPrepared.inserted (renews_of_type (by rw [hType]; decide)) ?_
  rw [hCommands, recordCommands, hType]
  simp only [hEui, toOption_ok hPrepared.number, Option.bind_eq_bind, Option.bind_some]
  rfl

end

/-- An MQTT device asks for no record. -/
theorem triple_insertDevice_mqtt (env : Environment) (userId : Id) {req : DeviceCreate}
    (hType : req.deviceType = .MQTT) (reqMqtt : ReqMQTT) :
    Triple (fun state => state = world) (MQTTService.create env reqMqtt userId)
      (Inserted env userId world req) (fun _ => Untouched world) := by
  refine triple_weaken (triple_createMqtt world env _ userId) (fun _ h => h) ?_ fun _ _ h => h
  rintro record after ⟨hCommands, hPrepared⟩
  refine hPrepared.inserted (renews_of_type (by rw [hType]; decide)) ?_
  rw [hCommands, recordCommands, hType]

/-- A new node is the one that the request asks for. -/
theorem triple_insertDevice_node (env : Environment) (userId : Id) {req : DeviceCreate}
    (hType : req.deviceType = .LoRaNode) (hNew : renews req = none) {node : LoraNodeDeviceDefault}
    (hNode : askedNode env world req = some node) :
    Triple (fun state => state = world) (LoRaNodeService.insertNode env node userId)
      (Inserted env userId world req) (fun _ => Untouched world) := by
  refine triple_weaken (triple_insertNode world env node userId) (fun _ h => h) ?_ fun _ _ h => h
  rintro record after ⟨hCommands, hPrepared⟩
  refine hPrepared.inserted hNew ?_
  rw [hCommands, recordCommands, hType]
  simp only [hNew, hNode, toOption_ok hPrepared.number, Option.bind_eq_bind,
    Option.bind_some]
  rfl

/-- A change of a device is refused, or its row is changed and its record is to
be written again. -/
theorem updateBlue_cases (world : World) (env : Environment) (userId : Id) {req : ReqLoraNode}
    {deviceId : Id} {blue : BluetoothNode} (hDevice : req.device = some deviceId)
    (hBlue : req.blueParm = some blue) :
    (∃ error, LoRaNodeService.updateBlue env req userId world = some (world, .error error)) ∨
      ∃ device node next, queryOne world.lora userId deviceId = .ok device ∧
        world.lora.findNode deviceId = some node ∧
          blueModel (predefined env.queryEui) world.lora node blue = .ok next ∧
            LoRaNodeService.updateBlue env req userId world =
              some (world.withLora (world.lora.updateNode next),
                .ok ⟨deviceId, unregisterNode next.devEui next.devAddr ++
                  registerNode (NodeInfo.ofModels next device) next.devEui next.devAddr⟩) := by
  unfold LoRaNodeService.updateBlue
  simp only [hDevice]
  rw [get_bind]
  cases hQuery : queryOne world.lora userId deviceId with
  | error error => exact .inl ⟨error, rfl⟩
  | ok device =>
      rw [bind_ok (ofExcept_ok rfl world)]
      cases hNode : world.lora.findNode deviceId with
      | none => exact .inl ⟨_, rfl⟩
      | some node =>
          simp only [hBlue]
          cases hModel : blueModel (predefined env.queryEui) world.lora node blue with
          | error error => exact .inl ⟨error, rfl⟩
          | ok next =>
              rw [bind_ok (ofExcept_ok rfl world)]
              rcases except_cases (if next = node then .ok () else env.answer .updateNode) with
                ⟨error, hAnswer⟩ | ⟨_, hAnswer⟩
              · exact .inl ⟨error, bind_error (ofExcept_error hAnswer world)⟩
              · rw [bind_ok (ofExcept_ok hAnswer world)]
                exact .inr ⟨device, node, next, rfl, rfl, hModel, rfl⟩

/-- Parameters read over Bluetooth ask for the record of a new node or of the renewed
one. -/
theorem triple_updateBlue (world : World) (env : Environment) (userId : Id) {req : DeviceCreate}
    (hType : req.deviceType = .LoRaNode) {node : ReqLoraNode} (hBlue : node.blueParm.isSome)
    (hSameBlue : node.blueParm = req.blueParm) (hSameDevice : node.device = req.device)
    (hAsked : askedNode env world req = (withBluetooth node).toOption) :
    Triple (fun state => state = world) (LoRaNodeService.updateBlue env node userId)
      (Inserted env userId world req) (fun _ => Untouched world) := by
  cases hDevice : node.device with
  | none =>
      have hNew : renews req = none := by
        rw [renews, ← hSameDevice, hDevice, ite_self]
      unfold LoRaNodeService.updateBlue
      rw [hDevice]
      refine triple_bind (triple_weaken (triple_onLora_check _) (fun _ h => h) (fun _ _ h => h)
        untouched_of_eq) fun _ => triple_of_fact fun _ => ?_
      refine triple_bind (triple_ofExcept untouched_of_eq) fun made =>
        triple_of_fact fun hMade => ?_
      exact triple_insertDevice_node env userId hType hNew (hAsked.trans (toOption_ok hMade))
  | some deviceId =>
      obtain ⟨blue, hBlue⟩ := Option.isSome_iff_exists.mp hBlue
      have hRenews : renews req = some deviceId := by
        rw [renews, if_pos ⟨hType, Option.isSome_of_mem (hSameBlue.symm.trans hBlue)⟩,
          ← hSameDevice, hDevice]
      rintro state rfl
      rcases updateBlue_cases state env userId hDevice hBlue with
        ⟨error, hRun⟩ | ⟨device, row, next, hQuery, hRow, hModel, hRun⟩ <;> rw [hRun]
      · exact untouched_refl state
      · refine ⟨⟨rfl, rfl, rfl, rfl, rfl, rfl, rfl, ?_⟩, rfl, ?_⟩
        · rw [hRenews]
          exact ⟨rfl, rfl, rfl, Option.isSome_of_mem (queryOne_ok hQuery)⟩
        · rw [recordCommands, hType]
          simp only [hRenews, ← hSameBlue, hBlue, toOption_ok hQuery, hRow, toOption_ok hModel,
            Option.bind_eq_bind, Option.bind_some]
          rfl

/-- The node of a request without parameters read over Bluetooth. -/
theorem triple_withDefault (world : World) (env : Environment) (req : ReqJoinNode) :
    Triple (fun state => state = world) (LoRaNodeService.withDefault env req)
      (fun node state =>
        Management.withDefault env.queryEui world.lora req env.draws = some (.ok node) ∧
          state = world)
      (fun _ => Untouched world) := by
  rintro state rfl
  unfold LoRaNodeService.withDefault
  rcases Management.withDefault env.queryEui state.lora req env.draws with _ | error | node
  · trivial
  · exact untouched_refl state
  · exact ⟨rfl, rfl⟩

/-- Whatever its type, a device that is inserted asks for the record of its request. -/
theorem triple_insertDevice (world : World) (env : Environment) (userId : Id)
    (req : DeviceCreate) :
    Triple (fun state => state = world) (insertDevice env userId req)
      (Inserted env userId world req) (fun _ => Untouched world) := by
  refine triple_bind (triple_ofExcept untouched_of_eq) fun text => triple_of_fact fun hText => ?_
  refine triple_bind (triple_ofExcept untouched_of_eq) fun eui => triple_of_fact fun hParse => ?_
  have hEui : req.eui.bind parseEui = some eui := by
    rw [orMissing_ok hText, Option.bind_some, orMissing_ok hParse]
  cases hType : req.deviceType with
  | Snap =>
      refine triple_bind (triple_ofExcept untouched_of_eq) fun value =>
        triple_of_fact fun hValue => ?_
      refine triple_bind (triple_ofExcept untouched_of_eq) fun key => triple_of_fact fun hKey => ?_
      exact triple_insertDevice_snap env userId hEui hType (orMissing_ok hValue) (fromValue_ok hKey)
  | MQTT =>
      refine triple_bind (triple_ofExcept untouched_of_eq) fun _ => triple_of_fact fun _ => ?_
      refine triple_bind (triple_ofExcept untouched_of_eq) fun _ => triple_of_fact fun _ => ?_
      exact triple_insertDevice_mqtt env userId hType _
  | LoRaGate =>
      refine triple_bind (triple_ofExcept untouched_of_eq) fun _ => triple_of_fact fun _ => ?_
      exact triple_insertDevice_gate env userId hEui hType _
  | LoRaNode =>
      refine triple_bind (triple_ofExcept untouched_of_eq) fun region =>
        triple_of_fact fun hRegion => ?_
      refine triple_bind (triple_ofExcept untouched_of_eq) fun joinType =>
        triple_of_fact fun hJoin => ?_
      refine triple_bind (triple_ofExcept untouched_of_eq) fun value =>
        triple_of_fact fun hValue => ?_
      refine triple_bind (triple_ofExcept untouched_of_eq) fun parameter =>
        triple_of_fact fun hParameter => ?_
      have hAsked : askedNode env world req =
          if req.blueParm.isSome then
            (withBluetooth (req.joinNode eui region joinType parameter).toReqLoraNode).toOption
          else (Management.withDefault env.queryEui world.lora
            (req.joinNode eui region joinType parameter) env.draws).bind Except.toOption := by
        rw [askedNode, hEui, orMissing_ok hRegion, orMissing_ok hJoin, orMissing_ok hValue]
        simp only [toOption_ok (fromValue_ok hParameter), Option.bind_eq_bind, Option.bind_some]
      have hSame : (req.joinNode eui region joinType parameter).blueParm = req.blueParm := rfl
      unfold LoRaNodeService.createNode
      rw [hSame]
      split_ifs at hAsked ⊢ with hBlue
      · exact triple_updateBlue world env userId hType hBlue rfl rfl hAsked
      · have hNew : renews req = none := if_neg fun h => hBlue h.2
        refine triple_bind (triple_withDefault world env _) fun node =>
          triple_of_fact fun hNode => ?_
        exact triple_insertDevice_node env userId hType hNew
          (by rw [hAsked, hNode]; rfl)

/-! The commands for a record, which fail one by one. -/

/-- No command is refused. -/
def AllSent (env : Environment) (commands : List RecordCommand) : Prop :=
  ∀ command ∈ commands, env.answer (.record command) = .ok ()

/-- The commands before the first that is refused. -/
def sentCommands (env : Environment) (commands : List RecordCommand) : List RecordCommand :=
  commands.takeWhile fun command => (env.answer (.record command)).isOk

/-- The state after commands to the cache. -/
def World.recorded (world : World) (commands : List RecordCommand) : World :=
  { world with cache := commands.foldl RecordCommand.apply world.cache }

/-- Commands to the cache change nothing else. -/
theorem foldl_sendCommand (commands : List RecordCommand) (world : World) :
    commands.foldl (fun world command => { world with cache := command.apply world.cache })
      world = world.recorded commands := by
  induction commands generalizing world with
  | nil => rfl
  | cons command commands ih =>
      rw [List.foldl_cons, ih]
      rfl

/-- All commands of a record are done, or those before the first refusal. -/
theorem sendCommands_cases (env : Environment) (commands : List RecordCommand) (world : World) :
    (AllSent env commands ∧
      forEach (sendCommand env) commands world = some (world.recorded commands, .ok ())) ∨
    ¬AllSent env commands ∧ ∃ error,
      forEach (sendCommand env) commands world =
        some (world.recorded (sentCommands env commands), .error error) := by
  have hDone : ∀ (command : RecordCommand) (state : World), env.answer (.record command) = .ok () →
      sendCommand env command state =
        some ({ state with cache := command.apply state.cache }, .ok ()) := by
    intro command state hAnswer
    unfold sendCommand
    rw [hAnswer]
    rfl
  have hRefused : ∀ (command : RecordCommand) (state : World) (error : ApiError),
      env.answer (.record command) = .error error →
        sendCommand env command state = some (state, .error error) := by
    intro command state error hAnswer
    unfold sendCommand
    rw [hAnswer]
    rfl
  rw [sentCommands, ← foldl_sendCommand, ← foldl_sendCommand]
  exact forEach_answers hDone hRefused commands world

/-- The records of devices are kept apart from the groups of users. -/
theorem RecordCommand.apply_groups (cache : Cache) (command : RecordCommand) :
    (command.apply cache).groups = cache.groups := by
  cases command <;> rfl

/-- Commands for a record leave the groups of users alone. -/
theorem recorded_groups (world : World) (commands : List RecordCommand) :
    (world.recorded commands).cache.groups = world.cache.groups := by
  induction commands generalizing world with
  | nil => rfl
  | cons command commands ih =>
      exact (ih { world with cache := command.apply world.cache }).trans
        (command.apply_groups world.cache)

/-- The record changes nothing but the cache. -/
theorem Inserted.registered {env : Environment} {userId : Id} {req : DeviceCreate}
    {record : DeviceRecord} {after : World} (h : Inserted env userId world req record after)
    (commands : List RecordCommand) :
    Registered userId world req record.device (after.recorded commands) :=
  { h.toRegistered with
    entries := (recorded_groups after commands).trans h.entries }

/-- Rows are inserted for the device of a request. -/
def Inserts (env : Environment) (userId : Id) (world : World) (req : DeviceCreate) : Prop :=
  ∃ record after, insertDevice env userId req world = some (after, .ok record)

/-- A creation does not return, fails before its record, fails within it, or
leaves a device with its record. -/
theorem createDevice_cases (env : Environment) (userId : Id) (req : DeviceCreate) (world : World) :
    (createDevice env userId req world = none ∧ ¬Inserts env userId world req) ∨
      (∃ error after, createDevice env userId req world = some (after, .error error) ∧
        Untouched world after ∧ ¬Inserts env userId world req) ∨
      ∃ record after, Inserted env userId world req record after ∧ Inserts env userId world req ∧
        (AllSent env record.commands ∧
            createDevice env userId req world =
              some (after.recorded record.commands, .ok record.device) ∨
          ¬AllSent env record.commands ∧ ∃ error,
            createDevice env userId req world =
              some (after.recorded (sentCommands env record.commands), .error error)) := by
  have hInsert := triple_insertDevice world env userId req world rfl
  unfold createDevice
  rcases hRun : insertDevice env userId req world with _ | ⟨after, error | record⟩
  · refine .inl ⟨by rw [bind_apply, hRun], ?_⟩
    rintro ⟨record, after, hInserted⟩
    rw [hRun] at hInserted
    cases hInserted
  · rw [hRun] at hInsert
    refine .inr (.inl ⟨error, after, bind_error hRun, hInsert, ?_⟩)
    rintro ⟨record, after, hInserted⟩
    rw [hRun] at hInserted
    cases hInserted
  · rw [hRun] at hInsert
    refine .inr (.inr ⟨record, after, hInsert, ⟨record, after, hRun⟩, ?_⟩)
    rw [bind_ok hRun]
    rcases sendCommands_cases env record.commands after with
      ⟨hAll, hSent⟩ | ⟨hNot, error, hSent⟩
    · exact .inl ⟨hAll, bind_ok hSent⟩
    · exact .inr ⟨hNot, error, bind_error hSent⟩

/-- If nothing is refused, the change of a device does what the management of LoRa
nodes does to the tables and the cache. -/
theorem updateBlue_answered {env : Environment}
    (hAnswers : ∀ statement, env.answer statement = .ok ()) (userId : Id) {req : ReqLoraNode}
    {deviceId : Id} (hDevice : req.device = some deviceId) (assigned : Assigned) :
    (do
        let record ← LoRaNodeService.updateBlue env req userId
        forEach (sendCommand env) record.commands
        return record.device : Service Id) world =
      onLora (fun state =>
        Management.updateBlue (predefined env.queryEui) state userId req assigned) world := by
  unfold LoRaNodeService.updateBlue Management.updateBlue onLora
  simp only [hDevice, hAnswers, ite_self]
  rw [bind_apply, get_bind]
  cases hQuery : queryOne world.lora userId deviceId with
  | error error => rfl
  | ok device =>
      rw [bind_ok (ofExcept_ok rfl world)]
      cases hNode : world.lora.findNode deviceId with
      | none => rfl
      | some node =>
          cases hBlue : req.blueParm with
          | none => rfl
          | some blue =>
              dsimp only
              cases hModel : blueModel (predefined env.queryEui) world.lora node blue with
              | error error => rfl
              | ok next =>
                  rcases sendCommands_cases env
                    (unregisterNode next.devEui next.devAddr ++
                      registerNode (NodeInfo.ofModels next device) next.devEui next.devAddr)
                    (world.withLora (world.lora.updateNode next)) with
                    ⟨-, hSent⟩ | ⟨hRefused, -⟩
                  · exact (bind_ok hSent).trans rfl
                  · exact absurd (fun command _ => hAnswers (.record command)) hRefused

end
end SnapEmu.Server
