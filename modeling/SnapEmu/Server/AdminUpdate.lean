import Mathlib.Data.List.TakeWhile
import SnapEmu.Server.Update

/-! The update of a device by an administrator: the record is written field by
field, the row at the end, and any statement in between may fail. -/
namespace SnapEmu.Server

open Device Management Semantics User Action HashRecord

/-- The fields of nodes, and the key of a device of the other protocol. -/
structure DeviceChange extends DeviceChangeBody where
  key : Option (Management.Text Key)

/-- A body in which no field is echoed. -/
def DeviceChange.default : DeviceChange :=
  ⟨⟨none, none, none, none, none, none, none, none, none, none, none, none, none, none, none, none,
    none, none, none, none, none, none, none⟩, none⟩

/-- The statements that an update sends to the tables and to the cache. -/
inductive AdminStatement where
  | findDevice
  | findRelated
  | connect
  | cacheNode (field : NodeField)
  | cacheSnap
  | update

/-- Whether a statement succeeds; one that fails does nothing. -/
abbrev Answers := AdminStatement → Except ApiError Unit

namespace World

def withNodes (world : World) (nodes : NodeStore) : World :=
  { world with cache := { world.cache with nodes := nodes } }

/-- A field of a record of the other protocol, if the record is there. -/
def updateSnap (world : World) (eui : Eui) (field : SnapField) (value : field.Value) : World :=
  if ∃ field, (world.cache.snaps eui field).isSome then
    { world with
      cache := { world.cache with
        snaps := Function.update world.cache.snaps eui
          (Function.update (world.cache.snaps eui) field (field.codec.toArgs value)) } }
  else world

end World

namespace Admin

/-- The record is found by the EUI of the node. -/
def writeField (answer : Answers) (eui : Eui) (change : NodeChange) : Service Unit := do
  ofExcept (answer (.cacheNode change.1))
  Action.modify fun world =>
    world.withNodes (NodeInfo.updateByEui world.cache.nodes eui change.1 change.2)

/-- A row without changes is not written. -/
def updateRow (answer : Answers) (node : DeviceLoraNodeModel) : List NodeChange → Service Unit
  | [] => return ()
  | changes => do
      ofExcept (answer .update)
      modifyRows fun rows =>
        { rows with
          loraNodes := rows.loraNodes.map fun row =>
            if row.id = node.id then changes.foldl assign node else row }

def putNode (answer : Answers) (device : DevicesModel) (info : DeviceChange) :
    Service DeviceChange := do
  ofExcept (answer .findRelated)
  let world ← get
  match world.rows.loraNodes.find? fun node => node.deviceId = device.id with
  | none => throw (.user (.plain "invalid device"))
  | some node => do
      ofExcept (answer .connect)
      let changes ← ofExcept info.changes
      forEach (writeField answer node.devEui) changes
      updateRow answer node changes
      return { info with key := none }

/-- The key of the row is assigned, but the row is not written. -/
def putSnap (answer : Answers) (device : DevicesModel) (info : DeviceChange) :
    Service DeviceChange := do
  ofExcept (answer .findRelated)
  let world ← get
  match world.rows.snaps.find? fun snap => snap.deviceId = device.id with
  | none => throw (.user (.plain "invalid device"))
  | some _ =>
      match info.key with
      | none => return DeviceChange.default
      | some text =>
          match text.parsed with
          | none => throw (.user (.plain "invalid key"))
          | some key => do
              ofExcept (answer .connect)
              ofExcept (answer .cacheSnap)
              Action.modify fun world => world.updateSnap device.eui .key key
              return { DeviceChange.default with key := info.key }

def putDeviceInfo (answer : Answers) (id : Id) (info : DeviceChange) : Service DeviceChange := do
  ofExcept (answer .findDevice)
  let world ← get
  match world.findDevice id with
  | none => throw deviceNotFound
  | some device =>
      match device.deviceType with
      | .LoRaNode => putNode answer device info
      | .LoRaGate | .MQTT => return DeviceChange.default
      | .Snap => putSnap answer device info

end Admin

/-- The key that a body gives. -/
def DeviceChange.askedKey (info : DeviceChange) : Option Key :=
  info.key.bind fun text => text.parsed

/-- Each field that is echoed has the requested value in the row, and in the
record as far as that is there; a failure leaves rows and cache as they were. -/
def AdminAgreed (world after : World) (id : Id) : Except ApiError DeviceChange → Prop
  | .error _ => after.rows = world.rows ∧ after.cache = world.cache
  | .ok body => ∀ device ∈ world.rows.devices, device.id = id →
      (∀ node ∈ after.rows.loraNodes, node.deviceId = id → ∀ field, ∀ value ∈ body.asked field,
        (NodeInfo.ofModels node device).get field = value ∧
          ((after.nodeHash node).Present → Reads (after.nodeHash node) field value)) ∧
      ∀ snap ∈ after.rows.snaps, snap.deviceId = id → ∀ key ∈ body.askedKey,
        snap.key = key ∧ (SnapHash.Present (after.cache.snaps device.eui) →
          SnapField.key.codec.fromValue (after.cache.snaps device.eui .key) = some key)

/-- All statements of an update of a node succeed. -/
def Answered (answer : Answers) (changes : List NodeChange) : Prop :=
  (∀ change ∈ changes, answer (.cacheNode change.1) = .ok ()) ∧
    (changes ≠ [] → answer .update = .ok ())

/-- The changes before the first one that is refused. -/
def reached (answer : Answers) (changes : List NodeChange) : List NodeChange :=
  changes.takeWhile fun change => (answer (.cacheNode change.1)).isOk

/-- The device is found, with its row, and the cache answers. -/
def Started (answer : Answers) : Prop :=
  answer .findDevice = .ok () ∧ answer .findRelated = .ok () ∧ answer .connect = .ok ()

/-- The record of a node is the one that its EUI leads to, or has the values
already, if all statements succeed; if one fails, the record that the EUI leads
to has the values written before it. -/
structure NodeSuits (answer : Answers) (world : World) (info : DeviceChange)
    (node : DeviceLoraNodeModel) (changes : List NodeChange) : Prop where
  answered : Answered answer changes → (world.nodeHash node).Present →
    world.cache.nodes.nodeEui node.devEui = some node.devAddr ∨
      Holds NodeField.codec info.asked (world.nodeHash node)
  failed : ¬Answered answer changes → ∀ addr, Leads world.cache.nodes node.devEui addr →
    ∀ field, ∀ value ∈ lastChange (reached answer changes) field,
      world.cache.nodes.node addr field = field.codec.toArgs value

/-- A node suits the request, and the row of a device of the other protocol has
the key already. -/
structure AdminSuits (answer : Answers) (world : World) (id : Id) (info : DeviceChange) :
    Prop where
  node : ∀ device ∈ world.rows.devices, device.id = id → device.deviceType = .LoRaNode →
    Started answer → ∀ node ∈ world.rows.loraNodes, node.deviceId = id →
      ∀ changes, info.changes = .ok changes → NodeSuits answer world info node changes
  snap : ∀ device ∈ world.rows.devices, device.id = id → device.deviceType = .Snap →
    Started answer → answer .cacheSnap = .ok () → ∀ key ∈ info.askedKey,
      ∀ snap ∈ world.rows.snaps, snap.deviceId = id → snap.key = key

section

variable {answer : Answers} {world after : World} {id : Id} {info : DeviceChange}
  {device : DevicesModel} {node : DeviceLoraNodeModel} {changes : List NodeChange}

/-! The update of a node. -/

/-- The rows after the changes of a node. -/
def assignRows (rows : Rows) (node : DeviceLoraNodeModel) (changes : List NodeChange) : Rows :=
  { rows with
    loraNodes := rows.loraNodes.map fun row =>
      if row.id = node.id then changes.foldl assign node else row }

/-- The fields of a record are written to the store one after another. -/
theorem foldl_writeField (eui : Eui) (changes : List NodeChange) (world : World) :
    changes.foldl (fun world change =>
        world.withNodes (NodeInfo.updateByEui world.cache.nodes eui change.1 change.2)) world =
      world.withNodes (updateCache world.cache.nodes eui changes) := by
  induction changes generalizing world with
  | nil => rfl
  | cons change changes ih =>
      rw [List.foldl_cons, ih]
      rfl

/-- All fields are written, or those before the first refusal. -/
theorem writeFields_cases (answer : Answers) (eui : Eui) (changes : List NodeChange)
    (world : World) :
    ((∀ change ∈ changes, answer (.cacheNode change.1) = .ok ()) ∧
      forEach (Admin.writeField answer eui) changes world =
        some (world.withNodes (updateCache world.cache.nodes eui changes), .ok ())) ∨
    (¬∀ change ∈ changes, answer (.cacheNode change.1) = .ok ()) ∧ ∃ error,
      forEach (Admin.writeField answer eui) changes world =
        some (world.withNodes (updateCache world.cache.nodes eui (reached answer changes)),
          .error error) := by
  have hDone : ∀ (change : NodeChange) (state : World), answer (.cacheNode change.1) = .ok () →
      Admin.writeField answer eui change state = some
        (state.withNodes (NodeInfo.updateByEui state.cache.nodes eui change.1 change.2),
          .ok ()) := by
    intro change state hAnswer
    unfold Admin.writeField
    rw [hAnswer]
    rfl
  have hRefused : ∀ (change : NodeChange) (state : World) (error : ApiError),
      answer (.cacheNode change.1) = .error error →
      Admin.writeField answer eui change state = some (state, .error error) := by
    intro change state error hAnswer
    unfold Admin.writeField
    rw [hAnswer]
    rfl
  rw [reached, ← foldl_writeField, ← foldl_writeField]
  exact forEach_answers hDone hRefused changes world

/-- Without changes the rows stay. -/
theorem assignRows_nil (hKeys : world.rows.Unique) (hNode : node ∈ world.rows.loraNodes) :
    assignRows world.rows node [] = world.rows := by
  have hRows : (world.rows.loraNodes.map fun row => if row.id = node.id then node else row) =
      world.rows.loraNodes := by
    refine (List.map_congr_left fun row hRow => ?_).trans (List.map_id _)
    split_ifs with hSame
    · exact (List.inj_on_of_nodup_map hKeys.nodeIds hRow hNode hSame).symm
    · rfl
  exact congrArg (fun loraNodes => { world.rows with loraNodes := loraNodes }) hRows

/-- The row is written as the last statement. -/
theorem updateRow_cases (hKeys : world.rows.Unique) (hNode : node ∈ world.rows.loraNodes)
    (nodes : NodeStore) (changes : List NodeChange) :
    ((changes ≠ [] → answer .update = .ok ()) ∧
      Admin.updateRow answer node changes (world.withNodes nodes) =
        some ({ world.withNodes nodes with rows := assignRows world.rows node changes }, .ok ())) ∨
    ¬(changes ≠ [] → answer .update = .ok ()) ∧ ∃ error,
      Admin.updateRow answer node changes (world.withNodes nodes) =
        some (world.withNodes nodes, .error error) := by
  cases changes with
  | nil =>
      refine .inl ⟨fun h => absurd rfl h, ?_⟩
      rw [assignRows_nil hKeys hNode]
      rfl
  | cons change changes =>
      have hSome : change :: changes ≠ [] := List.cons_ne_nil _ _
      rw [imp_iff_right hSome]
      unfold Admin.updateRow
      cases hAnswer : answer .update with
      | ok _ => exact .inl ⟨rfl, rfl⟩
      | error error => exact .inr ⟨nofun, error, rfl⟩

/-- The state after an update of a node that succeeds. -/
def assignedWorld (world : World) (node : DeviceLoraNodeModel) (changes : List NodeChange) :
    World :=
  { world.withNodes (updateCache world.cache.nodes node.devEui changes) with
    rows := assignRows world.rows node changes }

/-- The update of a node comes as far as its first change. -/
structure Begun (answer : Answers) (world : World) (device : DevicesModel) (info : DeviceChange)
    (node : DeviceLoraNodeModel) (changes : List NodeChange) : Prop where
  related : answer .findRelated = .ok ()
  found : (world.rows.loraNodes.find? fun node => node.deviceId = device.id) = some node
  connect : answer .connect = .ok ()
  changes : info.changes = .ok changes

/-- An update of a node writes all, or the fields before the first refusal and no row.
-/
theorem putNode_cases (hKeys : world.rows.Unique)
    (hBegun : Begun answer world device info node changes) :
    (Answered answer changes ∧ Admin.putNode answer device info world =
      some (assignedWorld world node changes, .ok { info with key := none })) ∨
    ¬Answered answer changes ∧ ∃ error, Admin.putNode answer device info world =
      some (world.withNodes (updateCache world.cache.nodes node.devEui (reached answer changes)),
        .error error) := by
  unfold Admin.putNode
  rw [bind_ok (ofExcept_ok hBegun.related world), get_bind, hBegun.found]
  dsimp only
  rw [bind_ok (ofExcept_ok hBegun.connect world), bind_ok (ofExcept_ok hBegun.changes world)]
  rcases writeFields_cases answer node.devEui changes world with
    ⟨hAll, hWritten⟩ | ⟨hNot, error, hWritten⟩
  · rw [bind_ok hWritten]
    have hReached : reached answer changes = changes :=
      List.takeWhile_eq_self_iff.mpr fun change hChange => by rw [hAll change hChange]; rfl
    rcases updateRow_cases hKeys (List.mem_of_find?_eq_some hBegun.found) _ changes with
      ⟨hUpdate, hRow⟩ | ⟨hUpdate, error, hRow⟩
    · exact .inl ⟨⟨hAll, hUpdate⟩, bind_ok hRow⟩
    · rw [hReached]
      exact .inr ⟨fun h => hUpdate h.2, error, bind_error hRow⟩
  · exact .inr ⟨fun h => hNot h.1, error, bind_error hWritten⟩

/-- An update that fails leaves the cache as it was exactly if what has been
written stood there. -/
theorem failed_agrees_iff (hChanges : info.changes = .ok changes) (error : ApiError) :
    AdminAgreed world
        (world.withNodes (updateCache world.cache.nodes node.devEui (reached answer changes))) id
        (.error error) ↔
      ∀ addr, Leads world.cache.nodes node.devEui addr →
        ∀ field, ∀ value ∈ lastChange (reached answer changes) field,
          world.cache.nodes.node addr field = field.codec.toArgs value := by
  have hAssigns : Assigns (reached answer changes) := fun change hChange =>
    assigns_changes hChanges change (List.takeWhile_subset _ hChange)
  have hSame : ∀ nodes, ((world.withNodes nodes).rows = world.rows ∧
      (world.withNodes nodes).cache = world.cache) ↔ nodes = world.cache.nodes :=
    fun nodes => ⟨fun h => congrArg Cache.nodes h.2, fun h => ⟨rfl, by rw [h]; rfl⟩⟩
  rw [AdminAgreed, hSame, updateCache_eq (written_of_assigns hAssigns),
    onHash_eq_self_iff]
  exact forall₂_congr fun addr _ => overwrite_eq_self_iff

/-- The only row of the device after an update that succeeds. -/
theorem assigned_row (hKeys : world.rows.Unique) (hNode : node ∈ world.rows.loraNodes)
    {row : DeviceLoraNodeModel} (hRow : row ∈ (assignRows world.rows node changes).loraNodes)
    (hDevice : row.deviceId = node.deviceId) : row = changes.foldl assign node := by
  obtain ⟨before, hBefore, rfl⟩ := List.mem_map.mp hRow
  split_ifs at hDevice ⊢ with hSame
  · rfl
  · rw [List.inj_on_of_nodup_map hKeys.nodeDevices hBefore hNode hDevice] at hSame
    exact absurd rfl hSame

/-- The record of the node after an update that succeeds. -/
theorem assigned_hash (hChanges : info.changes = .ok changes) :
    (assignedWorld world node changes).nodeHash (changes.foldl assign node) =
      if Leads world.cache.nodes node.devEui node.devAddr then
        overwrite NodeField.codec info.asked (world.nodeHash node)
      else world.nodeHash node := by
  obtain ⟨-, -, hAddr⟩ := foldl_assign_keys changes node
  rw [World.nodeHash, hAddr, ← lastChange_changes hChanges]
  change (updateCache world.cache.nodes node.devEui changes).node node.devAddr = _
  rw [updateCache_eq (written_of_assigns (assigns_changes hChanges))]
  split_ifs with hLeads
  · exact node_onHash_of_leads hLeads
  · exact node_onHash_of_not_leads hLeads

/-- After an update that succeeds row and record agree exactly if the record is
the one that was written, or has the values already. -/
theorem assigned_agrees_iff (hKeys : world.rows.Unique) (hDevice : device ∈ world.rows.devices)
    (hNode : node ∈ world.rows.loraNodes) (hId : node.deviceId = device.id)
    (hChanges : info.changes = .ok changes) :
    AdminAgreed world (assignedWorld world node changes) device.id
        (.ok { info with key := none }) ↔
      ((world.nodeHash node).Present →
        world.cache.nodes.nodeEui node.devEui = some node.devAddr ∨
          Holds NodeField.codec info.asked (world.nodeHash node)) := by
  have hAssigns := assigns_changes hChanges
  obtain ⟨hNodeId, hDeviceId, -⟩ := foldl_assign_keys changes node
  have hHash := @assigned_hash world info node changes hChanges
  constructor
  · intro hAgreed hPresent
    by_cases hEui : world.cache.nodes.nodeEui node.devEui = some node.devAddr
    · exact .inl hEui
    · rw [if_neg fun h => hEui h.1] at hHash
      have hRow : changes.foldl assign node ∈ (assignRows world.rows node changes).loraNodes :=
        List.mem_map.mpr ⟨node, hNode, if_pos rfl⟩
      refine .inr fun field value hAsked => ?_
      have hField := ((hAgreed device hDevice rfl).1 _ hRow (hDeviceId.trans hId) field value
        hAsked).2
      rw [hHash] at hField
      exact hField hPresent
  · intro hSuits found hFound hSame
    refine ⟨fun row hRow hRowId field value hAsked => ?_, fun _ _ _ _ hKey => by cases hKey⟩
    obtain rfl := assigned_row hKeys hNode hRow (hRowId.trans hId.symm)
    have hAskedField : info.asked field = some value := hAsked
    constructor
    · rw [get_foldl_assign hAssigns, lastChange_changes hChanges, hAskedField, Option.getD_some]
    · rw [hHash]
      split_ifs with hLeads
      · intro _
        rw [Reads, overwrite_some hAskedField, NodeField.codec_inverse]
      · intro hPresent
        rcases hSuits hPresent with hEui | hHolds
        · exact absurd ⟨hEui, hPresent⟩ hLeads
        · exact hHolds field value hAsked

/-- An update that fails before has done nothing. -/
theorem putNode_begins (answer : Answers) (world : World) (device : DevicesModel)
    (info : DeviceChange) :
    (∃ error, Admin.putNode answer device info world = some (world, .error error) ∧
      ∀ node changes, ¬Begun answer world device info node changes) ∨
    ∃ node changes, Begun answer world device info node changes := by
  unfold Admin.putNode
  rcases except_cases (answer .findRelated) with ⟨error, hRelated⟩ | ⟨_, hRelated⟩
  · refine .inl ⟨error, bind_error (ofExcept_error hRelated world), fun node changes h => ?_⟩
    cases hRelated.symm.trans h.related
  rw [bind_ok (ofExcept_ok hRelated world), get_bind]
  cases hFound : world.rows.loraNodes.find? fun node => node.deviceId = device.id with
  | none =>
      refine .inl ⟨_, rfl, fun node changes h => ?_⟩
      cases hFound.symm.trans h.found
  | some node =>
      dsimp only
      rcases except_cases (answer .connect) with ⟨error, hConnect⟩ | ⟨_, hConnect⟩
      · refine .inl ⟨error, bind_error (ofExcept_error hConnect world), fun node changes h => ?_⟩
        cases hConnect.symm.trans h.connect
      rw [bind_ok (ofExcept_ok hConnect world)]
      rcases except_cases info.changes with ⟨error, hChanges⟩ | ⟨changes, hChanges⟩
      · refine .inl ⟨error, bind_error (ofExcept_error hChanges world), fun node changes h => ?_⟩
        cases hChanges.symm.trans h.changes
      · exact .inr ⟨node, changes, hRelated, hFound, hConnect, hChanges⟩

/-- An update of a node agrees exactly if what it reaches suits it. -/
theorem putNode_agrees (hKeys : world.rows.Unique) (hDevice : device ∈ world.rows.devices) :
    ∃ after result, Admin.putNode answer device info world = some (after, result) ∧
      (AdminAgreed world after device.id result ↔ ∀ node changes,
        Begun answer world device info node changes →
          NodeSuits answer world info node changes) := by
  rcases putNode_begins answer world device info with
    ⟨error, hRun, hNever⟩ | ⟨node, changes, hBegun⟩
  · refine ⟨world, _, hRun, iff_of_true ⟨rfl, rfl⟩ ?_⟩
    exact fun node changes hBegun => absurd hBegun (hNever node changes)
  · have hOnly : (∀ node changes, Begun answer world device info node changes →
        NodeSuits answer world info node changes) ↔ NodeSuits answer world info node changes := by
      refine ⟨fun h => h node changes hBegun, fun h other others hOther => ?_⟩
      rw [← Option.some.inj (hBegun.found.symm.trans hOther.found),
        ← Except.ok.inj (hBegun.changes.symm.trans hOther.changes)]
      exact h
    have hId : node.deviceId = device.id := by simpa using List.find?_some hBegun.found
    rw [hOnly]
    rcases putNode_cases hKeys hBegun with ⟨hAnswered, hRun⟩ | ⟨hFailed, error, hRun⟩
    · refine ⟨_, _, hRun, ?_⟩
      rw [assigned_agrees_iff hKeys hDevice (List.mem_of_find?_eq_some hBegun.found) hId
        hBegun.changes]
      exact ⟨fun h => ⟨fun _ => h, fun hNot => absurd hAnswered hNot⟩,
        fun h => h.answered hAnswered⟩
    · refine ⟨_, _, hRun, ?_⟩
      rw [failed_agrees_iff hBegun.changes]
      exact ⟨fun h => ⟨fun hAnswered => absurd hAnswered hFailed, fun _ => h⟩,
        fun h => h.failed hFailed⟩

/-! The update of a device of the other protocol, and of all devices. -/

/-- A body without fields agrees with anything. -/
theorem default_agrees (world after : World) (id : Id) :
    AdminAgreed world after id (.ok DeviceChange.default) := by
  refine fun device hDevice hId => ⟨fun node hNode hSame field value hAsked => ?_, ?_⟩
  · cases field <;> cases hAsked
  · exact fun snap hSnap hSame key hKey => by cases hKey

/-- The key that is written is read, if there is a record to write it to. -/
theorem updateSnap_reads (world : World) (eui : Eui) (key : Key) :
    SnapHash.Present ((world.updateSnap eui .key key).cache.snaps eui) →
      SnapField.key.codec.fromValue ((world.updateSnap eui .key key).cache.snaps eui .key) =
        some key := by
  unfold World.updateSnap
  split_ifs with hPresent
  · intro _
    dsimp only
    rw [Function.update_self, Function.update_self]
    exact snapSchema.inverse .key key
  · exact fun h => absurd h hPresent

/-- The record of such a device is kept apart from its row. -/
theorem updateSnap_rows (world : World) (eui : Eui) (key : Key) :
    (world.updateSnap eui .key key).rows = world.rows := by
  unfold World.updateSnap
  split_ifs <;> rfl

/-- The row keeps its key, so that it has to be the one asked for. -/
theorem snap_agrees_iff (hKeys : world.rows.Unique) (hDevice : device ∈ world.rows.devices)
    {text : Management.Text Key} {key : Key} (hText : info.key = some text)
    (hParsed : text.parsed = some key) :
    AdminAgreed world (world.updateSnap device.eui .key key) device.id
        (.ok { DeviceChange.default with key := info.key }) ↔
      ∀ snap ∈ world.rows.snaps, snap.deviceId = device.id → snap.key = key := by
  have hAsked : info.key.bind (fun text => text.parsed) = some key := by rw [hText]; exact hParsed
  rw [AdminAgreed, updateSnap_rows]
  constructor
  · exact fun h snap hSnap hId => ((h device hDevice rfl).2 snap hSnap hId key hAsked).1
  · intro h found hFound hSame
    obtain rfl := List.inj_on_of_nodup_map hKeys.deviceIds hFound hDevice hSame
    refine ⟨fun node _ _ field value hNone => ?_, fun snap hSnap hId other hOther => ?_⟩
    · cases field <;> cases hNone
    · obtain rfl : key = other := Option.some.inj (hAsked.symm.trans hOther)
      exact ⟨h snap hSnap hId, updateSnap_reads world found.eui key⟩

/-- An update of such a device agrees exactly if the row has the key already. -/
theorem putSnap_agrees (hKeys : world.rows.Unique) (hDevice : device ∈ world.rows.devices) :
    ∃ after result, Admin.putSnap answer device info world = some (after, result) ∧
      (AdminAgreed world after device.id result ↔
        (answer .findRelated = .ok () → answer .connect = .ok () → answer .cacheSnap = .ok () →
          ∀ key ∈ info.askedKey, ∀ snap ∈ world.rows.snaps, snap.deviceId = device.id →
            snap.key = key)) := by
  unfold Admin.putSnap
  rcases except_cases (answer .findRelated) with ⟨error, hRelated⟩ | ⟨_, hRelated⟩
  · refine ⟨world, _, bind_error (ofExcept_error hRelated world), iff_of_true ⟨rfl, rfl⟩ ?_⟩
    exact fun h => by cases hRelated.symm.trans h
  rw [bind_ok (ofExcept_ok hRelated world), get_bind]
  cases hFound : world.rows.snaps.find? fun snap => snap.deviceId = device.id with
  | none =>
      refine ⟨world, _, rfl, iff_of_true ⟨rfl, rfl⟩ fun _ _ _ key _ snap hSnap hId => ?_⟩
      have hNone := List.find?_eq_none.mp hFound snap hSnap
      exact absurd hId (by simpa using hNone)
  | some snap =>
      dsimp only
      cases hText : info.key with
      | none =>
          refine ⟨world, _, rfl, iff_of_true (default_agrees world world device.id) ?_⟩
          intro _ _ _ key hKey
          rw [DeviceChange.askedKey, hText] at hKey
          cases hKey
      | some text =>
          dsimp only
          cases hParsed : text.parsed with
          | none =>
              refine ⟨world, _, rfl, iff_of_true ⟨rfl, rfl⟩ fun _ _ _ key hKey => ?_⟩
              rw [DeviceChange.askedKey, hText, Option.bind_some, hParsed] at hKey
              cases hKey
          | some key =>
              dsimp only
              rcases except_cases (answer .connect) with ⟨error, hConnect⟩ | ⟨_, hConnect⟩
              · refine ⟨world, _, bind_error (ofExcept_error hConnect world),
                  iff_of_true ⟨rfl, rfl⟩ ?_⟩
                exact fun _ h => by cases hConnect.symm.trans h
              rw [bind_ok (ofExcept_ok hConnect world)]
              rcases except_cases (answer .cacheSnap) with ⟨error, hCache⟩ | ⟨_, hCache⟩
              · refine ⟨world, _, bind_error (ofExcept_error hCache world),
                  iff_of_true ⟨rfl, rfl⟩ ?_⟩
                exact fun _ _ h => by cases hCache.symm.trans h
              rw [bind_ok (ofExcept_ok hCache world)]
              refine ⟨_, _, rfl, ?_⟩
              rw [← hText, snap_agrees_iff hKeys hDevice hText hParsed]
              have hAsked : info.askedKey = some key := by
                rw [DeviceChange.askedKey, hText, Option.bind_some, hParsed]
              constructor
              · intro h _ _ _ other hOther
                rw [← Option.some.inj (hAsked.symm.trans hOther)]
                exact h
              · exact fun h => h hRelated hConnect hCache key hAsked

/-- A node is found by its device. -/
theorem find_node (hKeys : world.rows.Unique) (hNode : node ∈ world.rows.loraNodes)
    (hId : node.deviceId = device.id) :
    (world.rows.loraNodes.find? fun node => node.deviceId = device.id) = some node := by
  cases hFound : world.rows.loraNodes.find? fun node => node.deviceId = device.id with
  | none =>
      have hNone := List.find?_eq_none.mp hFound node hNode
      exact absurd hId (by simpa using hNone)
  | some found =>
      have hSame : found.deviceId = device.id := by simpa using List.find?_some hFound
      rw [List.inj_on_of_nodup_map hKeys.nodeDevices (List.mem_of_find?_eq_some hFound) hNode
        (hSame.trans hId.symm)]

/-- What a request has to suit, for the type of the device. -/
theorem adminSuits_iff (hKeys : world.rows.Unique) (hDevice : device ∈ world.rows.devices)
    (hFind : answer .findDevice = .ok ()) :
    AdminSuits answer world device.id info ↔
      match device.deviceType with
      | .LoRaNode => ∀ node changes, Begun answer world device info node changes →
          NodeSuits answer world info node changes
      | .Snap => answer .findRelated = .ok () → answer .connect = .ok () →
          answer .cacheSnap = .ok () → ∀ key ∈ info.askedKey, ∀ snap ∈ world.rows.snaps,
            snap.deviceId = device.id → snap.key = key
      | .LoRaGate | .MQTT => True := by
  have hOnly : ∀ other ∈ world.rows.devices, other.id = device.id → other = device :=
    fun other hOther hSame => List.inj_on_of_nodup_map hKeys.deviceIds hOther hDevice hSame
  have hVacuous : device.deviceType ≠ .LoRaNode → device.deviceType ≠ .Snap →
      AdminSuits answer world device.id info := by
    refine fun hNode hSnap =>
      ⟨fun other hOther hSame hType => ?_, fun other hOther hSame hType => ?_⟩
    · rw [hOnly other hOther hSame] at hType
      exact absurd hType hNode
    · rw [hOnly other hOther hSame] at hType
      exact absurd hType hSnap
  cases hType : device.deviceType with
  | LoRaNode =>
      constructor
      · intro hSuits node changes hBegun
        have hId : node.deviceId = device.id := by simpa using List.find?_some hBegun.found
        exact hSuits.node device hDevice rfl hType ⟨hFind, hBegun.related, hBegun.connect⟩ node
          (List.mem_of_find?_eq_some hBegun.found) hId changes hBegun.changes
      · refine fun h => ⟨fun _ _ _ _ hStarted node hNode hId changes hChanges => ?_,
          fun other hOther hSame hSnap => ?_⟩
        · exact h node changes
            ⟨hStarted.2.1, find_node hKeys hNode hId, hStarted.2.2, hChanges⟩
        · rw [hOnly other hOther hSame, hType] at hSnap
          cases hSnap
  | Snap =>
      constructor
      · exact fun hSuits hRelated hConnect hCache =>
          hSuits.snap device hDevice rfl hType ⟨hFind, hRelated, hConnect⟩ hCache
      · refine fun h => ⟨fun other hOther hSame hNode => ?_,
          fun _ _ _ _ hStarted hCache => h hStarted.2.1 hStarted.2.2 hCache⟩
        rw [hOnly other hOther hSame, hType] at hNode
        cases hNode
  | LoRaGate => exact iff_of_true (hVacuous (by simp [hType]) (by simp [hType])) trivial
  | MQTT => exact iff_of_true (hVacuous (by simp [hType]) (by simp [hType])) trivial

/-- The update of a device always returns, and rows and cache agree exactly if
the request suits the device. -/
theorem putDeviceInfo_agrees_iff (hKeys : world.rows.Unique) :
    ∃ after result, Admin.putDeviceInfo answer id info world = some (after, result) ∧
      (AdminAgreed world after id result ↔ AdminSuits answer world id info) := by
  unfold Admin.putDeviceInfo
  rcases except_cases (answer .findDevice) with ⟨error, hFind⟩ | ⟨_, hFind⟩
  · have hNever : ¬Started answer := fun hStarted => by cases hFind.symm.trans hStarted.1
    refine ⟨world, _, bind_error (ofExcept_error hFind world), iff_of_true ⟨rfl, rfl⟩ ?_⟩
    exact ⟨fun _ _ _ _ h => absurd h hNever, fun _ _ _ _ h => absurd h hNever⟩
  rw [bind_ok (ofExcept_ok hFind world), get_bind]
  cases hFound : world.findDevice id with
  | none =>
      have hNone : ∀ device ∈ world.rows.devices, device.id ≠ id := fun device hDevice => by
        simpa using List.find?_eq_none.mp hFound device hDevice
      refine ⟨world, _, rfl, iff_of_true ⟨rfl, rfl⟩ ?_⟩
      exact ⟨fun device hDevice h => absurd h (hNone device hDevice),
        fun device hDevice h => absurd h (hNone device hDevice)⟩
  | some device =>
      have hDevice : device ∈ world.rows.devices := List.mem_of_find?_eq_some hFound
      obtain rfl : device.id = id := by simpa using List.find?_some hFound
      rw [adminSuits_iff hKeys hDevice hFind]
      dsimp only
      cases device.deviceType with
      | LoRaNode => exact putNode_agrees hKeys hDevice
      | Snap => exact putSnap_agrees hKeys hDevice
      | LoRaGate => exact ⟨world, _, rfl, iff_of_true (default_agrees world world _) trivial⟩
      | MQTT => exact ⟨world, _, rfl, iff_of_true (default_agrees world world _) trivial⟩

end

/-- Every statement succeeds. -/
def allAnswer : Answers := fun _ => .ok ()

def regionChange : DeviceChange :=
  { DeviceChange.default with region := some ⟨"EU868", some .EU868⟩ }

/-- A new region comes to the row and to the record. -/
theorem admin_region_agrees :
    ∃ after result, Admin.putDeviceInfo allAnswer ⟨1⟩ regionChange fieldWorld =
      some (after, result) ∧ AdminAgreed fieldWorld after ⟨1⟩ result := by
  obtain ⟨after, result, hRun, hAgreed⟩ :=
    @putDeviceInfo_agrees_iff allAnswer fieldWorld ⟨1⟩ regionChange fieldWorld_unique
  refine ⟨after, result, hRun, hAgreed.mpr ⟨?_, fun _ _ _ _ _ _ key hKey => by cases hKey⟩⟩
  intro device _ _ _ _ node hNode _ changes _
  have hEuis : (fieldWorld.rows.loraNodes.all fun node =>
      fieldWorld.cache.nodes.nodeEui node.devEui = some node.devAddr) = true := by decide +kernel
  refine ⟨fun _ _ => .inl (of_decide_eq_true (List.all_eq_true.mp hEuis node hNode)),
    fun hNot => ?_⟩
  exact absurd ⟨fun _ _ => rfl, fun _ => rfl⟩ hNot

def keyChange : DeviceChange :=
  { DeviceChange.default with
    key := some ⟨"01010101010101010101010101010101", some fieldKey⟩ }

/-- The key that is echoed for a device of type Snap is not in its row. -/
theorem admin_key_disagrees :
    ∃ after body, Admin.putDeviceInfo allAnswer ⟨1⟩ keyChange (smallWorld .Snap) =
        some (after, .ok body) ∧ ¬AdminAgreed (smallWorld .Snap) after ⟨1⟩ (.ok body) := by
  have hEcho : (Admin.putDeviceInfo allAnswer ⟨1⟩ keyChange (smallWorld .Snap)).map
      (fun final => final.2.toOption.bind DeviceChange.askedKey) = some (some fieldKey) := by
    decide +kernel
  obtain ⟨⟨after, result⟩, hRun, hKey⟩ := Option.map_eq_some_iff.mp hEcho
  have hSnap :
      (((Admin.putDeviceInfo allAnswer ⟨1⟩ keyChange).after (smallWorld .Snap)).rows.snaps.any
      fun snap => snap.deviceId = ⟨1⟩ ∧ snap.key ≠ fieldKey) = true := by decide +kernel
  have hDevice : ((smallWorld .Snap).rows.devices.any fun device => device.id = ⟨1⟩) = true := by
    decide +kernel
  rw [after_eq hRun] at hSnap
  obtain ⟨snap, hMem, hSame⟩ := List.any_eq_true.mp hSnap
  obtain ⟨hId, hOther⟩ := of_decide_eq_true hSame
  obtain ⟨device, hDeviceMem, hDeviceId⟩ := List.any_eq_true.mp hDevice
  cases result with
  | error error => cases hKey
  | ok body =>
      refine ⟨after, body, hRun, fun hAgreed => hOther ?_⟩
      exact ((hAgreed device hDeviceMem (of_decide_eq_true hDeviceId)).2 snap hMem hId fieldKey
        hKey).1

end SnapEmu.Server
