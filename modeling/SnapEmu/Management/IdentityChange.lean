import SnapEmu.Management.NodeIndex
import SnapEmu.Semantics.Run

/-! Runs of creations, updates and deletions of LoRa nodes, and which of them
keep the cache an index of the rows. -/
namespace SnapEmu.Management

open Device User Semantics TableIndex

/-- A device that the ownership query finds is a row of the database. -/
theorem queryOne_ok {state : State} {userId deviceId : Id} {device : DevicesModel}
    (h : queryOne state userId deviceId = .ok device) :
    state.findDevice deviceId = some device := by
  unfold queryOne at h
  dsimp only at h
  split_ifs at h
  cases hDevice : state.findDevice deviceId with
  | none =>
      rw [hDevice] at h
      cases h
  | some found =>
      rw [hDevice] at h
      rw [Except.ok.inj h]

section

-- the service of predefined devices, asked for a whole description
variable (queryEui : String → Except ApiError (Option PredefineDeviceInfo))

inductive NodeOperation where
  | createNode (userId : Id) (req : ReqJoinNode) (draws : List LoRaAddr) (assigned : Assigned)
  | updateBlue (userId : Id) (req : ReqLoraNode) (assigned : Assigned)
  | deleteNode (deviceId : Id)

/-- An operation that is refused, or still draws an address, changes nothing. -/
def nodeStep (state : State) : NodeOperation → State
  | .createNode userId req draws assigned =>
      ((createNode queryEui state userId req draws assigned).map Prod.fst).getD state
  | .updateBlue userId req assigned =>
      (updateBlue (predefined queryEui) state userId req assigned).1
  | .deleteNode deviceId => (deleteNode state deviceId).1

/-- An update of a device that is not refused keeps both identifiers. -/
def UpdateKeeps (state : State) (userId : Id) (req : ReqLoraNode) : Prop :=
  ∀ deviceId ∈ req.device, ∀ device, queryOne state userId deviceId = .ok device →
    ∀ node ∈ state.findNode deviceId, ∀ blue ∈ req.blueParm,
      (∃ next, blueModel (predefined queryEui) state node blue = .ok next) →
        blue.devEui = node.devEui ∧ blue.devAddr = node.devAddr

/-- The node keeps its EUI and its address. -/
def IdentityKept (state : State) : NodeOperation → Prop
  | .createNode userId req _ _ => UpdateKeeps queryEui state userId req.toReqLoraNode
  | .updateBlue userId req _ => UpdateKeeps queryEui state userId req
  | .deleteNode _ => True

/-- A creation keeps the index: the keys were free, and the record is written under
them. -/
theorem insertNode_keeps_index {state : State} (hKeyed : Keyed state) (hRefines : Refines state)
    (node : LoraNodeDeviceDefault) (userId : Id) (assigned : Assigned) :
    Keyed (insertNode state node userId assigned).1 ∧
      Refines (insertNode state node userId assigned).1 := by
  rcases insertNode_cases state node userId assigned with hSame | hInserted
  · rw [hSame]
    exact ⟨hKeyed, hRefines⟩
  · exact ⟨hInserted.keyed hKeyed, hInserted.refines hKeyed hRefines⟩

/-- An identity change keeps the index exactly when it moves no registered node. -/
theorem updateBlue_keeps_index {state : State} (hKeyed : Keyed state) (hRefines : Refines state)
    (userId : Id) (req : ReqLoraNode) (assigned : Assigned) :
    Keyed (updateBlue (predefined queryEui) state userId req assigned).1 ∧
      (Refines (updateBlue (predefined queryEui) state userId req assigned).1 ↔
        UpdateKeeps queryEui state userId req) := by
  unfold updateBlue UpdateKeeps
  cases hReq : req.device with
  | none =>
      simp only [Option.mem_def, reduceCtorEq, false_implies, implies_true, iff_true]
      cases hNode : (do validEui state req.eui; withBluetooth req) with
      | error error => exact ⟨hKeyed, hRefines⟩
      | ok node => exact insertNode_keeps_index hKeyed hRefines node userId assigned
  | some deviceId =>
      simp only [Option.mem_def, Option.some.injEq, forall_eq']
      cases hDevice : queryOne state userId deviceId with
      | error error => simpa using ⟨hKeyed, hRefines⟩
      | ok device =>
          simp only [Except.ok.injEq, forall_eq']
          cases hNode : state.findNode deviceId with
          | none => simpa using ⟨hKeyed, hRefines⟩
          | some node =>
              cases hBlue : req.blueParm with
              | none => simpa using ⟨hKeyed, hRefines⟩
              | some blue =>
                  simp only [Option.some.injEq, forall_eq']
                  cases hModel : blueModel (predefined queryEui) state node blue with
                  | error error => simpa using ⟨hKeyed, hRefines⟩
                  | ok next =>
                      simp only [Except.ok.injEq, exists_eq', true_implies]
                      obtain ⟨hMem, hId⟩ := findNode_some hNode
                      have hRenewed := blueModel_renewed hModel
                      refine ⟨hKeyed.updateNode hMem hRenewed, ?_⟩
                      rw [← hRenewed.devEui, ← hRenewed.devAddr]
                      constructor
                      · intro hAfter
                        by_contra hMoved
                        exact not_refines_updateNode hKeyed hRefines hMem hRenewed device
                          (not_and.mp hMoved) hAfter
                      · intro hSame
                        have hFound : state.findDevice next.deviceId = some device := by
                          rw [hRenewed.deviceId, hId]
                          exact queryOne_ok hDevice
                        exact hRefines.updateNode hKeyed hMem hRenewed hFound hSame.1 hSame.2

/-- Each operation keeps the index exactly under its own condition. -/
theorem nodeStep_keeps_index {state : State} (hKeyed : Keyed state) (hRefines : Refines state)
    (operation : NodeOperation) :
    Keyed (nodeStep queryEui state operation) ∧
      (Refines (nodeStep queryEui state operation) ↔
        IdentityKept queryEui state operation) := by
  cases operation with
  | createNode userId req draws assigned =>
      simp only [nodeStep, IdentityKept, createNode]
      cases hBlue : req.blueParm with
      | some blue =>
          simp only [Option.isSome_some, if_true, Option.map_some, Option.getD_some]
          exact updateBlue_keeps_index queryEui hKeyed hRefines userId req.toReqLoraNode assigned
      | none =>
          have hKept : UpdateKeeps queryEui state userId req.toReqLoraNode := by
            intro _ _ _ _ _ _ blue hMem
            rw [hBlue] at hMem
            cases hMem
          simp only [Option.isSome_none, Bool.false_eq_true, if_false, hKept, iff_true]
          rcases withDefault queryEui state req draws with _ | (error | node)
          · exact ⟨hKeyed, hRefines⟩
          · exact ⟨hKeyed, hRefines⟩
          · exact insertNode_keeps_index hKeyed hRefines node userId assigned
  | updateBlue userId req assigned =>
      exact updateBlue_keeps_index queryEui hKeyed hRefines userId req assigned
  | deleteNode deviceId =>
      simp only [nodeStep, IdentityKept, deleteNode, iff_true]
      cases hNode : state.findNode deviceId with
      | none => exact ⟨hKeyed, hRefines⟩
      | some node =>
          exact ⟨hKeyed.removeNode node _, hRefines.removeNode hKeyed (findNode_some hNode).1⟩

/-- Empty stores, and the authorities that users will have. -/
def State.withAuthority (authority : List (Id × Id)) : State :=
  { State.empty with authority := authority }

/-- A database without nodes has its keys unique. -/
theorem keyed_withAuthority (authority : List (Id × Id)) :
    Keyed (State.withAuthority authority) where
  ids := List.nodup_nil
  deviceIds := List.nodup_nil
  devEuis := List.nodup_nil
  devAddrs := List.nodup_nil
  devices := fun _ hNode => nomatch hNode

/-- A database without nodes agrees with the empty cache. -/
theorem refines_withAuthority (authority : List (Id × Id)) :
    Refines (State.withAuthority authority) where
  euis := indexes_nil _ _
  hashes := by
    have hNone : hashes (State.withAuthority authority).store = fun _ => none := by
      funext addr
      exact if_neg not_present_empty
    rw [hNone]
    exact indexes_nil _ _

/-- The cache is an index of the rows throughout a run exactly if no update
gives a node another EUI or another address. -/
theorem node_index_iff (authority : List (Id × Id)) (operations : List NodeOperation) :
    Along (nodeStep queryEui) Refines (State.withAuthority authority) operations ↔
      Meets (nodeStep queryEui) (IdentityKept queryEui) (State.withAuthority authority)
        operations := by
  refine along_iff_meets ?_ ?_ _ operations (keyed_withAuthority authority)
    (refines_withAuthority authority)
  · intro state operation hKeyed hRefines _
    exact (nodeStep_keeps_index queryEui hKeyed hRefines operation).1
  · intro state operation hKeyed hRefines
    exact (nodeStep_keeps_index queryEui hKeyed hRefines operation).2

end

/-- A node with the identifiers given, as read over Bluetooth. -/
def sensor (devEui : Eui) (devAddr : LoRaAddr) : BluetoothNode where
  joinType := some 1
  jionType := none
  adr := 1
  retry := 3
  dutyCycle := 30
  devEui := devEui
  appEui := ⟨7⟩
  appKey := ⟨Vector.replicate 16 1⟩
  devAddr := devAddr
  nwkSkey := ⟨Vector.replicate 16 2⟩
  appSkey := ⟨Vector.replicate 16 3⟩
  rx1Delay := 5
  rx2Dr := 0
  rx2Freq := 8695250

def sensorRequest (device : Option Id) (devEui : Eui) : ReqLoraNode where
  device := device
  name := "sensor"
  eui := ⟨1⟩
  description := ""
  region := .EU868
  blueName := none
  blueParm := some (sensor devEui ⟨17⟩)

/-- A node is created over Bluetooth, and then read again under another EUI. -/
def movedSensor : List NodeOperation :=
  [.updateBlue ⟨5⟩ (sensorRequest none ⟨1⟩) ⟨⟨10⟩, ⟨20⟩, ⟨0⟩⟩,
    .updateBlue ⟨5⟩ (sensorRequest (some ⟨10⟩) ⟨2⟩) ⟨⟨11⟩, ⟨21⟩, ⟨0⟩⟩]

theorem node_index_stale :
    ¬Along (nodeStep fun _ => .ok none) Refines (State.withAuthority [(⟨5⟩, ⟨10⟩)])
      movedSensor := by
  intro hAlong
  have hTaken : ((run (nodeStep fun _ => .ok none) (State.withAuthority [(⟨5⟩, ⟨10⟩)])
      movedSensor).store.nodeEui ⟨1⟩).isSome := by decide
  have hRows : (run (nodeStep fun _ => .ok none) (State.withAuthority [(⟨5⟩, ⟨10⟩)])
      movedSensor).loraNodes.all (fun node => node.devEui ≠ ⟨1⟩) = true := by decide
  exact Indexes.not_of_stale hTaken
    (fun row hRow => of_decide_eq_true (List.all_eq_true.mp hRows row hRow)) (hAlong 2).euis

end SnapEmu.Management
