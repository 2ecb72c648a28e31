import SnapEmu.Management.NodeEdit

/-! The update of a device by its owner: what the request asks for, and what the
code writes to the rows and to the record. -/
namespace SnapEmu.Management

open Device User Semantics HashRecord

namespace DeviceModify

/-- A reset, whatever its value, comes after a new script. -/
def newScript (info : DeviceModify) : Option (Option Id) :=
  if info.resetScript.isSome then some none else info.script.map some

/-- The row of the device that the request asks for. -/
def editDevice (info : DeviceModify) (row : DevicesModel) : DevicesModel :=
  { row with
    name := info.name.getD row.name
    description := info.description.getD row.description
    period := info.period.getD row.period
    script := info.newScript.getD row.script
    productId := info.productId.or row.productId }

/-- The row of the node that the request asks for. -/
def editNode (info : DeviceModify) (row : DeviceLoraNodeModel) : DeviceLoraNodeModel :=
  { row with
    region := info.region.getD row.region
    classC := info.classC.getD row.classC
    joinType := info.joinType.getD row.joinType
    appEui := info.appEui.getD row.appEui
    appKey := info.appKey.getD row.appKey
    nwkSkey := info.nwkSkey.getD row.nwkSkey
    appSkey := info.appSkey.getD row.appSkey }

/-- The fields of the record that the request asks to change. -/
def asked (info : DeviceModify) : (field : NodeField) → Option field.Value
  | .region => info.region
  | .classC => info.classC
  | .joinType => info.joinType
  | .appEui => info.appEui
  | .appKey => info.appKey
  | .nwkSkey => info.nwkSkey
  | .appSkey => info.appSkey
  | .period => info.period
  | .script => info.newScript
  | _ => none

/-- A script is set for nodes only, and only if the row has another one. -/
def setsScript (info : DeviceModify) (device : DevicesModel) : Prop :=
  device.deviceType = .LoRaNode ∧ device.script ≠ info.script

instance (info : DeviceModify) (device : DevicesModel) : Decidable (info.setsScript device) :=
  inferInstanceAs (Decidable (_ ∧ _))

/-- What is written to the script of the record. -/
def writtenScript (info : DeviceModify) (device : DevicesModel) :
    (field : NodeField) → Option field.Value
  | .script =>
      if info.resetScript.isSome then some none
      else if info.setsScript device then info.script.map some
      else none
  | _ => none

/-- What is written to the other fields of the record: the application key takes
the application session key. -/
def writtenFields (info : DeviceModify) : (field : NodeField) → Option field.Value
  | .region => info.region
  | .classC => info.classC
  | .joinType => info.joinType
  | .appEui => info.appEui
  | .appKey => info.appSkey.or info.appKey
  | .nwkSkey => info.nwkSkey
  | _ => none

/-- The record of a node is written field by field, unless nothing is left of it
without its script. -/
def editHash (info : DeviceModify) (device : DevicesModel) (hash : NodeHash) : NodeHash :=
  let cleared : NodeHash := overwrite NodeField.codec (info.writtenScript device) hash
  if device.deviceType = .LoRaNode ∧ cleared.Present then
    overwrite NodeField.codec info.writtenFields cleared
  else cleared

end DeviceModify

section

variable {info : DeviceModify} {device : DevicesModel}

/-- What the edit writes to the cache, field by field, is the last change of its list.
-/
theorem lastChange_cacheChanges (info : DeviceModify) :
    lastChange info.cacheChanges = info.writtenFields := by
  funext field
  simp only [DeviceModify.cacheChanges, lastChange_append]
  cases field with
  | region | classC | joinType | appEui | nwkSkey =>
      simp [lastChange_change_self, lastChange_change_of_ne, DeviceModify.writtenFields]
  | appKey => simp [lastChange_change_self, lastChange_change_of_ne, DeviceModify.writtenFields]
  | _ => simp [lastChange_change_of_ne, DeviceModify.writtenFields]

theorem assigns_cacheChanges (info : DeviceModify) : Assigns info.cacheChanges := by
  simp only [DeviceModify.cacheChanges, assigns_append]
  refine ⟨⟨⟨⟨⟨⟨?_, ?_⟩, ?_⟩, ?_⟩, ?_⟩, ?_⟩, ?_⟩ <;> exact assigns_change rfl _

/-- The changes to the row, applied in turn, are the edited row. -/
theorem foldl_rowChanges (info : DeviceModify) (node : DeviceLoraNodeModel) :
    info.rowChanges.foldl assign node = info.editNode node := by
  have hRegion : ∀ node, (change .region info.region).foldl assign node =
      { node with region := info.region.getD node.region } := by
    intro node; cases info.region <;> rfl
  have hClassC : ∀ node, (change .classC info.classC).foldl assign node =
      { node with classC := info.classC.getD node.classC } := by
    intro node; cases info.classC <;> rfl
  have hJoinType : ∀ node, (change .joinType info.joinType).foldl assign node =
      { node with joinType := info.joinType.getD node.joinType } := by
    intro node; cases info.joinType <;> rfl
  have hAppEui : ∀ node, (change .appEui info.appEui).foldl assign node =
      { node with appEui := info.appEui.getD node.appEui } := by
    intro node; cases info.appEui <;> rfl
  have hAppKey : ∀ node, (change .appKey info.appKey).foldl assign node =
      { node with appKey := info.appKey.getD node.appKey } := by
    intro node; cases info.appKey <;> rfl
  have hNwkSkey : ∀ node, (change .nwkSkey info.nwkSkey).foldl assign node =
      { node with nwkSkey := info.nwkSkey.getD node.nwkSkey } := by
    intro node; cases info.nwkSkey <;> rfl
  have hAppSkey : ∀ node, (change .appSkey info.appSkey).foldl assign node =
      { node with appSkey := info.appSkey.getD node.appSkey } := by
    intro node; cases info.appSkey <;> rfl
  simp only [DeviceModify.rowChanges, List.foldl_append, hRegion, hClassC, hJoinType, hAppEui,
    hAppKey, hNwkSkey, hAppSkey]
  rfl

/-! The script. -/

/-- The script edit writes no other field. -/
theorem writtenScript_of_ne {field : NodeField} (hField : field ≠ .script) :
    info.writtenScript device field = none := by
  cases field <;> first | rfl | exact absurd rfl hField

theorem writtenScript_reset (hReset : info.resetScript.isSome) :
    info.writtenScript device .script = some none := if_pos hReset

theorem writtenScript_set (hReset : ¬info.resetScript.isSome) (hSets : info.setsScript device)
    {script : Id} (hScript : info.script = some script) :
    info.writtenScript device .script = some (some script) := by
  simp only [DeviceModify.writtenScript, if_neg hReset, if_pos hSets, hScript, Option.map_some]

theorem writtenScript_none (hReset : ¬info.resetScript.isSome)
    (hKept : info.script = none ∨ ¬info.setsScript device) :
    info.writtenScript device .script = none := by
  simp only [DeviceModify.writtenScript, if_neg hReset]
  rcases hKept with hNone | hSets
  · rw [hNone, Option.map_none, ite_self]
  · exact if_neg hSets

/-- A hash with one entry written, as the change of that entry. -/
theorem overwrite_script {arg : Option RedisArg} {value : Option Id}
    (hWritten : info.writtenScript device .script = some value)
    (hArg : NodeField.script.codec.toArgs value = arg) (hash : NodeHash) :
    overwrite NodeField.codec (info.writtenScript device) hash =
      Function.update hash .script arg := by
  funext field
  by_cases hField : field = .script
  · subst hField
    rw [overwrite_some hWritten, Function.update_self, hArg]
  · rw [overwrite_none (writtenScript_of_ne hField), Function.update_of_ne hField]

/-- An edit that writes no script leaves the hash as it is. -/
theorem overwrite_no_script (hWritten : info.writtenScript device .script = none)
    (hash : NodeHash) : overwrite NodeField.codec (info.writtenScript device) hash = hash := by
  funext field
  by_cases hField : field = .script
  · subst hField
    exact overwrite_none hWritten
  · exact overwrite_none (writtenScript_of_ne hField)

/-- The script of the row after the request. -/
def DeviceModify.rowScript (info : DeviceModify) (device : DevicesModel) : Option Id :=
  if info.resetScript.isSome then none
  else if device.deviceType = .LoRaNode then info.script.or device.script
  else device.script

/-- The reset after the edit ends in one overwriting of the hash, whichever branch was
taken. -/
theorem resetScript_eq {state : State} {active : DevicesModel} {script : Option Id}
    (store : NodeStore)
    (hStore : ¬info.resetScript.isSome → store =
      onHash state.store device.eui (overwrite NodeField.codec (info.writtenScript device)))
    (hReset : info.resetScript.isSome → NodeInfo.resetByEui store device.eui .script =
      onHash state.store device.eui (overwrite NodeField.codec (info.writtenScript device)))
    (hScript : ¬info.resetScript.isSome → script = info.rowScript device) :
    resetScript { state with store := store } device { active with script := script } info =
      ({ state with
          store := onHash state.store device.eui
            (overwrite NodeField.codec (info.writtenScript device)) },
        { active with script := info.rowScript device }) := by
  unfold resetScript
  split_ifs with hSome
  · rw [hReset hSome, DeviceModify.rowScript, if_pos hSome]
  · rw [← hStore hSome, hScript hSome]

/-- An update that does not fail writes the script of the row, and of the record,
once. -/
theorem script_ok {state next : State} {active row : DevicesModel}
    (h : updateScript state device active info = .ok (next, row))
    (hActive : active.script = device.script) :
    resetScript next device row info =
      ({ state with
          store := onHash state.store device.eui
            (overwrite NodeField.codec (info.writtenScript device)) },
        { active with script := info.rowScript device }) := by
  have hRemove : info.resetScript.isSome → ∀ hash : NodeHash,
      overwrite NodeField.codec (info.writtenScript device) hash = hash.remove .script :=
    fun hSome hash => overwrite_script (writtenScript_reset hSome) rfl hash
  -- no new script: the record and the row are as before
  have hKept : info.script = none ∨ ¬info.setsScript device →
      resetScript state device active info =
        ({ state with
            store := onHash state.store device.eui
              (overwrite NodeField.codec (info.writtenScript device)) },
          { active with script := info.rowScript device }) := by
    intro hKept
    refine resetScript_eq state.store (fun hSome => ?_) (fun hSome => ?_) fun hSome => ?_
    · rw [funext (overwrite_no_script (writtenScript_none hSome hKept))]
      exact (onHash_id _ _).symm
    · rw [resetByEui_eq, funext (hRemove hSome)]
    · rw [DeviceModify.rowScript, if_neg hSome, hActive]
      split_ifs with hNode
      · rcases hKept with hNone | hSets
        · rw [hNone, Option.none_or]
        · have hSame : device.script = info.script := not_not.mp fun hNe => hSets ⟨hNode, hNe⟩
          rw [hSame, Option.or_self]
      · rfl
  unfold updateScript at h
  cases hScript : info.script with
  | none =>
      rw [hScript] at h
      cases h
      exact hKept (.inl hScript)
  | some script =>
      have hSame : info.setsScript device ↔
          device.deviceType = .LoRaNode ∧ device.script ≠ some script := by
        rw [← hScript, DeviceModify.setsScript]
      simp only [hScript] at h
      split_ifs at h with hBranch hThere
      · have hSets := hSame.mpr hBranch
        cases h
        refine resetScript_eq _ (fun hSome => ?_) (fun hSome => ?_) fun hSome => ?_
        · rw [updateByEui_eq]
          congr 1
          funext hash
          exact (overwrite_script (writtenScript_set hSome hSets hScript) rfl hash).symm
        · rw [resetByEui_eq, updateByEui_eq, onHash_onHash]
          congr 1
          funext hash
          rw [if_pos (present_set hash rfl), hRemove hSome, set_eq_update hash rfl,
            NodeHash.remove, NodeHash.remove, Function.update_idem]
        · rw [DeviceModify.rowScript, if_neg hSome, if_pos hSets.1, hScript, Option.some_or]
      · cases h
        exact hKept (.inr (hSame.not.mpr hBranch))

/-! The update as a whole. -/

/-- The row of the device after the request; only nodes are renamed. -/
def DeviceModify.writtenDevice (info : DeviceModify) (device : DevicesModel) : DevicesModel :=
  { device with
    productId := info.productId.or device.productId
    period := info.period.getD device.period
    script := info.rowScript device
    name := if device.deviceType = .LoRaNode then info.name.getD device.name else device.name
    description :=
      if device.deviceType = .LoRaNode then info.description.getD device.description
      else device.description }

/-- For a radio node the whole edit is one change of its hash. -/
theorem editHash_node (hNode : device.deviceType = .LoRaNode) (store : NodeStore) :
    updateCache (onHash store device.eui
        (overwrite NodeField.codec (info.writtenScript device))) device.eui info.cacheChanges =
      onHash store device.eui (info.editHash device) := by
  rw [updateCache_eq (written_of_assigns (assigns_cacheChanges info)), onHash_onHash,
    lastChange_cacheChanges]
  congr 1
  funext hash
  simp only [DeviceModify.editHash, hNode, true_and]

/-- For every other device only the script field is written. -/
theorem editHash_other (hNode : device.deviceType ≠ .LoRaNode) :
    info.editHash device = overwrite NodeField.codec (info.writtenScript device) := by
  funext hash
  simp only [DeviceModify.editHash, hNode, false_and, if_false]

variable {state after : State}

/-- A successful edit of a radio node: the row found, and the state left. -/
theorem updateInfo_node (hNode : device.deviceType = .LoRaNode)
    (h : updateInfo state device info = (after, .ok ())) :
    ∃ node, state.findNode device.id = some node ∧
      after = (({ state with
        store := onHash state.store device.eui (info.editHash device) }).updateNode
          (info.editNode node)).updateDevice (info.writtenDevice device) := by
  unfold updateInfo at h
  dsimp only at h
  split at h
  · cases h
  · rename_i next row hScript
    rw [script_ok hScript rfl] at h
    simp only [hNode, reduceCtorEq, false_and, if_false, if_true, updateLoRaNode, State.findNode]
      at h
    cases hFound : state.findNode device.id with
    | none =>
        rw [State.findNode] at hFound
        rw [hFound] at h
        cases h
    | some node =>
        rw [State.findNode] at hFound
        rw [hFound] at h
        cases h
        refine ⟨node, rfl, ?_⟩
        rw [editHash_node hNode, foldl_rowChanges, DeviceModify.writtenDevice, if_pos hNode,
          if_pos hNode, hNode]

/-- A successful edit of any other device leaves the radio rows alone. -/
theorem updateInfo_other (hNode : device.deviceType ≠ .LoRaNode)
    (h : updateInfo state device info = (after, .ok ())) :
    after = { state with
      store := onHash state.store device.eui (info.editHash device) }.updateDevice
        (info.writtenDevice device) := by
  unfold updateInfo at h
  dsimp only at h
  split at h
  · cases h
  · rename_i next row hScript
    rw [script_ok hScript rfl] at h
    simp only [hNode, if_false] at h
    split_ifs at h
    · cases h
    · rw [editHash_other hNode, DeviceModify.writtenDevice, if_neg hNode, if_neg hNode]
      exact (congrArg Prod.fst h).symm

/-! When the record of a node takes what the request asks for. -/

/-- A field of the hash reads as a value. -/
def Reads (hash : NodeHash) (field : NodeField) (value : field.Value) : Prop :=
  field.codec.fromValue (hash field) = some value

/-- Something of the hash is left when its script goes. -/
def Lasts (info : DeviceModify) (hash : NodeHash) : Prop :=
  ∃ field, (hash field).isSome ∧ (info.resetScript.isSome → field ≠ .script)

/-- The request asks for nothing that the code leaves out or puts in a wrong
place, as far as it does not stand in the record already. -/
structure Fits (info : DeviceModify) (device : DevicesModel) (hash : NodeHash) : Prop where
  period : ∀ value ∈ info.period, Reads hash .period value
  script : info.resetScript = none → ∀ script ∈ info.script, device.script = some script →
    Reads hash .script (some script)
  appSkey : ∀ value ∈ info.appSkey, Reads hash .appSkey value
  sameKey : ∀ value ∈ info.appSkey, ∀ key ∈ info.appKey, key = value
  appKey : ∀ value ∈ info.appSkey, info.appKey = none →
    hash .appKey = NodeField.appKey.codec.toArgs value
  lasts : Lasts info hash ∨ ∀ field, field ≠ .script → ∀ value ∈ info.asked field,
    Reads hash field value

/-- The hash stays present through the script edit exactly when a field remains. -/
theorem lasts_iff {hash : NodeHash} (hPresent : hash.Present) :
    NodeHash.Present (overwrite NodeField.codec (info.writtenScript device) hash) ↔
      Lasts info hash := by
  have hEntry : ∀ field, field ≠ .script →
      overwrite NodeField.codec (info.writtenScript device) hash field = hash field :=
    fun field hField => overwrite_none (writtenScript_of_ne hField)
  by_cases hReset : info.resetScript.isSome
  · have hGone : overwrite NodeField.codec (info.writtenScript device) hash .script = none :=
      overwrite_some (writtenScript_reset hReset)
    constructor
    · rintro ⟨field, hSome⟩
      have hField : field ≠ .script := by
        rintro rfl
        rw [hGone] at hSome
        cases hSome
      exact ⟨field, by rwa [hEntry field hField] at hSome, fun _ => hField⟩
    · rintro ⟨field, hSome, hField⟩
      exact ⟨field, by rwa [hEntry field (hField hReset)]⟩
  · refine iff_of_true ?_ ?_
    · obtain ⟨field, hSome⟩ := hPresent
      refine ⟨field, ?_⟩
      cases hWritten : info.writtenScript device field with
      | none => rwa [overwrite_none hWritten]
      | some value =>
          obtain rfl : field = .script :=
            not_not.mp fun hField => by rw [writtenScript_of_ne hField] at hWritten; cases hWritten
          rw [overwrite_some hWritten]
          simp only [DeviceModify.writtenScript, if_neg hReset] at hWritten
          split_ifs at hWritten
          obtain ⟨script, -, rfl⟩ := Option.map_eq_some_iff.mp hWritten
          rfl
    · obtain ⟨field, hSome⟩ := hPresent
      exact ⟨field, hSome, fun hSet => absurd hSet hReset⟩

/-- All that is written to the record of a node. -/
def DeviceModify.written (info : DeviceModify) (device : DevicesModel) (field : NodeField) :
    Option field.Value :=
  (info.writtenScript device field).or (info.writtenFields field)

/-- The script edit and the field edit are one overwriting of the hash. -/
theorem overwrite_overwrite (hash : NodeHash) :
    overwrite NodeField.codec info.writtenFields
        (overwrite NodeField.codec (info.writtenScript device) hash) =
      overwrite NodeField.codec (info.written device) hash := by
  funext field
  by_cases hField : field = .script
  · subst hField
    simp only [overwrite, DeviceModify.written, DeviceModify.writtenFields, Option.or_none]
  · simp only [overwrite, DeviceModify.written, writtenScript_of_ne hField, Option.none_or]

/-- While the hash lasts, the edit overwrites the fields it was asked to. -/
theorem editHash_lasts (hNode : device.deviceType = .LoRaNode) {hash : NodeHash}
    (hPresent : hash.Present) (hLasts : Lasts info hash) :
    info.editHash device hash = overwrite NodeField.codec (info.written device) hash := by
  rw [DeviceModify.editHash, if_pos ⟨hNode, (lasts_iff hPresent).mpr hLasts⟩, overwrite_overwrite]

/-- Once the script edit empties the hash, the later fields are not written. -/
theorem editHash_not_lasts {hash : NodeHash} (hPresent : hash.Present)
    (hLasts : ¬Lasts info hash) :
    info.editHash device hash = overwrite NodeField.codec (info.writtenScript device) hash := by
  rw [DeviceModify.editHash, if_neg fun h => hLasts ((lasts_iff hPresent).mp h.2)]

/-- Fields other than four are written as they are asked for. -/
theorem written_eq_asked {field : NodeField} (hScript : field ≠ .script) (hPeriod : field ≠ .period)
    (hAppSkey : field ≠ .appSkey) (hAppKey : field ≠ .appKey) :
    info.written device field = info.asked field := by
  cases field <;> first | rfl | contradiction

/-- A script that is asked for is written, or it stands in the record. -/
theorem script_fits {hash : NodeHash} (hNode : device.deviceType = .LoRaNode)
    (hScript : info.resetScript = none → ∀ script ∈ info.script, device.script = some script →
      Reads hash .script (some script))
    {value : Option Id} (hAsked : value ∈ info.asked .script) :
    info.written device .script = some value ∨
      info.written device .script = none ∧ Reads hash .script value := by
  have hWritten : info.written device .script = info.writtenScript device .script :=
    Option.or_none
  have hNew : info.newScript = some value := hAsked
  rw [hWritten]
  unfold DeviceModify.newScript at hNew
  split_ifs at hNew with hReset
  · cases hNew
    exact .inl (writtenScript_reset hReset)
  · obtain ⟨script, hSome, rfl⟩ := Option.map_eq_some_iff.mp hNew
    by_cases hSets : info.setsScript device
    · exact .inl (writtenScript_set hReset hSets hSome)
    · have hSame : device.script = info.script := not_not.mp fun hNe => hSets ⟨hNode, hNe⟩
      refine .inr ⟨writtenScript_none hReset (.inr hSets), ?_⟩
      exact hScript (Option.not_isSome_iff_eq_none.mp hReset) script hSome (hSame.trans hSome)

/-- Besides the application key nothing is written that is not asked for. -/
theorem written_of_not_asked {field : NodeField} (hAppKey : field ≠ .appKey)
    (hAsked : info.asked field = none) : info.written device field = none := by
  by_cases hScript : field = .script
  · subst hScript
    have hNew : info.newScript = none := hAsked
    unfold DeviceModify.newScript at hNew
    split_ifs at hNew with hReset
    rw [DeviceModify.written, writtenScript_none hReset (.inl (Option.map_eq_none_iff.mp hNew))]
    rfl
  · rw [DeviceModify.written, writtenScript_of_ne hScript, Option.none_or]
    cases field <;> first | exact hAsked | rfl | contradiction

/-- While the hash lasts, it holds what was asked exactly when the edit fits the device.
-/
theorem edited_lasting_iff {hash : NodeHash} (hNode : device.deviceType = .LoRaNode)
    (hLasts : Lasts info hash) :
    Edited NodeField.codec info.asked hash
        (overwrite NodeField.codec (info.written device) hash) ↔ Fits info device hash := by
  rw [edited_overwrite_iff NodeField.codec_inverse]
  have hKey : info.written device .appKey = info.appSkey.or info.appKey := rfl
  constructor
  · rintro ⟨hAsked, hBesides⟩
    refine ⟨fun value hValue => ?_, fun hReset script hScript hSame => ?_,
      fun value hValue => ?_, fun value hValue key hOther => ?_, fun value hValue hNone => ?_,
      .inl hLasts⟩
    · exact ((hAsked .period value hValue).resolve_left nofun).2
    · have hNew : some script ∈ info.asked .script := by
        rw [DeviceModify.asked, DeviceModify.newScript, hReset, hScript]
        rfl
      have hWritten : info.written device .script = none := by
        rw [DeviceModify.written, writtenScript_none (by simp [hReset])]
        · rfl
        · exact .inr fun hSets => hSets.2 (hSame.trans hScript.symm)
      rcases hAsked .script (some script) hNew with hSome | hRead
      · rw [hWritten] at hSome
        cases hSome
      · exact hRead.2
    · exact ((hAsked .appSkey value hValue).resolve_left nofun).2
    · rcases hAsked .appKey key hOther with hSome | ⟨hNone, -⟩
      · rw [hKey, hValue, Option.some_or] at hSome
        exact (Option.some.inj hSome).symm
      · rw [hKey, hValue, Option.some_or] at hNone
        cases hNone
    · exact hBesides .appKey hNone value (by rw [hKey, hValue, Option.some_or]; rfl)
  · intro h
    refine ⟨fun field value hAsked => ?_, fun field hAsked value hWritten => ?_⟩
    · by_cases hScript : field = .script
      · subst hScript
        exact script_fits hNode h.script hAsked
      by_cases hPeriod : field = .period
      · subst hPeriod
        exact .inr ⟨rfl, h.period value hAsked⟩
      by_cases hAppSkey : field = .appSkey
      · subst hAppSkey
        exact .inr ⟨rfl, h.appSkey value hAsked⟩
      by_cases hAppKey : field = .appKey
      · subst hAppKey
        left
        rw [hKey]
        cases hSession : info.appSkey with
        | none => rw [Option.none_or]; exact hAsked
        | some session => rw [Option.some_or, h.sameKey session hSession value hAsked]
      · left
        rw [written_eq_asked hScript hPeriod hAppSkey hAppKey]
        exact hAsked
    · by_cases hAppKey : field = .appKey
      · subst hAppKey
        have hNone : info.appKey = none := hAsked
        rw [hKey, hNone, Option.or_none] at hWritten
        exact h.appKey value hWritten hNone
      · rw [written_of_not_asked hAppKey hAsked] at hWritten
        cases hWritten

/-- A hash of which nothing is left reads no key. -/
theorem not_reads_key {hash : NodeHash} (hLasts : ¬Lasts info hash) (value : Key) :
    ¬Reads hash .appSkey value := by
  intro hRead
  have hNone : hash .appSkey = none :=
    Option.not_isSome_iff_eq_none.mp fun hSome => hLasts ⟨.appSkey, hSome, fun _ => by decide⟩
  rw [Reads, hNone] at hRead
  cases hRead

/-- When the hash is gone, it holds what was asked exactly when nothing else was asked.
-/
theorem edited_gone_iff {hash : NodeHash} (hPresent : hash.Present) (hLasts : ¬Lasts info hash) :
    Edited NodeField.codec info.asked hash
        (overwrite NodeField.codec (info.writtenScript device) hash) ↔ Fits info device hash := by
  have hReset : info.resetScript.isSome := by
    by_contra hNone
    obtain ⟨field, hSome⟩ := hPresent
    exact hLasts ⟨field, hSome, fun hSet => absurd hSet hNone⟩
  have hNew : info.asked .script = some none := if_pos hReset
  rw [edited_overwrite_iff NodeField.codec_inverse]
  constructor
  · rintro ⟨hAsked, -⟩
    have hOther : ∀ field, field ≠ .script → ∀ value ∈ info.asked field,
        Reads hash field value := by
      intro field hField value hValue
      rcases hAsked field value hValue with hSome | ⟨-, hRead⟩
      · rw [writtenScript_of_ne hField] at hSome
        cases hSome
      · exact hRead
    refine ⟨hOther .period (by decide), fun hNone => ?_, hOther .appSkey (by decide),
      fun value hValue => ?_, fun value hValue => ?_, .inr hOther⟩
    · rw [hNone] at hReset
      cases hReset
    · exact absurd (hOther .appSkey (by decide) value hValue) (not_reads_key hLasts value)
    · exact absurd (hOther .appSkey (by decide) value hValue) (not_reads_key hLasts value)
  · intro h
    have hOther := h.lasts.resolve_left hLasts
    refine ⟨fun field value hAsked => ?_, fun field hAsked value hWritten => ?_⟩
    · by_cases hField : field = .script
      · subst hField
        rw [hNew] at hAsked
        cases hAsked
        exact .inl (writtenScript_reset hReset)
      · exact .inr ⟨writtenScript_of_ne hField, hOther field hField value hAsked⟩
    · by_cases hField : field = .script
      · subst hField
        rw [hNew] at hAsked
        cases hAsked
      · rw [writtenScript_of_ne hField] at hWritten
        cases hWritten

/-- The record that the EUI of the device leads to takes the request exactly if
that fits it. -/
theorem edited_iff_fits (hNode : device.deviceType = .LoRaNode) {hash : NodeHash}
    (hPresent : hash.Present) :
    Edited NodeField.codec info.asked hash (info.editHash device hash) ↔ Fits info device hash := by
  by_cases hLasts : Lasts info hash
  · rw [editHash_lasts hNode hPresent hLasts, edited_lasting_iff hNode hLasts]
  · rw [editHash_not_lasts hPresent hLasts, edited_gone_iff hPresent hLasts]

/-- What the code writes to a hash stands there already. -/
structure Stands (info : DeviceModify) (device : DevicesModel) (hash : NodeHash) : Prop where
  script : ∀ value ∈ info.writtenScript device .script,
    hash .script = NodeField.script.codec.toArgs value
  fields : device.deviceType = .LoRaNode → ∀ field, ∀ value ∈ info.writtenFields field,
    hash field = field.codec.toArgs value

/-- The script edit changes nothing exactly when the hash holds the script already. -/
theorem overwrite_script_iff {hash : NodeHash} :
    overwrite NodeField.codec (info.writtenScript device) hash = hash ↔
      ∀ value ∈ info.writtenScript device .script,
        hash .script = NodeField.script.codec.toArgs value := by
  rw [overwrite_eq_self_iff]
  refine ⟨fun h => h .script, fun h field value hWritten => ?_⟩
  by_cases hField : field = .script
  · subst hField
    exact h value hWritten
  · rw [writtenScript_of_ne hField] at hWritten
    cases hWritten

/-- A record stays as it is exactly if what is written stands there. -/
theorem editHash_eq_self_iff {hash : NodeHash} (hPresent : hash.Present) :
    info.editHash device hash = hash ↔ Stands info device hash := by
  have hFields : overwrite NodeField.codec (info.writtenScript device) hash = hash →
      (info.editHash device hash = hash ↔ (device.deviceType = .LoRaNode →
        ∀ field, ∀ value ∈ info.writtenFields field, hash field = field.codec.toArgs value)) := by
    intro hSame
    rw [DeviceModify.editHash, hSame]
    by_cases hNode : device.deviceType = .LoRaNode
    · rw [if_pos ⟨hNode, hPresent⟩, overwrite_eq_self_iff, imp_iff_right hNode]
    · rw [if_neg fun h => hNode h.1]
      exact iff_of_true rfl fun h => absurd h hNode
  constructor
  · intro h
    have hScript : overwrite NodeField.codec (info.writtenScript device) hash = hash := by
      funext field
      by_cases hField : field = .script
      · subst hField
        rw [← congrFun h .script, DeviceModify.editHash]
        split_ifs <;> rfl
      · exact overwrite_none (writtenScript_of_ne hField)
    exact ⟨overwrite_script_iff.mp hScript, (hFields hScript).mp h⟩
  · intro h
    exact (hFields (overwrite_script_iff.mpr h.script)).mpr h.fields

end
end SnapEmu.Management
