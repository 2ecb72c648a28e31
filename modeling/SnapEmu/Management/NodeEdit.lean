import SnapEmu.Device.Record
import SnapEmu.Management.Operations
import SnapEmu.Semantics.RecordEdit

/-! What changes of fields do to the record that an EUI leads to, and to the row
of a node. -/
namespace SnapEmu.Management

open Device User Semantics HashRecord

/-- A change of the hash that an EUI leads to, if that is there. -/
def onHash (store : NodeStore) (eui : Eui) (edit : NodeHash → NodeHash) : NodeStore :=
  match store.nodeEui eui with
  | none => store
  | some addr =>
      if (store.node addr).Present then store.setHash addr (edit (store.node addr)) else store

/-- The EUI leads to the hash under an address, and that is there. -/
def Leads (store : NodeStore) (eui : Eui) (addr : LoRaAddr) : Prop :=
  store.nodeEui eui = some addr ∧ (store.node addr).Present

instance (store : NodeStore) (eui : Eui) (addr : LoRaAddr) : Decidable (Leads store eui addr) :=
  inferInstanceAs (Decidable (_ ∧ _))

section

variable {store : NodeStore} {eui : Eui} {addr : LoRaAddr} {edit : NodeHash → NodeHash}

/-- An edit by identifier reaches the hash that the identifier leads to. -/
theorem onHash_of_leads (h : Leads store eui addr) :
    onHash store eui edit = store.setHash addr (edit (store.node addr)) := by
  simp only [onHash, h.1, if_pos h.2]

/-- An edit by an identifier that leads nowhere changes nothing. -/
theorem onHash_of_none (h : ∀ addr, ¬Leads store eui addr) : onHash store eui edit = store := by
  unfold onHash
  cases hEui : store.nodeEui eui with
  | none => rfl
  | some addr => exact if_neg fun hPresent => h addr ⟨hEui, hPresent⟩

/-- An EUI leads to one hash at most. -/
theorem leads_cases (store : NodeStore) (eui : Eui) :
    (∃ addr, Leads store eui addr) ∨ ∀ addr, ¬Leads store eui addr := by
  by_cases hLeads : ∃ addr, Leads store eui addr
  · exact .inl hLeads
  · exact .inr (not_exists.mp hLeads)

/-- The hash edited is the one the identifier leads to. -/
theorem node_onHash_of_leads (h : Leads store eui addr) :
    (onHash store eui edit).node addr = edit (store.node addr) := by
  rw [onHash_of_leads h, NodeStore.setHash_self]

/-- Every other hash stays as it is. -/
theorem node_onHash_of_not_leads (h : ¬Leads store eui addr) :
    (onHash store eui edit).node addr = store.node addr := by
  rcases leads_cases store eui with ⟨other, hOther⟩ | hNone
  · rw [onHash_of_leads hOther, NodeStore.setHash_of_ne]
    rintro rfl
    exact h hOther
  · rw [onHash_of_none hNone]

/-- The cache stays as it is exactly if the hash that the EUI leads to does. -/
theorem onHash_eq_self_iff :
    onHash store eui edit = store ↔ ∀ addr, Leads store eui addr →
      edit (store.node addr) = store.node addr := by
  constructor
  · intro hSame addr hLeads
    have hNode : (onHash store eui edit).node addr = edit (store.node addr) :=
      node_onHash_of_leads hLeads
    rw [← hNode, hSame]
  · intro hEdit
    rcases leads_cases store eui with ⟨addr, hLeads⟩ | hNone
    · rw [onHash_of_leads hLeads, hEdit addr hLeads, NodeStore.setHash, Function.update_eq_self]
    · exact onHash_of_none hNone

/-- Setting a field by identifier is an edit of one hash. -/
theorem updateByEui_eq (store : NodeStore) (eui : Eui) (field : NodeField) (value : field.Value) :
    NodeInfo.updateByEui store eui field value =
      onHash store eui fun hash => hash.set field value :=
  rfl

theorem resetByEui_eq (store : NodeStore) (eui : Eui) (field : NodeField) :
    NodeInfo.resetByEui store eui field = onHash store eui fun hash => hash.remove field := rfl

theorem onHash_id (store : NodeStore) (eui : Eui) : onHash store eui id = store := by
  rcases leads_cases store eui with ⟨addr, hLeads⟩ | hNone
  · rw [onHash_of_leads hLeads, id, NodeStore.setHash, Function.update_eq_self]
  · exact onHash_of_none hNone

/-- The second change is done if the first leaves something of the hash. -/
theorem onHash_onHash (first second : NodeHash → NodeHash) :
    onHash (onHash store eui first) eui second = onHash store eui fun hash =>
      if (first hash).Present then second (first hash) else first hash := by
  rcases leads_cases store eui with ⟨addr, hLeads⟩ | hNone
  · rw [onHash_of_leads hLeads, onHash_of_leads hLeads]
    split_ifs with hPresent
    · have hNext : Leads (store.setHash addr (first (store.node addr))) eui addr :=
        ⟨hLeads.1, by rw [NodeStore.setHash_self]; exact hPresent⟩
      rw [onHash_of_leads hNext, NodeStore.setHash_self]
      simp only [NodeStore.setHash, Function.update_idem]
    · refine onHash_of_none fun other hOther => hPresent ?_
      have hSame : other = addr := Option.some.inj (hOther.1.symm.trans hLeads.1)
      rw [hSame] at hOther
      have hThere := hOther.2
      rwa [NodeStore.setHash_self] at hThere
  · rw [onHash_of_none hNone, onHash_of_none hNone, onHash_of_none hNone]

/-- Values that write an argument. -/
def Written (changes : List NodeChange) : Prop :=
  ∀ change ∈ changes, (change.1.codec.toArgs change.2).isSome

theorem set_eq_update (hash : NodeHash) {field : NodeField} {value : field.Value}
    (h : (field.codec.toArgs value).isSome) :
    hash.set field value = Function.update hash field (field.codec.toArgs value) := by
  obtain ⟨arg, hArg⟩ := Option.isSome_iff_exists.mp h
  rw [NodeHash.set_eq hash hArg, hArg]

theorem present_set (hash : NodeHash) {field : NodeField} {value : field.Value}
    (h : (field.codec.toArgs value).isSome) : (hash.set field value).Present :=
  ⟨field, by rw [set_eq_update hash h, Function.update_self]; exact h⟩

/-- Successive updates of the cache are one overwriting with the last change of each
field. -/
theorem updateCache_eq {changes : List NodeChange} (hChanges : Written changes)
    (store : NodeStore) (eui : Eui) :
    updateCache store eui changes =
      onHash store eui (overwrite NodeField.codec (lastChange changes)) := by
  have hFold : ∀ store, updateCache store eui changes = onHash store eui fun hash =>
      changes.foldl (fun hash change =>
        Function.update hash change.1 (change.1.codec.toArgs change.2)) hash := by
    induction changes with
    | nil => exact fun store => (onHash_id store eui).symm
    | cons change changes ih =>
        intro store
        have hHead := hChanges change List.mem_cons_self
        rw [updateCache, List.foldl_cons, ← updateCache,
          ih fun other hOther => hChanges other (List.mem_cons_of_mem _ hOther), updateByEui_eq,
          onHash_onHash]
        congr 1
        funext hash
        rw [if_pos (present_set hash hHead), set_eq_update hash hHead, List.foldl_cons]
  rw [hFold]
  congr 1
  funext hash
  exact foldl_overwrite changes hash

end

/-! The row of a node. -/

/-- The fields that a request may change in the row. -/
def assigned : NodeField → Bool
  | .region | .joinType | .appEui | .appKey | .nwkSkey | .appSkey | .classB | .classC | .adr
  | .rx1Delay | .desRx1Delay | .rx1Dro | .desRx1Dro | .rx2Dr | .desRx2Dr | .rx2Freq | .desRx2Freq
  | .dRetry | .cRetry | .productType | .dutycyle | .upConfirm | .upDr | .timeZone => true
  | _ => false

def Assigns (changes : List NodeChange) : Prop := ∀ change ∈ changes, assigned change.1 = true

theorem written_of_assigns {changes : List NodeChange} (h : Assigns changes) : Written changes := by
  intro change hChange
  obtain ⟨field, value⟩ := change
  have hAssigned : assigned field = true := h _ hChange
  refine nodeSchema.written field value ?_
  change NodeField.optional field = false
  cases field <;> first | rfl | cases hAssigned

/-- Changing the row and then building the record is building it and changing its field.
-/
theorem ofModels_assign {change : NodeChange} (h : assigned change.1 = true)
    (node : DeviceLoraNodeModel) (device : DevicesModel) :
    NodeInfo.ofModels (assign node change) device =
      (NodeInfo.ofModels node device).set change.1 change.2 := by
  obtain ⟨field, value⟩ := change
  cases field <;> first | rfl | cases h

/-- Setting a field changes that field and no other. -/
theorem get_set (info : NodeInfo) (field : NodeField) (value : field.Value) :
    (info.set field value).get = Function.update info.get field value :=
  NodeInfo.get_ofFields _

/-- The fields of a row after changes. -/
theorem get_foldl_assign {changes : List NodeChange} (h : Assigns changes)
    (node : DeviceLoraNodeModel) (device : DevicesModel) (field : NodeField) :
    (NodeInfo.ofModels (changes.foldl assign node) device).get field =
      (lastChange changes field).getD ((NodeInfo.ofModels node device).get field) := by
  have hFold : ∀ node : DeviceLoraNodeModel,
      (NodeInfo.ofModels (changes.foldl assign node) device).get =
        changes.foldl (fun record change => Function.update record change.1 change.2)
          (NodeInfo.ofModels node device).get := by
    clear node
    induction changes with
    | nil => exact fun node => rfl
    | cons change changes ih =>
        intro node
        rw [List.foldl_cons, List.foldl_cons,
          ih fun other hOther => h other (List.mem_cons_of_mem _ hOther),
          ofModels_assign (h change List.mem_cons_self), get_set]
  rw [hFold, foldl_update]

/-- The changes are of fields other than the keys of the row. -/
theorem foldl_assign_keys (changes : List NodeChange) (node : DeviceLoraNodeModel) :
    (changes.foldl assign node).id = node.id ∧
      (changes.foldl assign node).deviceId = node.deviceId ∧
      (changes.foldl assign node).devAddr = node.devAddr := by
  induction changes generalizing node with
  | nil => exact ⟨rfl, rfl, rfl⟩
  | cons change changes ih =>
      obtain ⟨hId, hDevice, hAddr⟩ := ih (assign node change)
      have hKeys : (assign node change).id = node.id ∧
          (assign node change).deviceId = node.deviceId ∧
          (assign node change).devAddr = node.devAddr := by
        obtain ⟨field, value⟩ := change
        cases field <;> exact ⟨rfl, rfl, rfl⟩
      exact ⟨hId.trans hKeys.1, hDevice.trans hKeys.2.1, hAddr.trans hKeys.2.2⟩

/-- A list of changes is assignable when both parts are. -/
theorem assigns_append {first second : List NodeChange} :
    Assigns (first ++ second) ↔ Assigns first ∧ Assigns second := by
  simp only [Assigns, List.mem_append, or_imp, forall_and]

theorem assigns_change {field : NodeField} (hField : assigned field = true)
    (value : Option field.Value) : Assigns (change field value) := by
  cases value with
  | none => simp [Assigns, change]
  | some value => simpa [Assigns, change] using hField

theorem lastChange_change_self (field : NodeField) (value : Option field.Value) :
    lastChange (change field value) field = value := by
  cases value with
  | none => rfl
  | some value => exact lastChange_single_self field value

theorem lastChange_change_of_ne {field other : NodeField} (value : Option field.Value)
    (hField : other ≠ field) : lastChange (change field value) other = none := by
  cases value with
  | none => rfl
  | some value => exact lastChange_single_of_ne value hField

/-! The fields that an administrator changes. -/

/-- The values that a request gives, as far as its texts can be parsed. -/
def DeviceChangeBody.asked (info : DeviceChangeBody) : (field : NodeField) → Option field.Value
  | .region => info.region.bind fun text => text.parsed
  | .joinType => info.joinType.bind fun text => text.parsed
  | .appEui => info.appEui.bind fun text => text.parsed
  | .appKey => info.appKey.bind fun text => text.parsed
  | .nwkSkey => info.nwkSkey.bind fun text => text.parsed
  | .appSkey => info.appSkey.bind fun text => text.parsed
  | .classB => info.classB
  | .adr => info.adr
  | .rx1Delay => info.rx1Delay
  | .desRx1Delay => info.desRx1Delay
  | .rx1Dro => info.rx1Dro
  | .desRx1Dro => info.desRx1Dro
  | .rx2Dr => info.rx2Dr
  | .desRx2Dr => info.desRx2Dr
  | .rx2Freq => info.rx2Freq
  | .desRx2Freq => info.desRx2Freq
  | .dRetry => info.dRetry
  | .cRetry => info.cRetry
  | .productType => info.productType
  | .dutycyle => info.dutycyle
  | .upConfirm => info.upConfirm
  | .upDr => info.upDr
  | .timeZone => info.timeZone
  | _ => none

/-- The fields in the order in which they are changed. -/
def changedFields : List NodeField :=
  [.region, .joinType, .appEui, .appKey, .nwkSkey, .appSkey, .classB, .adr, .rx1Delay, .desRx1Delay,
   .rx1Dro, .desRx1Dro, .rx2Dr, .desRx2Dr, .rx2Freq, .desRx2Freq, .dRetry, .cRetry, .productType,
   .dutycyle, .upConfirm, .upDr, .timeZone]

/-- A sequence succeeds exactly when its steps do. -/
theorem bind_eq_ok {α β : Type} {action : Except ApiError α} {next : α → Except ApiError β}
    {result : β} :
    (action >>= next) = .ok result ↔ ∃ value, action = .ok value ∧ next value = .ok result := by
  cases action with
  | error error => simp [bind, Except.bind]
  | ok value => simp [bind, Except.bind]

/-- A field parsed without error contributes its value as a change, when it is given. -/
theorem parseField_ok {name : String} {field : NodeField} {text : Option (Text field.Value)}
    {changes : List NodeChange} (h : parseField name field text = .ok changes) :
    changes = change field (text.bind fun text => text.parsed) := by
  unfold parseField at h
  cases text with
  | none =>
      cases h
      rfl
  | some text =>
      simp only at h
      cases hParsed : text.parsed with
      | none =>
          rw [hParsed] at h
          cases h
      | some value =>
          rw [hParsed] at h
          cases h
          simp [change, hParsed]

/-- A request whose texts can be parsed changes the fields it gives, in order. -/
theorem changes_ok {info : DeviceChangeBody} {changes : List NodeChange}
    (h : info.changes = .ok changes) :
    changes = changedFields.flatMap fun field => change field (info.asked field) := by
  simp only [DeviceChangeBody.changes, bind_eq_ok] at h
  obtain ⟨region, hRegion, joinType, hJoinType, appEui, hAppEui, appKey, hAppKey, nwkSkey,
    hNwkSkey, appSkey, hAppSkey, hAll⟩ := h
  obtain rfl := Except.ok.inj hAll
  rw [parseField_ok hRegion, parseField_ok hJoinType, parseField_ok hAppEui, parseField_ok hAppKey,
    parseField_ok hNwkSkey, parseField_ok hAppSkey]
  simp only [changedFields, List.flatMap_cons, List.flatMap_nil, List.append_nil, List.append_assoc]
  rfl

/-- The last change of a field, when every field is asked at most once. -/
theorem lastChange_flatMap (asked : (field : NodeField) → Option field.Value)
    (fields : List NodeField) (field : NodeField) :
    lastChange (fields.flatMap fun field => change field (asked field)) field =
      if field ∈ fields then asked field else none := by
  induction fields with
  | nil => rfl
  | cons first fields ih =>
      rw [List.flatMap_cons, lastChange_append, ih]
      by_cases hFirst : field = first
      · subst hFirst
        rw [lastChange_change_self, if_pos List.mem_cons_self]
        split_ifs
        · exact Option.or_self
        · exact Option.none_or
      · rw [lastChange_change_of_ne _ hFirst, Option.or_none]
        simp only [List.mem_cons, hFirst, false_or]

/-- The changes of a parsed body are what the body asks for. -/
theorem lastChange_changes {info : DeviceChangeBody} {changes : List NodeChange}
    (h : info.changes = .ok changes) : lastChange changes = info.asked := by
  funext field
  rw [changes_ok h, lastChange_flatMap]
  by_cases hField : field ∈ changedFields
  · exact if_pos hField
  · rw [if_neg hField]
    cases field <;> first | rfl | exact absurd (by decide) hField

/-- A parsed body changes only fields that can be assigned. -/
theorem assigns_changes {info : DeviceChangeBody} {changes : List NodeChange}
    (h : info.changes = .ok changes) : Assigns changes := by
  rw [changes_ok h]
  intro other hOther
  obtain ⟨field, hField, hChange⟩ := List.mem_flatMap.mp hOther
  have hAssigned : ∀ field ∈ changedFields, assigned field = true := by decide
  exact assigns_change (hAssigned field hField) _ other hChange

end SnapEmu.Management
