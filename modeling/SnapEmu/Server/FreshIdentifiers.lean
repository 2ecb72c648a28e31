import SnapEmu.Management.CreateNode
import SnapEmu.Semantics.Draws
import SnapEmu.Server.Database

/-! Identifiers that are drawn at random until a fresh one is found. -/
namespace SnapEmu.Server

open Device Management Semantics User

structure CurrentUser where
  id : Id
  username : String

structure IntegrationMqttReq where
  name : String

structure MqttToken where
  id : Id
  name : String
  enable : Bool
  username : String
  password : String
  createTime : Timestamp

namespace IntegrationService

/-- The loop that looks for the password; nothing is returned while it has not
ended. -/
def passwordLoop (rows : List SnapIntegrationMqttModel) (password : String) : Nat → Option Unit
  | 0 => none
  | rounds + 1 =>
      if (rows.find? fun row => row.password = password).isSome then
        passwordLoop rows password rounds
      else some ()

def newRow (user : CurrentUser) (device : IntegrationMqttReq) (password : String)
    (now : Timestamp) (id : Id) : SnapIntegrationMqttModel where
  id := id
  userId := user.id
  mqttType := .Integration
  name := device.name
  username := user.username
  password := password
  enable := true
  createTime := now

def newToken (model : SnapIntegrationMqttModel) (now : Timestamp) : MqttToken :=
  ⟨model.id, model.name, model.enable, model.username, model.password, now⟩

/-- One password is drawn, before the loop; the table gives the new row its id. -/
def mqttRegister (rounds : Nat) (user : CurrentUser) (device : IntegrationMqttReq)
    (rows : List SnapIntegrationMqttModel) (draws : Nat → String) (now : Timestamp) (id : Id) :
    Option (List SnapIntegrationMqttModel × MqttToken) :=
  let password := draws 0
  (passwordLoop rows password rounds).map fun _ =>
    let model := newRow user device password now id
    (rows ++ [model], newToken model now)

end IntegrationService

section Nodes

-- what the service of predefined devices answers
variable (answers : String → Option PredefineDeviceInfo) (state : State)

/-- No row carries the address, and it is not that of a predefined device. -/
def AddrUnused (addr : LoRaAddr) : Prop :=
  (∀ node ∈ state.loraNodes, node.devAddr ≠ addr) ∧ answers (showAddr addr) = none

def EuiUnused (eui : Eui) : Prop :=
  (∀ node ∈ state.loraNodes, node.devEui ≠ eui) ∧ answers (showEui eui) = none

/-- Some number of draws is enough for `create_addr` to return an address, and
no row carries it. -/
def AddrCreated (draws : Nat → LoRaAddr) : Prop :=
  ∃ addr, (∃ count, createAddr (fun text => .ok (answers text)) state
    ((List.range count).map draws) = some (.ok addr)) ∧
      ∀ node ∈ state.loraNodes, node.devAddr ≠ addr

def DevEuiCreated (draws : Nat → Eui) : Prop :=
  ∃ eui, (∃ count, createDevEui (fun text => .ok (answers text)) state
    ((List.range count).map draws) = some (.ok eui)) ∧
      ∀ node ∈ state.loraNodes, node.devEui ≠ eui

end Nodes

/-- Some number of rounds is enough for `mqtt_register`, and no row carries the
password it returns. -/
def MqttRegistered (user : CurrentUser) (device : IntegrationMqttReq)
    (rows : List SnapIntegrationMqttModel) (draws : Nat → String) (now : Timestamp) (id : Id) :
    Prop :=
  ∃ rounds after token,
    IntegrationService.mqttRegister rounds user device rows draws now id = some (after, token) ∧
      ∀ row ∈ rows, row.password ≠ token.password

section Nodes

variable {answers : String → Option PredefineDeviceInfo} {state : State}

/-- The loop for addresses draws until a check passes. -/
theorem createAddr_eq (queryEui : String → Except ApiError (Option PredefineDeviceInfo))
    (draws : List LoRaAddr) :
    createAddr queryEui state draws = drawUntil (validAddr (predefined queryEui) state) draws := by
  induction draws with
  | nil => rfl
  | cons addr draws ih =>
      rw [createAddr, drawUntil, ih]
      rcases validAddr (predefined queryEui) state addr with error | refused
      · rfl
      · cases refused <;> rfl

/-- The loop for EUIs draws until a check passes. -/
theorem createDevEui_eq (queryEui : String → Except ApiError (Option PredefineDeviceInfo))
    (draws : List Eui) :
    createDevEui queryEui state draws =
      drawUntil (validDevEui (predefined queryEui) state) draws := by
  induction draws with
  | nil => rfl
  | cons eui draws ih =>
      rw [createDevEui, drawUntil, ih]
      rcases validDevEui (predefined queryEui) state eui with error | refused
      · rfl
      · cases refused <;> rfl

/-- An address is free exactly if no node has it. -/
theorem devAddrExists_eq_false {addr : LoRaAddr} :
    state.devAddrExists addr = false ↔ ∀ node ∈ state.loraNodes, node.devAddr ≠ addr := by
  rw [State.devAddrExists, Option.isSome_eq_false_iff, Option.isNone_iff_eq_none,
    List.find?_eq_none]
  simp

/-- An EUI is free exactly if no node has it. -/
theorem devEuiExists_eq_false {eui : Eui} :
    state.devEuiExists eui = false ↔ ∀ node ∈ state.loraNodes, node.devEui ≠ eui := by
  rw [State.devEuiExists, Option.isSome_eq_false_iff, Option.isNone_iff_eq_none, List.find?_eq_none]
  simp

/-- An address is created exactly if no row carries a draw before the first
unused one. -/
theorem addrCreated_iff {draws : Nat → LoRaAddr}
    (hUnused : ∃ index, AddrUnused answers state (draws index)) :
    AddrCreated answers state draws ↔
      ∀ index, (∀ earlier ≤ index, ¬AddrUnused answers state (draws earlier)) →
        ∀ node ∈ state.loraNodes, node.devAddr ≠ draws index := by
  have hUnusedIff : ∀ addr, AddrUnused answers state addr ↔
      state.devAddrExists addr = false ∧ (answers (showAddr addr)).isSome = false := by
    intro addr
    rw [AddrUnused, devAddrExists_eq_false, Option.isSome_eq_false_iff, Option.isNone_iff_eq_none]
  simp only [hUnusedIff, ← devAddrExists_eq_false] at hUnused ⊢
  simp only [AddrCreated, createAddr_eq, ← devAddrExists_eq_false]
  exact draws_untaken_iff (fun _ => rfl) hUnused

/-- The EUI that is returned is fresh exactly if the first unused draw is that of no
node. -/
theorem devEuiCreated_iff {draws : Nat → Eui}
    (hUnused : ∃ index, EuiUnused answers state (draws index)) :
    DevEuiCreated answers state draws ↔
      ∀ index, (∀ earlier ≤ index, ¬EuiUnused answers state (draws earlier)) →
        ∀ node ∈ state.loraNodes, node.devEui ≠ draws index := by
  have hUnusedIff : ∀ eui, EuiUnused answers state eui ↔
      state.devEuiExists eui = false ∧ (answers (showEui eui)).isSome = false := by
    intro eui
    rw [EuiUnused, devEuiExists_eq_false, Option.isSome_eq_false_iff, Option.isNone_iff_eq_none]
  simp only [hUnusedIff, ← devEuiExists_eq_false] at hUnused ⊢
  simp only [DevEuiCreated, createDevEui_eq, ← devEuiExists_eq_false]
  exact draws_untaken_iff (fun _ => rfl) hUnused

end Nodes

section Passwords

variable {rows : List SnapIntegrationMqttModel} {password : String}

/-- The loop asks for one password in every round, so it ends at once or never. -/
theorem passwordLoop_eq_some {rounds : Nat} :
    IntegrationService.passwordLoop rows password rounds = some () ↔
      0 < rounds ∧ ∀ row ∈ rows, row.password ≠ password := by
  have hFind : (rows.find? fun row => row.password = password).isSome = true ↔
      ¬∀ row ∈ rows, row.password ≠ password := by
    simp
  induction rounds with
  | zero => simp [IntegrationService.passwordLoop]
  | succ rounds ih =>
      rw [IntegrationService.passwordLoop]
      split_ifs with hStored
      · exact ih.trans
          (iff_of_false (fun h => hFind.mp hStored h.2) fun h => hFind.mp hStored h.2)
      · rw [hFind, not_not] at hStored
        exact iff_of_true rfl ⟨Nat.succ_pos rounds, hStored⟩

/-- The password of a registration is fresh exactly if the only draw is that of no row.
-/
theorem mqttRegistered_iff (user : CurrentUser) (device : IntegrationMqttReq)
    (draws : Nat → String) (now : Timestamp) (id : Id) :
    MqttRegistered user device rows draws now id ↔ ∀ row ∈ rows, row.password ≠ draws 0 := by
  constructor
  · rintro ⟨rounds, after, token, hRegistered, -⟩
    obtain ⟨result, hLoop, -⟩ := Option.map_eq_some_iff.mp hRegistered
    exact (passwordLoop_eq_some.mp hLoop).2
  · intro hFresh
    have hLoop := passwordLoop_eq_some.mpr ⟨Nat.one_pos, hFresh⟩
    let model := IntegrationService.newRow user device (draws 0) now id
    refine ⟨1, rows ++ [model], IntegrationService.newToken model now, ?_, hFresh⟩
    rw [IntegrationService.mqttRegister, hLoop, Option.map_some]

end Passwords

/-- For every content of the tables, every answer about predefined devices and
every stream of draws with an unused value: when the three retry loops return a
fresh identifier. -/
theorem fresh_identifiers_iff (answers : String → Option PredefineDeviceInfo) (state : State)
    (addrs : Nat → LoRaAddr) (euis : Nat → Eui) (user : CurrentUser) (device : IntegrationMqttReq)
    (rows : List SnapIntegrationMqttModel) (passwords : Nat → String) (now : Timestamp) (id : Id) :
    ((∃ index, AddrUnused answers state (addrs index)) →
      (AddrCreated answers state addrs ↔
        ∀ index, (∀ earlier ≤ index, ¬AddrUnused answers state (addrs earlier)) →
          ∀ node ∈ state.loraNodes, node.devAddr ≠ addrs index)) ∧
      ((∃ index, EuiUnused answers state (euis index)) →
        (DevEuiCreated answers state euis ↔
          ∀ index, (∀ earlier ≤ index, ¬EuiUnused answers state (euis earlier)) →
            ∀ node ∈ state.loraNodes, node.devEui ≠ euis index)) ∧
      ((∃ index, ∀ row ∈ rows, row.password ≠ passwords index) →
        (MqttRegistered user device rows passwords now id ↔
          ∀ row ∈ rows, row.password ≠ passwords 0)) :=
  ⟨addrCreated_iff, devEuiCreated_iff, fun _ => mqttRegistered_iff user device passwords now id⟩

/-- A stored row, and draws of which the first is its password. -/
def storedPassword : SnapIntegrationMqttModel :=
  ⟨⟨1⟩, ⟨1⟩, .Integration, "gateway", "user", "taken", true, ⟨0⟩⟩

def collidingDraws : Nat → String
  | 0 => "taken"
  | _ + 1 => "free"

theorem fresh_identifiers_colliding :
    MqttRegistered ⟨⟨1⟩, "user"⟩ ⟨"lamp"⟩ [storedPassword] collidingDraws ⟨0⟩ ⟨2⟩ ↔
      ∀ row ∈ [storedPassword], row.password ≠ collidingDraws 0 :=
  (fresh_identifiers_iff (fun _ => none) State.empty (fun _ => ⟨0⟩) (fun _ => ⟨0⟩) ⟨⟨1⟩, "user"⟩
    ⟨"lamp"⟩ [storedPassword] collidingDraws ⟨0⟩ ⟨2⟩).2.2 ⟨1, by decide⟩

/-- The second draw is unused, and the registration never ends. -/
theorem colliding_password_loops :
    ¬∀ (user : CurrentUser) (device : IntegrationMqttReq) (rows : List SnapIntegrationMqttModel)
      (draws : Nat → String) (now : Timestamp) (id : Id),
      (∃ index, ∀ row ∈ rows, row.password ≠ draws index) →
        MqttRegistered user device rows draws now id := by
  intro h
  have hRegistered := h ⟨⟨1⟩, "user"⟩ ⟨"lamp"⟩ [storedPassword] collidingDraws ⟨0⟩ ⟨2⟩
    ⟨1, by decide⟩
  rw [mqttRegistered_iff] at hRegistered
  exact hRegistered storedPassword List.mem_cons_self rfl

end SnapEmu.Server
