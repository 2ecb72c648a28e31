import SnapEmu.Semantics.Run
import SnapEmu.Server.Deletion

/-! The requests that concern groups and their devices, one after another. -/
namespace SnapEmu.Server

open Device Management Semantics User Action

namespace DeviceOrderService

/-- The highest order of the devices of a user in a group. -/
def deviceGroupMaxOrder (world : World) (userId groupId : Id) : Int32 :=
  ((world.rows.links.filter fun link => link.groupId = groupId ∧ link.userId = userId).map
    fun link => link.devOrder).max?.getD 0

def findOrder (world : World) (userId deviceId groupId : Id) : Option DeviceMapGroupModel :=
  world.rows.links.find? fun link =>
    link.groupId = groupId ∧ link.userId = userId ∧ link.deviceId = deviceId

/-- The link with the number of the one that is raised gets the next order. -/
def raiseLink (order : DeviceMapGroupModel) (devOrder : Int32) (link : DeviceMapGroupModel) :
    DeviceMapGroupModel :=
  if link.id = order.id then { link with devOrder := devOrder + 1 } else link

/-- A device that is not alone on top comes to stand above the others. -/
def raise (order : DeviceMapGroupModel) (devOrder : Int32) : Service Unit :=
  if order.devOrder ≠ devOrder ∨ devOrder = 0 then
    modifyRows fun rows => { rows with links := rows.links.map (raiseLink order devOrder) }
  else pure ()

section

variable {order : DeviceMapGroupModel} {devOrder : Int32}

theorem raiseLink_self :
    raiseLink order devOrder order = { order with devOrder := devOrder + 1 } := if_pos rfl

theorem raiseLink_other {link : DeviceMapGroupModel} (h : link.id ≠ order.id) :
    raiseLink order devOrder link = link := if_neg h

@[simp] theorem raiseLink_id (link : DeviceMapGroupModel) :
    (raiseLink order devOrder link).id = link.id := by
  unfold raiseLink
  split_ifs <;> rfl

@[simp] theorem raiseLink_groupId (link : DeviceMapGroupModel) :
    (raiseLink order devOrder link).groupId = link.groupId := by
  unfold raiseLink
  split_ifs <;> rfl

end

def deviceDefaultGroup (userId deviceId : Id) (now : Timestamp) : Service Unit := do
  let group ← DeviceGroupService.queryUserDefaultGroup userId now
  let world ← get
  let devOrder := deviceGroupMaxOrder world userId group.id
  forEach (fun order => raise order devOrder) (findOrder world userId deviceId group.id).toList

def deviceGroup (userId deviceId groupId : Id) : Service Unit := do
  let world ← get
  let devOrder := deviceGroupMaxOrder world userId groupId
  match findOrder world userId deviceId groupId with
  | none => throw (translated "messages.device.group.invalid")
  | some order => raise order devOrder

def deviceTop (userId deviceId : Id) (groupId : Option Id) (now : Timestamp) : Service Unit :=
  match groupId with
  | none => deviceDefaultGroup userId deviceId now
  | some groupId => deviceGroup userId deviceId groupId

end DeviceOrderService

/-- The row of a new user, and the default group. -/
def UserService.insertUser (userLogin : String) (now : Timestamp) : Service Id :=
  transaction rollback do
    let id ← draw (·.user) fun next => { next with user := next.user + 1 }
    insertRow
      (fun world => world.rows.users.any fun row => row.id = id || row.userLogin = userLogin)
      fun rows => { rows with users := rows.users ++ [⟨id, userLogin⟩] }
    let _ ← DeviceGroupService.createGroupDefault ⟨"All", "All"⟩ id now
    return id

inductive Request where
  | postDevice (env : Environment) (userId : Id) (req : DeviceCreate)
  | deleteDevice (userId deviceId : Id)
  | getAllDevice (userId : Id) (now : Timestamp)
  | putTop (userId deviceId : Id) (groupId : Option Id) (now : Timestamp)
  | postGroup (userId : Id) (group : ReqDeviceGroup) (now : Timestamp)
  | getGroup (userId groupId : Id)
  | putGroup (userId groupId : Id) (req : ReqPutDeviceGroup) (now : Timestamp)
  | deleteGroup (userId groupId : Id)
  | deleteGroupDevice (userId groupId deviceId : Id)
  | signup (userLogin : String) (now : Timestamp)
  | deleteUser (userId : Id)

/-- The state a request leaves, whether it fails or not. -/
def requestStep (world : World) : Request → World
  | .postDevice env userId req => (postDevice env userId req).after world
  | .deleteDevice userId deviceId => (deleteDevice deviceId userId).after world
  | .getAllDevice userId now => (DeviceGroupService.selectDefaultGroup userId now).after world
  | .putTop userId deviceId groupId now =>
      (DeviceOrderService.deviceTop userId deviceId groupId now).after world
  | .postGroup userId group now => (DeviceGroupService.createGroup group userId now).after world
  | .getGroup userId groupId => (DeviceGroupService.selectByGroupId userId groupId).after world
  | .putGroup userId groupId req now =>
      (transaction rollback (DeviceGroupService.updateGroup groupId userId req now)).after world
  | .deleteGroup userId groupId =>
      (transaction rollback (DeviceGroupService.deleteOne userId groupId)).after world
  | .deleteGroupDevice userId groupId deviceId =>
      (DeviceGroupService.unlink deviceId userId groupId).after world
  | .signup userLogin now => (UserService.insertUser userLogin now).after world
  | .deleteUser userId => (UserService.deleteLocalUser userId).after world

end SnapEmu.Server
