import SnapEmu.Server.Database

/-! Groups of devices, the links of devices to them, and the cache of the
groups of each user. -/
namespace SnapEmu.Server

open Device Management Semantics User Action

structure ReqDeviceGroup where
  name : String
  description : String

structure ReqPutDeviceGroup where
  devices : Option (List Id)
  remove : Option (List Id)
  name : Option String
  description : Option String

namespace World

def setGroupCache (world : World) (userId : Id)
    (groups : Option (List DeviceGroupCacheItem)) : World :=
  { world with
    cache := { world.cache with groups := Function.update world.cache.groups userId groups } }

def addGroup (world : World) (group : DeviceGroupModel) : World :=
  { world with
    rows := { world.rows with groups := world.rows.groups ++ [group] }
    sequences := { world.sequences with group := world.sequences.group + 1 } }

def addLink (world : World) (link : DeviceMapGroupModel) : World :=
  { world with
    rows := { world.rows with links := world.rows.links ++ [link] }
    sequences := { world.sequences with link := world.sequences.link + 1 } }

def mapGroups (world : World) (change : DeviceGroupModel → DeviceGroupModel) : World :=
  { world with rows := { world.rows with groups := world.rows.groups.map change } }

def filterGroups (world : World) (kept : DeviceGroupModel → Bool) : World :=
  { world with rows := { world.rows with groups := world.rows.groups.filter kept } }

def filterLinks (world : World) (kept : DeviceMapGroupModel → Bool) : World :=
  { world with rows := { world.rows with links := world.rows.links.filter kept } }

end World

namespace DeviceGroupCache

def deleteByUserId (userId : Id) : Service Unit :=
  Action.modify fun world => world.setGroupCache userId none

def saveByUserId (groups : List DeviceGroupCacheItem) (userId : Id) : Service Unit :=
  Action.modify fun world => world.setGroupCache userId (some groups)

def loadByUserId (world : World) (userId : Id) : Option (List DeviceGroupCacheItem) :=
  world.cache.groups userId

def loadDefaultByUserId (world : World) (userId : Id) : Option DeviceGroupCacheItem :=
  (loadByUserId world userId).bind fun items => items.find? fun item => item.group.defaultGroup

end DeviceGroupCache

namespace DeviceGroupService

def insertGroup (name description : String) (defaultGroup : Bool) (owner : Id) (now : Timestamp) :
    Service DeviceGroupModel := do
  let world ← get
  let id ← ofExcept (numbered world.sequences.group)
  let group : DeviceGroupModel := ⟨id, name, description, defaultGroup, owner, now⟩
  Action.modify fun world => world.addGroup group
  return group

def insertLink (userId deviceId groupId : Id) (now : Timestamp) : Service DeviceMapGroupModel := do
  let world ← get
  let id ← ofExcept (numbered world.sequences.link)
  let link : DeviceMapGroupModel := ⟨id, userId, deviceId, groupId, 0, now⟩
  Action.modify fun world => world.addLink link
  return link

def create (group : ReqDeviceGroup) (userId : Id) (default : Bool) (now : Timestamp) :
    Service DeviceGroupModel := do
  let ret ← insertGroup group.name group.description default userId now
  DeviceGroupCache.deleteByUserId userId
  return ret

def createGroup (group : ReqDeviceGroup) (userId : Id) (now : Timestamp) :
    Service DeviceGroupModel := create group userId false now

def createGroupDefault (group : ReqDeviceGroup) (userId : Id) (now : Timestamp) :
    Service DeviceGroupModel := create group userId true now

/-- Only the existence of the group is checked. -/
def link (group user device : Id) (now : Timestamp) : Service DeviceMapGroupModel := do
  let world ← get
  match world.findGroup group with
  | none => throw (.user (.plain "group invalid"))
  | some _ =>
      DeviceGroupCache.deleteByUserId user
      insertLink user device group now

/-- A default group of the user in the table. -/
def defaultRow (world : World) (userId : Id) : Option DeviceGroupModel :=
  world.rows.groups.find? fun group => group.owner = userId ∧ group.defaultGroup

/-- The cache is asked first, and a group that is missing is inserted. -/
def queryUserDefaultGroup (userId : Id) (now : Timestamp) : Service DeviceGroupModel := do
  let world ← get
  match DeviceGroupCache.loadDefaultByUserId world userId with
  | some item => return item.group
  | none =>
      match defaultRow world userId with
      | some group => return group
      | none => insertGroup "All" "All" true userId now

def linkToDefaultGroup (user device : Id) (now : Timestamp) : Service DeviceMapGroupModel := do
  let group ← queryUserDefaultGroup user now
  DeviceGroupCache.deleteByUserId user
  insertLink user device group.id now

def unlink (device user group : Id) : Service Unit := do
  DeviceGroupCache.deleteByUserId user
  Action.modify fun world => world.filterLinks fun link =>
    ¬(link.deviceId = device ∧ link.userId = user ∧ link.groupId = group)

def unlinkDeviceAll (device : Id) : Service Unit :=
  Action.modify fun world => world.filterLinks fun link => link.deviceId ≠ device

/-- The devices of a request must be devices of the user, as sets. -/
def checkDevices (userId : Id) (devices : List Id) : Service Unit := do
  let world ← get
  let found := (DeviceService.queryAllWithIds world userId devices).map fun device => device.id
  if devices.all (fun id => id ∈ found) ∧ found.all (fun id => id ∈ devices) then return ()
  else throw (.user (.plain "invalid device"))

def updateRow (group : DeviceGroupModel) : Service Unit :=
  Action.modify fun world => world.mapGroups fun row => if row.id = group.id then group else row

/-- A group that is not a default group and belongs to the user. -/
def editable (world : World) (groupId userId : Id) : Except ApiError DeviceGroupModel :=
  match world.findGroup groupId with
  | none => .error (.user (.plain "Not Found group"))
  | some group =>
      if group.owner ≠ userId then .error (.user (.plain "Not Found group"))
      else if group.defaultGroup then .error (.user (.plain "default is disable edit"))
      else .ok group

def linkDevices (group userId : Id) (devices : Option (List Id)) (now : Timestamp) : Service Unit :=
  match devices with
  | none => return ()
  | some devices => do
      checkDevices userId devices
      forEach (fun id => do let _ ← link group userId id now) devices

def unlinkDevices (group userId : Id) (devices : Option (List Id)) : Service Unit :=
  match devices with
  | none => return ()
  | some devices => do
      checkDevices userId devices
      forEach (fun id => unlink id userId group) devices

/-- The links are added and removed one by one, the group row changes last. -/
def updateGroup (groupId userId : Id) (info : ReqPutDeviceGroup) (now : Timestamp) :
    Service Unit := do
  let world ← get
  let group ← ofExcept (editable world groupId userId)
  linkDevices group.id userId info.devices now
  unlinkDevices group.id userId info.remove
  updateRow { group with
    name := info.name.getD group.name
    description := info.description.getD group.description }

def deletable (world : World) (groupId userId : Id) : Except ApiError DeviceGroupModel :=
  match world.findGroup groupId with
  | none => .error (.user (.plain "Notfound"))
  | some group =>
      if group.owner ≠ userId then .error (.user (.plain "Notfound"))
      else if group.defaultGroup then
        .error (.user (.plain "The default group cannot be deleted"))
      else .ok group

def deleteOne (userId groupId : Id) : Service Unit := do
  let world ← get
  let group ← ofExcept (deletable world groupId userId)
  Action.modify fun world => world.filterGroups fun row => row.id ≠ group.id

def deleteByUser (userId : Id) : Service Unit := do
  Action.modify fun world => world.filterGroups fun row => row.owner ≠ userId
  Action.modify fun world => world.filterLinks fun link => link.userId ≠ userId
  DeviceGroupCache.deleteByUserId userId

/-- The join of groups and devices by links. -/
def joins (world : World) (groupId : Id) (link : DeviceMapGroupModel) : Bool :=
  link.groupId = groupId && (world.findDevice link.deviceId).isSome

/-- The number of devices linked to a group, once for each link. -/
def deviceCount (world : World) (groupId : Id) : Nat :=
  (world.rows.links.filter (joins world groupId)).length

/-- The groups of a user as the tables have them. -/
def readGroups (world : World) (userId : Id) : List DeviceGroupCacheItem :=
  (world.rows.groups.filter fun group => group.owner = userId).map fun group =>
    ⟨group, deviceCount world group.id⟩

def findItem (items : List DeviceGroupCacheItem) (groupId : Id) :
    Except ApiError DeviceGroupCacheItem :=
  match items.find? fun item => item.group.id = groupId with
  | some item => .ok item
  | none => .error (.user (.plain "group not found"))

/-- A group missing in the cache renews the entry of the user. -/
def selectByGroupId (userId groupId : Id) : Service DeviceGroupCacheItem := do
  let world ← get
  match (DeviceGroupCache.loadByUserId world userId).bind fun items =>
      items.find? fun item => item.group.id = groupId with
  | some item => return item
  | none =>
      DeviceGroupCache.saveByUserId (readGroups world userId) userId
      ofExcept (findItem (readGroups world userId) groupId)

/-- A default group that is missing is created, and the entry of the user
renewed with it. -/
def selectDefaultGroup (userId : Id) (now : Timestamp) : Service DeviceGroupCacheItem := do
  let world ← get
  match DeviceGroupCache.loadDefaultByUserId world userId with
  | some item => return item
  | none =>
      match defaultRow world userId with
      | some group => return ⟨group, 0⟩
      | none =>
          let group ← createGroupDefault ⟨"All", "All"⟩ userId now
          let world ← get
          DeviceGroupCache.saveByUserId (readGroups world userId) userId
          return ⟨group, 0⟩

end DeviceGroupService
end SnapEmu.Server
