import SnapEmu.Semantics.StableOrder
import SnapEmu.Server.Finishing
import SnapEmu.Server.Requests

/-! The order of the devices of a group: links, unlinks and pinnings of one
user in one group, one after another. -/
namespace SnapEmu.Server

open Device Management Semantics User Action DeviceGroupService DeviceOrderService

/-- The rows that the database returns for a group, in the order of the list. -/
def DeviceOrderService.deviceOrderGroup (returned : List DeviceMapGroupModel) :
    List DeviceMapGroupModel :=
  returned.mergeSort fun pre cur => decide (cur.devOrder ≤ pre.devOrder)

inductive OrderOperation where
  | link (device : Id) (now : Timestamp)
  | linkToDefaultGroup (device : Id) (now : Timestamp)
  | unlink (device : Id)
  | deviceTop (device : Id) (groupId : Option Id) (now : Timestamp)

def orderStep (userId group : Id) (world : World) : OrderOperation → World
  | .link device now => (link group userId device now).after world
  | .linkToDefaultGroup device now => (linkToDefaultGroup userId device now).after world
  | .unlink device => (unlink device userId group).after world
  | .deviceTop device groupId now => (deviceTop userId device groupId now).after world

/-- The links of a group. -/
def inGroup (group : Id) (links : List DeviceMapGroupModel) : List DeviceMapGroupModel :=
  links.filter fun link => link.groupId = group

/-- The group that a pinning is about, which may be the default group. -/
def Names (world : World) (userId group : Id) : Option Id → Prop
  | none => defaultGroupId world userId = .ok group
  | some groupId => groupId = group

def Unlinked (world : World) (group device : Id) : Prop :=
  ∀ link ∈ inGroup group world.rows.links, link.deviceId ≠ device

/-- An operation on the group that links no device twice. -/
def OrderOperation.Concerns (userId group : Id) (world : World) : OrderOperation → Prop
  | .link device _ => Unlinked world group device
  | .linkToDefaultGroup device _ =>
      defaultGroupId world userId = .ok group ∧ Unlinked world group device
  | .unlink _ => True
  | .deviceTop _ groupId _ => Names world userId group groupId

def OrderOperation.pins : OrderOperation → Bool
  | .deviceTop _ _ _ => true
  | _ => false

def pinnings (operations : List OrderOperation) : Nat :=
  operations.countP OrderOperation.pins

/-- A group without links, among links that have their keys from the sequence. -/
structure NewGroup (group : Id) (world : World) : Prop where
  keys : (world.rows.links.map fun link => link.id).Nodup
  given : ∀ link ∈ world.rows.links, link.id.value.toNat < world.sequences.link
  empty : inGroup group world.rows.links = []

/-- The orders of the pinned devices. -/
def pinnedOrders (rows : List DeviceMapGroupModel) : List Int32 :=
  (rows.map fun link => link.devOrder).filter fun devOrder => 0 < devOrder

/-- The rows of a group as a query returns them: those of equal order in a
fixed order. -/
structure Returns (fixed : DeviceMapGroupModel → DeviceMapGroupModel → Prop) (world : World)
    (group : Id) (returned : List DeviceMapGroupModel) : Prop where
  rows : returned.Perm (inGroup group world.rows.links)
  ties : returned.Pairwise fun first second =>
    first.devOrder = second.devOrder → fixed first second

/-- A device has come to stand strictly first, the others as they were. -/
def StandsFirst (device : Id) (before after : List DeviceMapGroupModel) : Prop :=
  ∃ top others, after = top :: others ∧ top.deviceId = device ∧
    (∀ other ∈ others, other.devOrder < top.devOrder) ∧
      others = before.filter fun link => link.deviceId ≠ device

instance int32Max : Std.LawfulOrderMax Int32 := by
  refine .of_max_le_iff (fun first second bound => ?_) fun first second => ?_
  · change (if first ≤ second then second else first) ≤ bound ↔ _
    split_ifs with hLe
    · exact ⟨fun h => ⟨Int32.le_trans hLe h, h⟩, fun h => h.2⟩
    · have hGe := (Int32.le_total first second).resolve_left hLe
      exact ⟨fun h => ⟨h, Int32.le_trans hGe h⟩, fun h => h.1⟩
  · change (if first ≤ second then second else first) = first ∨
      (if first ≤ second then second else first) = second
    split_ifs
    · exact .inr rfl
    · exact .inl rfl

/-- What holds of the links and their sequence after a number of pinnings. -/
structure Stands (userId group : Id) (count : Nat) (links : List DeviceMapGroupModel)
    (next : Nat) : Prop where
  keys : (links.map fun link => link.id).Nodup
  given : ∀ link ∈ links, link.id.value.toNat < next
  own : ∀ link ∈ inGroup group links, link.userId = userId
  once : ((inGroup group links).map fun link => link.deviceId).Nodup
  range : ∀ link ∈ inGroup group links,
    0 ≤ link.devOrder.toInt ∧ link.devOrder.toInt ≤ count
  pinned : (pinnedOrders (inGroup group links)).Nodup

section

variable {userId group : Id} {count next : Nat} {links : List DeviceMapGroupModel}

theorem mem_inGroup {link : DeviceMapGroupModel} :
    link ∈ inGroup group links ↔ link ∈ links ∧ link.groupId = group := by
  rw [inGroup, List.mem_filter, decide_eq_true_eq]

/-- A new group has no link that is pinned. -/
theorem NewGroup.stands {world : World} (h : NewGroup group world) :
    Stands userId group 0 world.rows.links world.sequences.link where
  keys := h.keys
  given := h.given
  own := by
    rw [h.empty]
    exact fun _ hLink => absurd hLink List.not_mem_nil
  once := by
    rw [h.empty]
    exact List.nodup_nil
  range := by
    rw [h.empty]
    exact fun _ hLink => absurd hLink List.not_mem_nil
  pinned := by
    rw [h.empty]
    exact List.nodup_nil

/-- A bound on the pinnings may be raised. -/
theorem Stands.mono {more : Nat} (h : Stands userId group count links next) (hLe : count ≤ more) :
    Stands userId group more links next where
  keys := h.keys
  given := h.given
  own := h.own
  once := h.once
  range := fun link hLink => ⟨(h.range link hLink).1,
    (h.range link hLink).2.trans (Int.ofNat_le.mpr hLe)⟩
  pinned := h.pinned

/-- A device that is not in the group is linked at the bottom. -/
theorem Stands.insert {id device : Id} {now : Timestamp} (h : Stands userId group count links next)
    (hDevice : ∀ link ∈ inGroup group links, link.deviceId ≠ device) (hId : id.value.toNat = next) :
    Stands userId group count (links ++ [⟨id, userId, device, group, 0, now⟩]) (next + 1) := by
  have hGroup : inGroup group (links ++ [⟨id, userId, device, group, 0, now⟩]) =
      inGroup group links ++ [⟨id, userId, device, group, 0, now⟩] := by
    simp [inGroup]
  constructor
  · rw [List.map_append, List.map_singleton, List.nodup_append]
    refine ⟨h.keys, List.nodup_singleton _, fun key hKey other hOther hEq => ?_⟩
    obtain ⟨link, hLink, rfl⟩ := List.mem_map.mp hKey
    have hLt := h.given link hLink
    rw [hEq, List.mem_singleton.mp hOther, hId] at hLt
    exact lt_irrefl _ hLt
  · intro link hLink
    rcases List.mem_append.mp hLink with hOld | hNew
    · exact (h.given link hOld).trans (Nat.lt_succ_self next)
    · rw [List.mem_singleton.mp hNew, hId]
      exact Nat.lt_succ_self next
  · rw [hGroup]
    intro link hLink
    rcases List.mem_append.mp hLink with hOld | hNew
    · exact h.own link hOld
    · rw [List.mem_singleton.mp hNew]
  · rw [hGroup, List.map_append, List.map_singleton, List.nodup_append]
    refine ⟨h.once, List.nodup_singleton _, fun key hKey other hOther hEq => ?_⟩
    obtain ⟨link, hLink, rfl⟩ := List.mem_map.mp hKey
    exact hDevice link hLink (hEq.trans (List.mem_singleton.mp hOther))
  · rw [hGroup]
    intro link hLink
    rcases List.mem_append.mp hLink with hOld | hNew
    · exact h.range link hOld
    · rw [List.mem_singleton.mp hNew]
      exact ⟨le_refl _, Int.natCast_nonneg count⟩
  · rw [hGroup, pinnedOrders, List.map_append, List.filter_append]
    exact (List.append_nil _).symm ▸ h.pinned

/-- Links are taken from the group. -/
theorem Stands.filter (h : Stands userId group count links next)
    (kept : DeviceMapGroupModel → Bool) :
    Stands userId group count (links.filter kept) next := by
  have hLinks : (links.filter kept).Sublist links := List.filter_sublist
  have hGroup : (inGroup group (links.filter kept)).Sublist (inGroup group links) :=
    hLinks.filter _
  constructor
  · exact h.keys.sublist (hLinks.map _)
  · exact fun link hLink => h.given link (hLinks.subset hLink)
  · exact fun link hLink => h.own link (hGroup.subset hLink)
  · exact h.once.sublist (hGroup.map _)
  · exact fun link hLink => h.range link (hGroup.subset hLink)
  · exact h.pinned.sublist ((hGroup.map _).filter _)

/-- The links of a group with the highest order among them. -/
structure Highest (group : Id) (count : Nat) (links : List DeviceMapGroupModel)
    (devOrder : Int32) : Prop where
  nonneg : 0 ≤ devOrder.toInt
  le : devOrder.toInt ≤ count
  above : ∀ link ∈ inGroup group links, link.devOrder ≤ devOrder

/-- The highest order of a group is bounded by the pinnings before. -/
theorem Stands.highest {world : World}
    (h : Stands userId group count world.rows.links world.sequences.link) :
    Highest group count world.rows.links (deviceGroupMaxOrder world userId group) := by
  have hMem : ∀ link, link ∈ inGroup group world.rows.links ↔ link ∈ world.rows.links.filter
      fun link => link.groupId = group ∧ link.userId = userId := by
    intro link
    rw [mem_inGroup, List.mem_filter, decide_eq_true_eq]
    refine and_congr_right fun hLink => ⟨fun hGroup => ⟨hGroup, ?_⟩, fun hBoth => hBoth.1⟩
    exact h.own link (mem_inGroup.mpr ⟨hLink, hGroup⟩)
  unfold deviceGroupMaxOrder
  cases hMax : ((world.rows.links.filter fun link =>
      link.groupId = group ∧ link.userId = userId).map fun link => link.devOrder).max? with
  | none =>
      have hNone := List.map_eq_nil_iff.mp (List.max?_eq_none_iff.mp hMax)
      refine ⟨le_refl _, Int.natCast_nonneg count, fun link hLink => ?_⟩
      rw [hMem, hNone] at hLink
      exact absurd hLink List.not_mem_nil
  | some devOrder =>
      obtain ⟨hHeld, hAbove⟩ := List.max?_eq_some_iff.mp hMax
      obtain ⟨highest, hHighest, rfl⟩ := List.mem_map.mp hHeld
      obtain ⟨hNonneg, hLe⟩ := h.range highest ((hMem highest).mpr hHighest)
      exact ⟨hNonneg, hLe, fun link hLink =>
        hAbove _ (List.mem_map_of_mem ((hMem link).mp hLink))⟩

/-- One link of the group comes to stand above the others. -/
structure Raised (group : Id) (count : Nat) (links after : List DeviceMapGroupModel)
    (order top : DeviceMapGroupModel) (others : List DeviceMapGroupModel) : Prop where
  before : (inGroup group links).Perm (order :: others)
  after : (inGroup group after).Perm (top :: others)
  above : ∀ other ∈ others, other.devOrder < top.devOrder
  device : top.deviceId = order.deviceId
  user : top.userId = order.userId
  nonneg : 0 ≤ top.devOrder.toInt
  le : top.devOrder.toInt ≤ count + 1

/-- The links that `raise` leaves. -/
def raisedLinks (order : DeviceMapGroupModel) (devOrder : Int32)
    (links : List DeviceMapGroupModel) : List DeviceMapGroupModel :=
  if order.devOrder ≠ devOrder ∨ devOrder = 0 then links.map (raiseLink order devOrder) else links

variable {order : DeviceMapGroupModel} {devOrder : Int32} {others : List DeviceMapGroupModel}

/-- A link that is raised stays in its group. -/
theorem inGroup_raise :
    inGroup group (links.map (raiseLink order devOrder)) =
      (inGroup group links).map (raiseLink order devOrder) := by
  unfold inGroup
  rw [List.filter_map]
  refine congrArg (List.map _) (List.filter_congr fun link _ => ?_)
  change decide ((raiseLink order devOrder link).groupId = group) = _
  rw [raiseLink_groupId]

/-- The next order does not overflow within the bound. -/
theorem toInt_succ (hNonneg : 0 ≤ devOrder.toInt) (hLe : devOrder.toInt ≤ count)
    (hCount : count < 2 ^ 31 - 1) : (devOrder + 1).toInt = devOrder.toInt + 1 := by
  have hOne : (1 : Int32).toInt = 1 := rfl
  rw [Int32.toInt_add, hOne]
  exact Int.bmod_eq_of_le (by omega) (by omega)

theorem pinnedOrders_cons (h : 0 < order.devOrder) :
    pinnedOrders (order :: others) = order.devOrder :: pinnedOrders others :=
  List.filter_cons_of_pos (decide_eq_true h)

/-- The pinned orders are the positive ones. -/
theorem mem_pinnedOrders :
    devOrder ∈ pinnedOrders others ↔
      (∃ link ∈ others, link.devOrder = devOrder) ∧ 0 < devOrder := by
  rw [pinnedOrders, List.mem_filter, List.mem_map, decide_eq_true_eq]

/-- The link that is raised is above the highest of the others. -/
theorem Stands.raise (h : Stands userId group count links next)
    (hBefore : (inGroup group links).Perm (order :: others))
    (hHighest : Highest group count links devOrder) (hCount : count < 2 ^ 31 - 1) :
    Raised group count links (links.map (raiseLink order devOrder)) order
      { order with devOrder := devOrder + 1 } others := by
  have hSucc := toInt_succ hHighest.nonneg hHighest.le hCount
  refine ⟨hBefore, ?_, ?_, rfl, rfl, ?_, ?_⟩
  · have hKeys : ((order :: others).map fun link => link.id).Nodup :=
      (hBefore.map _).nodup_iff.mp (h.keys.sublist (List.filter_sublist.map _))
    have hOthers : others.map (raiseLink order devOrder) = others := by
      refine (List.map_congr_left fun other hOther => raiseLink_other fun hId => ?_).trans
        (List.map_id' others)
      exact (List.nodup_cons.mp hKeys).1 (List.mem_map.mpr ⟨other, hOther, hId⟩)
    have hPerm := hBefore.map (raiseLink order devOrder)
    rw [List.map_cons, hOthers, raiseLink_self] at hPerm
    rw [inGroup_raise]
    exact hPerm
  · intro other hOther
    have hMem : other ∈ inGroup group links := hBefore.symm.subset (List.mem_cons_of_mem _ hOther)
    have hLe := Int32.le_iff_toInt_le.mp (hHighest.above other hMem)
    rw [Int32.lt_iff_toInt_lt, hSucc]
    exact Int.lt_add_one_of_le hLe
  · rw [hSucc]
    exact Int.le_add_one hHighest.nonneg
  · rw [hSucc]
    exact Int.add_le_add_right hHighest.le 1

/-- A pinned link of the highest order is above the others already. -/
theorem Stands.alone (h : Stands userId group count links next)
    (hBefore : (inGroup group links).Perm (order :: others))
    (hHighest : Highest group count links order.devOrder) (hZero : order.devOrder ≠ 0) :
    Raised group count links links order order others := by
  have hPinned : 0 < order.devOrder := by
    rw [Int32.lt_iff_toInt_lt]
    exact lt_of_le_of_ne hHighest.nonneg fun hEq => hZero (Int32.toInt_inj.mp hEq.symm)
  refine ⟨hBefore, hBefore, ?_, rfl, rfl, hHighest.nonneg, Int.le_add_one hHighest.le⟩
  intro other hOther
  have hMem : other ∈ inGroup group links := hBefore.symm.subset (List.mem_cons_of_mem _ hOther)
  have hLe := Int32.le_iff_toInt_le.mp (hHighest.above other hMem)
  rw [Int32.lt_iff_toInt_lt]
  refine lt_of_le_of_ne hLe fun hEq => ?_
  have hOrders : (pinnedOrders (order :: others)).Nodup :=
    ((hBefore.map _).filter _).nodup_iff.mp h.pinned
  rw [pinnedOrders_cons hPinned] at hOrders
  exact (List.nodup_cons.mp hOrders).1
    (mem_pinnedOrders.mpr ⟨⟨other, hOther, Int32.toInt_inj.mp hEq⟩, hPinned⟩)

/-- A pinning brings a link above all others of its group. -/
theorem Stands.raised (h : Stands userId group count links next)
    (hOrder : order ∈ inGroup group links) (hHighest : Highest group count links devOrder)
    (hCount : count < 2 ^ 31 - 1) :
    ∃ top others, Raised group count links (raisedLinks order devOrder links) order top others := by
  obtain ⟨front, back, hSplit⟩ := List.append_of_mem hOrder
  have hBefore : (inGroup group links).Perm (order :: (front ++ back)) := by
    rw [hSplit]
    exact List.perm_middle
  unfold raisedLinks
  split_ifs with hRaise
  · exact ⟨_, front ++ back, h.raise hBefore hHighest hCount⟩
  · obtain ⟨hSame, hZero⟩ := not_or.mp hRaise
    have hDevOrder := not_not.mp hSame
    subst hDevOrder
    exact ⟨order, front ++ back, h.alone hBefore hHighest hZero⟩

/-- After a pinning the pinned orders are still different. -/
theorem Stands.of_raised {after : List DeviceMapGroupModel} {top : DeviceMapGroupModel}
    (h : Stands userId group count links next)
    (hRaised : Raised group count links after order top others)
    (hKeys : after.map (fun link => link.id) = links.map fun link => link.id) :
    Stands userId group (count + 1) after next := by
  have hOthers : ∀ other ∈ others, other ∈ inGroup group links := fun other hOther =>
    hRaised.before.symm.subset (List.mem_cons_of_mem order hOther)
  have hOrder : order ∈ inGroup group links := hRaised.before.symm.subset List.mem_cons_self
  constructor
  · rw [hKeys]
    exact h.keys
  · intro link hLink
    have hId : link.id ∈ links.map fun link => link.id := by
      rw [← hKeys]
      exact List.mem_map_of_mem hLink
    obtain ⟨old, hOld, hEq⟩ := List.mem_map.mp hId
    rw [← hEq]
    exact h.given old hOld
  · intro link hLink
    rcases List.mem_cons.mp (hRaised.after.subset hLink) with rfl | hOther
    · exact hRaised.user.trans (h.own order hOrder)
    · exact h.own link (hOthers link hOther)
  · have hDevices := (hRaised.before.map fun link => link.deviceId).nodup_iff.mp h.once
    refine (hRaised.after.map fun link => link.deviceId).nodup_iff.mpr ?_
    rw [List.map_cons, hRaised.device]
    exact hDevices
  · intro link hLink
    rcases List.mem_cons.mp (hRaised.after.subset hLink) with rfl | hOther
    · exact ⟨hRaised.nonneg, hRaised.le⟩
    · obtain ⟨hNonneg, hLe⟩ := h.range link (hOthers link hOther)
      exact ⟨hNonneg, Int.le_add_one hLe⟩
  · refine ((hRaised.after.map _).filter _).nodup_iff.mpr ?_
    have hRest : (pinnedOrders others).Nodup := by
      have hOrders := ((hRaised.before.map _).filter _).nodup_iff.mp h.pinned
      exact hOrders.sublist (((List.sublist_cons_self order others).map _).filter _)
    by_cases hPositive : 0 < top.devOrder
    · change (pinnedOrders (top :: others)).Nodup
      rw [pinnedOrders_cons hPositive, List.nodup_cons]
      refine ⟨fun hMem => ?_, hRest⟩
      obtain ⟨⟨other, hOther, hEq⟩, -⟩ := mem_pinnedOrders.mp hMem
      have hLt := hRaised.above other hOther
      rw [hEq] at hLt
      exact Int32.lt_irrefl hLt
    · rw [List.map_cons, List.filter_cons_of_neg (by rwa [decide_eq_true_eq])]
      exact hRest

/-- A world with other links. -/
def World.withLinks (world : World) (links : List DeviceMapGroupModel) : World :=
  { world with rows := { world.rows with links := links } }

/-- A pinning changes the links and nothing else. -/
theorem raise_eq (world : World) (order : DeviceMapGroupModel) (devOrder : Int32) :
    DeviceOrderService.raise order devOrder world =
      some (world.withLinks (raisedLinks order devOrder world.rows.links), .ok ()) := by
  unfold DeviceOrderService.raise raisedLinks
  split_ifs <;> rfl

/-- The links after a pinning. -/
def toppedLinks (world : World) (userId device group : Id) : List DeviceMapGroupModel :=
  match findOrder world userId device group with
  | none => world.rows.links
  | some order => raisedLinks order (deviceGroupMaxOrder world userId group) world.rows.links

/-- Pinning changes the links of the group it names. -/
theorem deviceTop_links {world : World} {groupId : Option Id}
    (hNames : Names world userId group groupId) (device : Id) (now : Timestamp) :
    ((deviceTop userId device groupId now).after world).rows.links =
        toppedLinks world userId device group ∧
      ((deviceTop userId device groupId now).after world).sequences.link =
        world.sequences.link := by
  unfold toppedLinks
  cases groupId with
  | some groupId =>
      obtain rfl : groupId = group := hNames
      unfold deviceTop deviceGroup after
      dsimp only
      rw [get_bind]
      cases findOrder world userId device groupId with
      | none => exact ⟨rfl, rfl⟩
      | some order =>
          dsimp only
          rw [raise_eq]
          exact ⟨rfl, rfl⟩
  | none =>
      obtain ⟨default, found, rfl, hQuery, hFound⟩ := queryUserDefaultGroup_found hNames now
      have hOrder : findOrder found userId device default.id =
          findOrder world userId device default.id := by
        unfold findOrder
        rw [hFound.links]
      have hMax : deviceGroupMaxOrder found userId default.id =
          deviceGroupMaxOrder world userId default.id := by
        unfold deviceGroupMaxOrder
        rw [hFound.links]
      unfold deviceTop deviceDefaultGroup after
      dsimp only
      rw [bind_ok hQuery, get_bind, hOrder, hMax]
      cases findOrder world userId device default.id with
      | none => exact ⟨hFound.links, hFound.link⟩
      | some order =>
          rw [Option.toList_some, forEach, bind_ok (raise_eq found order _), hFound.links]
          exact ⟨rfl, hFound.link⟩

/-- At most one link is added, at the bottom of the group. -/
def LinksOne (userId group device : Id) (now : Timestamp) (world after : World) : Prop :=
  (after.rows.links = world.rows.links ∧ after.sequences.link = world.sequences.link) ∨
    ∃ id : Id, id.value.toNat = world.sequences.link ∧
      after.rows.links = world.rows.links ++ [⟨id, userId, device, group, 0, now⟩] ∧
        after.sequences.link = world.sequences.link + 1

/-- A link comes last in its group, with order zero, if at all. -/
theorem link_links (world : World) (userId group device : Id) (now : Timestamp) :
    LinksOne userId group device now world ((link group userId device now).after world) := by
  unfold link after
  rw [get_bind]
  cases world.findGroup group with
  | none => exact .inl ⟨rfl, rfl⟩
  | some found =>
      dsimp only
      rw [DeviceGroupCache.deleteByUserId, modify_bind]
      cases hNumber : numbered world.sequences.link with
      | error error =>
          rw [@insertLink_error (world.setGroupCache userId none) userId device group now error
            hNumber]
          exact .inl ⟨rfl, rfl⟩
      | ok id =>
          rw [@insertLink_ok (world.setGroupCache userId none) userId device group now id hNumber]
          exact .inr ⟨id, numbered_ok hNumber, rfl, rfl⟩

/-- The link to the default group comes last in it, with order zero, if at all. -/
theorem linkToDefaultGroup_links {world : World}
    (hDefault : defaultGroupId world userId = .ok group) (device : Id) (now : Timestamp) :
    LinksOne userId group device now world
      ((linkToDefaultGroup userId device now).after world) := by
  obtain ⟨default, found, rfl, hQuery, hFound⟩ := queryUserDefaultGroup_found hDefault now
  unfold linkToDefaultGroup after LinksOne
  rw [bind_ok hQuery, DeviceGroupCache.deleteByUserId, modify_bind, ← hFound.links, ← hFound.link]
  cases hNumber : numbered found.sequences.link with
  | error error =>
      rw [@insertLink_error (found.setGroupCache userId none) userId device default.id now error
        hNumber]
      exact .inl ⟨rfl, rfl⟩
  | ok id =>
      rw [@insertLink_ok (found.setGroupCache userId none) userId device default.id now id hNumber]
      exact .inr ⟨id, numbered_ok hNumber, rfl, rfl⟩

/-- A new link leaves the pinned orders as they are. -/
theorem Stands.linksOne {world after : World} {device : Id} {now : Timestamp}
    (h : Stands userId group count world.rows.links world.sequences.link)
    (hUnlinked : Unlinked world group device)
    (hOne : LinksOne userId group device now world after) :
    Stands userId group count after.rows.links after.sequences.link := by
  rcases hOne with ⟨hLinks, hNext⟩ | ⟨id, hId, hLinks, hNext⟩
  · rw [hLinks, hNext]
    exact h
  · rw [hLinks, hNext]
    exact h.insert hUnlinked hId

/-- Pinning changes no number of a link. -/
theorem raisedLinks_keys :
    (raisedLinks order devOrder links).map (fun link => link.id) =
      links.map fun link => link.id := by
  unfold raisedLinks
  split_ifs
  · rw [List.map_map]
    exact List.map_congr_left fun link _ => raiseLink_id link
  · rfl

/-- The link that is found is one of the device in the group. -/
theorem findOrder_mem {world : World} {device : Id}
    (h : findOrder world userId device group = some order) :
    order ∈ inGroup group world.rows.links ∧ order.deviceId = device := by
  unfold findOrder at h
  have hMatch := List.find?_some h
  rw [decide_eq_true_eq] at hMatch
  exact ⟨mem_inGroup.mpr ⟨List.mem_of_find?_eq_some h, hMatch.1⟩, hMatch.2.2⟩

/-- Pinning a device of the group keeps the pinned orders different. -/
theorem Stands.topped {world : World}
    (h : Stands userId group count world.rows.links world.sequences.link)
    (hCount : count < 2 ^ 31 - 1) (device : Id) :
    Stands userId group (count + 1) (toppedLinks world userId device group)
      world.sequences.link := by
  unfold toppedLinks
  cases hFind : findOrder world userId device group with
  | none => exact h.mono (Nat.le_succ count)
  | some order =>
      obtain ⟨top, others, hRaised⟩ := h.raised (findOrder_mem hFind).1 h.highest hCount
      exact h.of_raised hRaised raisedLinks_keys

/-- One operation, which counts if it pins. -/
theorem Stands.step {world : World} {operation : OrderOperation}
    (h : Stands userId group count world.rows.links world.sequences.link)
    (hConcerns : operation.Concerns userId group world)
    (hCount : count + pinnings [operation] < 2 ^ 31 - 1) :
    Stands userId group (count + pinnings [operation])
      (orderStep userId group world operation).rows.links
      (orderStep userId group world operation).sequences.link := by
  cases operation with
  | link device now => exact h.linksOne hConcerns (link_links world userId group device now)
  | linkToDefaultGroup device now =>
      exact h.linksOne hConcerns.2 (linkToDefaultGroup_links hConcerns.1 device now)
  | unlink device => exact h.filter _
  | deviceTop device groupId now =>
      obtain ⟨hLinks, hNext⟩ := deviceTop_links hConcerns device now
      change Stands userId group (count + 1) ((deviceTop userId device groupId now).after
        world).rows.links ((deviceTop userId device groupId now).after world).sequences.link
      rw [hLinks, hNext]
      exact h.topped (Nat.lt_of_succ_lt hCount) device

/-- Pinnings are counted one after another. -/
theorem pinnings_cons (operation : OrderOperation) (operations : List OrderOperation) :
    pinnings (operation :: operations) = pinnings [operation] + pinnings operations := by
  rw [← List.singleton_append]
  exact List.countP_append

/-- After a run the pinned orders are different and bounded by the pinnings. -/
theorem Stands.run (operations : List OrderOperation) {world : World}
    (h : Stands userId group count world.rows.links world.sequences.link)
    (hOperations : Meets (orderStep userId group)
      (fun world operation => operation.Concerns userId group world) world operations)
    (hCount : count + pinnings operations < 2 ^ 31 - 1) :
    Stands userId group (count + pinnings operations)
      (run (orderStep userId group) world operations).rows.links
      (run (orderStep userId group) world operations).sequences.link := by
  induction operations generalizing count world with
  | nil => exact h
  | cons operation operations ih =>
      rw [pinnings_cons, ← Nat.add_assoc] at hCount ⊢
      have hStep := h.step hOperations.1 (by omega)
      exact ih hStep hOperations.2 hCount

/-- The list is sorted by falling order, ties as the database returns them. -/
theorem deviceOrderGroup_eq (returned : List DeviceMapGroupModel) :
    deviceOrderGroup returned = byRank (fun link => link.devOrder.toInt) returned := by
  have hLe : (fun pre cur : DeviceMapGroupModel => decide (cur.devOrder ≤ pre.devOrder)) =
      fun pre cur => decide (cur.devOrder.toInt ≤ pre.devOrder.toInt) := by
    funext pre cur
    exact decide_eq_decide.mpr Int32.le_iff_toInt_le
  rw [deviceOrderGroup, hLe]
  rfl

/-- Where the database fixes ties, it does so for equal orders. -/
theorem Returns.tiesFixed {fixed : DeviceMapGroupModel → DeviceMapGroupModel → Prop}
    {world : World} {returned : List DeviceMapGroupModel} (h : Returns fixed world group returned) :
    TiesFixed (fun link => link.devOrder.toInt) fixed returned :=
  h.ties.imp fun hTie hEq => hTie (Int32.toInt_inj.mp hEq)

/-- The list after a link has been raised. -/
theorem Raised.standsFirst {fixed : DeviceMapGroupModel → DeviceMapGroupModel → Prop}
    (hFixed : ∀ first second, fixed first second → ¬fixed second first) {world after : World}
    {top : DeviceMapGroupModel} {before listed : List DeviceMapGroupModel}
    (h : Raised group count world.rows.links after.rows.links order top others)
    (hOnce : ((inGroup group world.rows.links).map fun link => link.deviceId).Nodup)
    (hBefore : Returns fixed world group before) (hListed : Returns fixed after group listed) :
    StandsFirst order.deviceId (deviceOrderGroup before) (deviceOrderGroup listed) := by
  have hDevices : ((order :: others).map fun link => link.deviceId).Nodup :=
    (h.before.map _).nodup_iff.mp hOnce
  have hPerm := (byRank_perm (fun link => link.devOrder.toInt) before).trans
    (hBefore.rows.trans h.before)
  have hErase : (byRank (fun link => link.devOrder.toInt) before).erase order =
      (byRank (fun link => link.devOrder.toInt) before).filter
        fun link => link.deviceId ≠ order.deviceId := by
    rw [(hPerm.nodup_iff.mpr (hDevices.of_map _)).erase_eq_filter]
    refine List.filter_congr fun link hLink => ?_
    rw [Bool.eq_iff_iff, bne_iff_ne, decide_eq_true_eq, not_iff_not]
    refine ⟨fun hEq => by rw [hEq], fun hEq => ?_⟩
    exact List.inj_on_of_nodup_map hDevices (hPerm.subset hLink) List.mem_cons_self hEq
  have hRaised := byRank_raised hFixed (hBefore.rows.trans h.before) (hDevices.of_map _)
    hBefore.tiesFixed (hListed.rows.trans h.after)
    (fun other hOther => Int32.lt_iff_toInt_lt.mp (h.above other hOther)) hListed.tiesFixed
  rw [deviceOrderGroup_eq, deviceOrderGroup_eq, hRaised, hErase]
  refine ⟨top, _, rfl, h.device, fun other hOther => h.above other ?_, rfl⟩
  rw [← hErase] at hOther
  have hRest := hPerm.erase order
  rw [List.erase_cons_head] at hRest
  exact hRest.subset hOther

/-- A device that is linked is found in its group. -/
theorem Stands.findOrder_some {world : World} {device : Id}
    (h : Stands userId group count world.rows.links world.sequences.link)
    (hLinked : ¬Unlinked world group device) :
    ∃ order, findOrder world userId device group = some order := by
  unfold Unlinked at hLinked
  push Not at hLinked
  obtain ⟨link, hLink, hDevice⟩ := hLinked
  refine Option.isSome_iff_exists.mp (List.find?_isSome.mpr ⟨link, (mem_inGroup.mp hLink).1, ?_⟩)
  exact decide_eq_true ⟨(mem_inGroup.mp hLink).2, h.own link hLink, hDevice⟩

/-- A device of the group that is pinned stands first. -/
theorem Stands.topped_first {fixed : DeviceMapGroupModel → DeviceMapGroupModel → Prop}
    (hFixed : ∀ first second, fixed first second → ¬fixed second first) {world after : World}
    {device : Id} {before listed : List DeviceMapGroupModel}
    (h : Stands userId group count world.rows.links world.sequences.link)
    (hCount : count < 2 ^ 31 - 1) (hLinked : ¬Unlinked world group device)
    (hAfter : after.rows.links = toppedLinks world userId device group)
    (hBefore : Returns fixed world group before) (hListed : Returns fixed after group listed) :
    StandsFirst device (deviceOrderGroup before) (deviceOrderGroup listed) := by
  obtain ⟨order, hFind⟩ := h.findOrder_some hLinked
  obtain ⟨hOrder, rfl⟩ := findOrder_mem hFind
  obtain ⟨top, others, hRaised⟩ := h.raised hOrder h.highest hCount
  have hLinks : after.rows.links =
      raisedLinks order (deviceGroupMaxOrder world userId group) world.rows.links := by
    rw [hAfter, toppedLinks, hFind]
  rw [← hLinks] at hRaised
  exact hRaised.standsFirst hFixed h.once hBefore hListed

/-- In a run of less than `2 ^ 31 - 1` pinnings the orders of pinned devices
stay distinct, and a device that is pinned stands strictly first, before the
others in the order that they had. -/
theorem pinned_device_first {fixed : DeviceMapGroupModel → DeviceMapGroupModel → Prop}
    (hFixed : ∀ first second, fixed first second → ¬fixed second first) {world : World}
    (hStart : NewGroup group world) (operations : List OrderOperation)
    (hOperations : Meets (orderStep userId group)
      (fun world operation => operation.Concerns userId group world) world operations)
    (hCount : pinnings operations < 2 ^ 31 - 1) :
    (pinnedOrders (inGroup group
        (run (orderStep userId group) world operations).rows.links)).Nodup ∧
      ∀ earlier device groupId now, operations = earlier ++ [.deviceTop device groupId now] →
        ¬Unlinked (run (orderStep userId group) world earlier) group device →
          ∀ before listed,
            Returns fixed (run (orderStep userId group) world earlier) group before →
              Returns fixed (run (orderStep userId group) world operations) group listed →
                StandsFirst device (deviceOrderGroup before) (deviceOrderGroup listed) := by
  have hStands : Stands userId group 0 world.rows.links world.sequences.link := hStart.stands
  refine ⟨?_, ?_⟩
  · exact (hStands.run operations hOperations (by omega)).pinned
  · intro earlier device groupId now hEq hLinked before listed hBefore hListed
    subst hEq
    obtain ⟨hEarlier, hLast⟩ := meets_append.mp hOperations
    have hPinnings : pinnings (earlier ++ [.deviceTop device groupId now]) = pinnings earlier + 1 :=
      List.countP_append
    have hBeforeTop := hStands.run earlier hEarlier (by omega)
    refine hBeforeTop.topped_first hFixed (by omega) hLinked ?_ hBefore hListed
    rw [run_append]
    exact (deviceTop_links hLast.1 device now).1

end

/-- A group of one user in tables that are empty otherwise. -/
def newGroup : World :=
  World.empty.addGroup ⟨⟨1⟩, "Home", "", false, ⟨1⟩, ⟨0⟩⟩

def threePinned : List OrderOperation :=
  [.link ⟨1⟩ ⟨0⟩, .link ⟨2⟩ ⟨0⟩, .link ⟨3⟩ ⟨0⟩, .deviceTop ⟨1⟩ (some ⟨1⟩) ⟨0⟩]

/-- The links of the group after the operations. -/
def linksAfter (operations : List OrderOperation) : List DeviceMapGroupModel :=
  inGroup ⟨1⟩ (run (orderStep ⟨1⟩ ⟨1⟩) newGroup operations).rows.links

theorem pinned_device_first_two :
    StandsFirst ⟨2⟩ (deviceOrderGroup (linksAfter threePinned))
      (deviceOrderGroup (linksAfter (threePinned ++ [.deviceTop ⟨2⟩ (some ⟨1⟩) ⟨0⟩]))) := by
  let fixed := fun first second : DeviceMapGroupModel => first.id.value < second.id.value
  have hFixed : ∀ first second, fixed first second → ¬fixed second first :=
    fun _ _ hForth hBack => UInt64.lt_asymm hForth hBack
  have hStart : NewGroup ⟨1⟩ newGroup := ⟨List.nodup_nil, by decide, rfl⟩
  have hOperations : Meets (orderStep ⟨1⟩ ⟨1⟩)
      (fun world operation => operation.Concerns ⟨1⟩ ⟨1⟩ world) newGroup
        (threePinned ++ [.deviceTop ⟨2⟩ (some ⟨1⟩) ⟨0⟩]) := by
    refine ⟨?_, ?_, ?_, rfl, rfl, trivial⟩ <;> unfold OrderOperation.Concerns Unlinked
    · decide +kernel
    · decide +kernel
    · decide +kernel
  obtain ⟨-, hFirst⟩ := pinned_device_first hFixed hStart _ hOperations (by decide)
  refine hFirst threePinned ⟨2⟩ (some ⟨1⟩) ⟨0⟩ rfl ?_ _ _ ⟨.refl _, ?_⟩ ⟨.refl _, ?_⟩
  · unfold Unlinked
    decide +kernel
  · change (linksAfter threePinned).Pairwise fun first second =>
      first.devOrder = second.devOrder → first.id.value < second.id.value
    decide +kernel
  · change (linksAfter _).Pairwise fun first second =>
      first.devOrder = second.devOrder → first.id.value < second.id.value
    decide +kernel

end SnapEmu.Server
