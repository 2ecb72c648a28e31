import SnapEmu.Server.Groups

/-! The cache of groups against the tables: when an entry says what the tables
say, and what each change of the tables does to that. -/
namespace SnapEmu.Server

open Device Management Semantics User Action DeviceGroupService

/-- Every entry of the cache is what the tables say. -/
def Coherent (world : World) : Prop :=
  ∀ userId items, world.cache.groups userId = some items → items = readGroups world userId

/-- The keys of the group table are distinct, and its sequence has given them. -/
structure Numbered (world : World) : Prop where
  distinct : (world.rows.groups.map fun group => group.id).Nodup
  given : ∀ group ∈ world.rows.groups, group.id.value.toNat < world.sequences.group

/-- The entry of each user is kept or dropped. -/
def Dropped (world after : World) : Prop :=
  ∀ userId, after.cache.groups userId = none ∨
    after.cache.groups userId = world.cache.groups userId

theorem dropped_refl (world : World) : Dropped world world := fun _ => .inr rfl

theorem dropped_of_eq {world after : World} (h : after.cache = world.cache) :
    Dropped world after := fun _ => .inr (by rw [h])

/-- Entries that stay must still be what the tables say. -/
theorem coherent_iff {world after : World} (h : Coherent world) (hDropped : Dropped world after) :
    Coherent after ↔
      ∀ userId, after.cache.groups userId ≠ none →
        readGroups after userId = readGroups world userId := by
  constructor
  · intro hAfter userId hEntry
    obtain ⟨items, hItems⟩ := Option.ne_none_iff_exists'.mp hEntry
    have hBefore : world.cache.groups userId = some items :=
      ((hDropped userId).resolve_left hEntry).symm.trans hItems
    rw [← hAfter userId items hItems, ← h userId items hBefore]
  · intro hRead userId items hItems
    have hEntry : after.cache.groups userId ≠ none := by
      rw [hItems]
      exact Option.some_ne_none items
    rw [hRead userId hEntry]
    exact h userId items (((hDropped userId).resolve_left hEntry).symm.trans hItems)

/-- Only the rows decide what is read. -/
theorem readGroups_of_rows {world after : World} (hRows : after.rows = world.rows) (userId : Id) :
    readGroups after userId = readGroups world userId := by
  have hJoins : joins after = joins world := by
    funext groupId link
    simp only [joins, World.findDevice, hRows]
  simp only [readGroups, deviceCount, hJoins, hRows]

theorem coherent_of_rows {world after : World} (h : Coherent world)
    (hDropped : Dropped world after) (hRows : after.rows = world.rows) : Coherent after :=
  (coherent_iff h hDropped).mpr fun userId _ => readGroups_of_rows hRows userId

section

variable {world after : World} {userId : Id}

/-- Where the groups stay, what is read of them depends on the counts alone. -/
theorem readGroups_eq_iff (hGroups : after.rows.groups = world.rows.groups) :
    readGroups after userId = readGroups world userId ↔
      ∀ group ∈ world.rows.groups, group.owner = userId →
        deviceCount after group.id = deviceCount world group.id := by
  simp only [readGroups, hGroups, List.map_inj_left, List.mem_filter, decide_eq_true_eq, and_imp,
    DeviceGroupCacheItem.mk.injEq, true_and]

/-- A link counts for its own group, if its device is there. -/
theorem deviceCount_addLink (world : World) (link : DeviceMapGroupModel) (groupId : Id) :
    deviceCount (world.addLink link) groupId =
      deviceCount world groupId + if joins world groupId link then 1 else 0 := by
  have hCount : deviceCount (world.addLink link) groupId =
      ((world.rows.links ++ [link]).filter (joins world groupId)).length := rfl
  rw [hCount, List.filter_append, List.length_append, List.filter_singleton, deviceCount]
  cases joins world groupId link with
  | true => rfl
  | false => rfl

/-- Removing links lowers the count exactly if one of them counted. -/
theorem deviceCount_filterLinks_iff (world : World) (kept : DeviceMapGroupModel → Bool)
    (groupId : Id) :
    deviceCount (world.filterLinks kept) groupId = deviceCount world groupId ↔
      ∀ link ∈ world.rows.links, joins world groupId link → kept link := by
  have hCount : deviceCount (world.filterLinks kept) groupId =
      ((world.rows.links.filter kept).filter (joins world groupId)).length := rfl
  rw [hCount, deviceCount, List.filter_comm, List.length_filter_eq_length_iff]
  simp only [List.mem_filter, and_imp]

theorem readGroups_setGroupCache (world : World) (user : Id)
    (groups : Option (List DeviceGroupCacheItem)) :
    readGroups (world.setGroupCache user groups) userId = readGroups world userId := rfl

/-- A group of another user is not read. -/
theorem readGroups_addGroup (world : World) {group : DeviceGroupModel}
    (hOwner : group.owner ≠ userId) :
    readGroups (world.addGroup group) userId = readGroups world userId := by
  have hRead : readGroups (world.addGroup group) userId =
      ((world.rows.groups ++ [group]).filter fun group => group.owner = userId).map
        fun group => ⟨group, deviceCount world group.id⟩ := rfl
  rw [hRead, List.filter_append, List.filter_singleton, decide_eq_false hOwner]
  simp only [cond_false, List.append_nil, readGroups]

/-- A group of the user changes what is read. -/
theorem readGroups_addGroup_ne (world : World) {group : DeviceGroupModel}
    (hOwner : group.owner = userId) :
    readGroups (world.addGroup group) userId ≠ readGroups world userId := by
  have hRead : readGroups (world.addGroup group) userId =
      ((world.rows.groups ++ [group]).filter fun group => group.owner = userId).map
        fun group => ⟨group, deviceCount world group.id⟩ := rfl
  intro hSame
  have hLength := congrArg List.length (hRead.symm.trans hSame)
  rw [List.filter_append, List.filter_singleton, decide_eq_true hOwner] at hLength
  simp [readGroups] at hLength

/-- The removal of a group shows to its owner only. -/
theorem readGroups_filterGroups_iff {group : DeviceGroupModel} (hNumbered : Numbered world)
    (hGroup : group ∈ world.rows.groups) :
    readGroups (world.filterGroups fun row => row.id ≠ group.id) userId =
        readGroups world userId ↔ group.owner ≠ userId := by
  have hCount : readGroups (world.filterGroups fun row => row.id ≠ group.id) userId =
      ((world.rows.groups.filter fun row => row.id ≠ group.id).filter
        fun row => row.owner = userId).map fun row => ⟨row, deviceCount world row.id⟩ := rfl
  constructor
  · intro hSame hOwner
    have hLength := congrArg List.length (hCount.symm.trans hSame)
    rw [readGroups, List.length_map, List.length_map, List.filter_comm,
      List.length_filter_eq_length_iff] at hLength
    have hKept := hLength group (List.mem_filter.mpr ⟨hGroup, decide_eq_true hOwner⟩)
    exact of_decide_eq_true hKept rfl
  · intro hOwner
    rw [hCount, readGroups, List.filter_comm, List.filter_eq_self.mpr]
    intro row hRow
    obtain ⟨hRow, hRowOwner⟩ := List.mem_filter.mp hRow
    refine decide_eq_true fun hId => hOwner ?_
    rw [← List.inj_on_of_nodup_map hNumbered.distinct hRow hGroup hId]
    exact of_decide_eq_true hRowOwner

/-- The change of a group that keeps its owner shows to that owner, if anything
changes. -/
theorem readGroups_updateRow_iff {group next : DeviceGroupModel} (hNumbered : Numbered world)
    (hGroup : group ∈ world.rows.groups) (hId : next.id = group.id)
    (hOwner : next.owner = group.owner) :
    readGroups (world.mapGroups fun row => if row.id = next.id then next else row) userId =
        readGroups world userId ↔ group.owner = userId → next = group := by
  have hOwn : ∀ row ∈ world.rows.groups, row.id = next.id → row = group :=
    fun row hRow hSame => List.inj_on_of_nodup_map hNumbered.distinct hRow hGroup (hSame.trans hId)
  have hRead : readGroups (world.mapGroups fun row => if row.id = next.id then next else row)
      userId = (world.rows.groups.filter fun row => row.owner = userId).map fun row =>
        ⟨if row.id = next.id then next else row, deviceCount world row.id⟩ := by
    have hRows : readGroups (world.mapGroups fun row => if row.id = next.id then next else row)
        userId = ((world.rows.groups.map fun row => if row.id = next.id then next else row).filter
          fun row => row.owner = userId).map fun row => ⟨row, deviceCount world row.id⟩ := rfl
    rw [hRows, List.filter_map, List.map_map]
    have hFilter : (world.rows.groups.filter ((fun row => decide (row.owner = userId)) ∘
        fun row => if row.id = next.id then next else row)) =
          world.rows.groups.filter fun row => row.owner = userId := by
      refine List.filter_congr fun row hRow => ?_
      by_cases hSame : row.id = next.id
      · rw [hOwn row hRow hSame]
        simp [hId, hOwner]
      · simp [hSame]
    rw [hFilter]
    refine List.map_congr_left fun row _ => ?_
    by_cases hSame : row.id = next.id
    · simp [hSame]
    · simp [hSame]
  rw [hRead, readGroups, List.map_inj_left]
  constructor
  · intro hSame hUser
    have hRow := hSame group (List.mem_filter.mpr ⟨hGroup, decide_eq_true hUser⟩)
    rw [if_pos hId.symm] at hRow
    exact congrArg DeviceGroupCacheItem.group hRow
  · intro hSame row hRow
    obtain ⟨hRow, hUser⟩ := List.mem_filter.mp hRow
    by_cases hRowId : row.id = next.id
    · have hRowGroup := hOwn row hRow hRowId
      rw [if_pos hRowId, hRowGroup, hSame (hRowGroup ▸ of_decide_eq_true hUser)]
    · rw [if_neg hRowId]

end
end SnapEmu.Server
