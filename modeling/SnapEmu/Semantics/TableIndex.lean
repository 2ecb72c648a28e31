import Mathlib.Data.List.Nodup
import Mathlib.Logic.Function.Basic

/-! Indexes of tables: slots that hold a value of each row under a key of it,
and nothing else. -/
namespace Semantics.TableIndex

variable {α κ β : Type*} {slots : κ → Option β} {key : α → κ} {value value' : α → β}
  {rows : List α}

/-- A row under a key of its own keeps the keys distinct. -/
theorem nodup_enter (h : (rows.map key).Nodup) {row : α}
    (hFresh : ∀ other ∈ rows, key other ≠ key row) : ((rows ++ [row]).map key).Nodup := by
  rw [List.map_append, List.map_singleton, List.nodup_append]
  refine ⟨h, List.nodup_singleton _, ?_⟩
  intro slot hSlot other hOther
  obtain ⟨row', hRow', rfl⟩ := List.mem_map.mp hSlot
  rw [List.mem_singleton.mp hOther]
  exact hFresh row' hRow'

/-- Leaving out rows keeps the keys unique. -/
theorem nodup_leave (h : (rows.map key).Nodup) (kept : α → Bool) :
    ((rows.filter kept).map key).Nodup := h.sublist (List.filter_sublist.map key)

/-- Rows may change where distinct keys stay distinct. -/
theorem nodup_change (h : (rows.map key).Nodup) (next : α → α)
    (hDistinct : ∀ first ∈ rows, ∀ second ∈ rows,
      key (next first) = key (next second) → key first = key second) :
    ((rows.map next).map key).Nodup := by
  rw [List.map_map]
  refine h.of_map.map_on fun first hFirst second hSecond hKey => ?_
  exact List.inj_on_of_nodup_map h hFirst hSecond (hDistinct first hFirst second hSecond hKey)

/-- The slots taken are exactly those of the rows. -/
def Indexes (slots : κ → Option β) (key : α → κ) (value : α → β) (rows : List α) : Prop :=
  ∀ slot entry, slots slot = some entry ↔ ∃ row ∈ rows, key row = slot ∧ value row = entry

/-- Empty slots index no rows. -/
theorem indexes_nil (key : α → κ) (value : α → β) :
    Indexes (fun _ => none) key value [] := by
  simp [Indexes]

/-- A row is found under its key. -/
theorem Indexes.lookup (h : Indexes slots key value rows) {row : α} (hRow : row ∈ rows) :
    slots (key row) = some (value row) := (h _ _).mpr ⟨row, hRow, rfl, rfl⟩

/-- A slot is taken exactly if it is a key of some row. -/
theorem Indexes.isSome_iff (h : Indexes slots key value rows) (slot : κ) :
    (slots slot).isSome ↔ ∃ row ∈ rows, key row = slot := by
  rw [Option.isSome_iff_exists]
  constructor
  · intro hEntry
    obtain ⟨entry, hEntry⟩ := hEntry
    obtain ⟨row, hRow, hKey, _⟩ := (h slot entry).mp hEntry
    exact ⟨row, hRow, hKey⟩
  · intro hRow
    obtain ⟨row, hRow, rfl⟩ := hRow
    exact ⟨value row, h.lookup hRow⟩

/-- A slot that no row asks for must be free. -/
theorem Indexes.not_of_stale {slot : κ} (hTaken : (slots slot).isSome)
    (hRows : ∀ row ∈ rows, key row ≠ slot) : ¬Indexes slots key value rows := by
  intro h
  obtain ⟨row, hRow, hKey⟩ := (h.isSome_iff slot).mp hTaken
  exact hRows row hRow hKey

/-- Only the values of the rows matter. -/
theorem Indexes.congr (h : Indexes slots key value rows)
    (hValue : ∀ row ∈ rows, value row = value' row) : Indexes slots key value' rows := by
  intro slot entry
  rw [h slot entry]
  refine exists_congr fun row => and_congr_right fun hRow => ?_
  rw [hValue row hRow]

section

variable [DecidableEq κ]

/-- A row under a key of its own enters. -/
theorem Indexes.enter (h : Indexes slots key value rows) (row : α)
    (hFresh : ∀ other ∈ rows, key other ≠ key row) :
    Indexes (Function.update slots (key row) (some (value row))) key value (rows ++ [row]) := by
  intro slot entry
  simp only [List.mem_append, List.mem_singleton, or_and_right, exists_or, exists_eq_left]
  by_cases hSlot : slot = key row
  · subst hSlot
    rw [Function.update_self, Option.some.injEq]
    constructor
    · exact fun hEntry => .inr ⟨rfl, hEntry⟩
    · rintro (⟨other, hOther, hKey, _⟩ | ⟨_, hEntry⟩)
      · exact absurd hKey (hFresh other hOther)
      · exact hEntry
  · rw [Function.update_of_ne hSlot, h slot entry, or_iff_left]
    exact fun hRow => hSlot hRow.1.symm

/-- The rows under one key leave, and the slot is freed. -/
theorem Indexes.leave (h : Indexes slots key value rows) (slot : κ) (kept : α → Bool)
    (hKept : ∀ row ∈ rows, kept row ↔ key row ≠ slot) :
    Indexes (Function.update slots slot none) key value (rows.filter kept) := by
  intro other entry
  simp only [List.mem_filter, and_assoc]
  by_cases hSlot : other = slot
  · subst hSlot
    rw [Function.update_self]
    refine iff_of_false (by simp) fun hRow => ?_
    obtain ⟨row, hRow, hKeep, hKey, _⟩ := hRow
    exact (hKept row hRow).mp hKeep hKey
  · rw [Function.update_of_ne hSlot, h other entry]
    refine exists_congr fun row => and_congr_right fun hRow => ?_
    constructor
    · exact fun hKey => ⟨(hKept row hRow).mpr (hKey.1 ▸ hSlot), hKey⟩
    · exact fun hKey => hKey.2

/-- The row under one key changes there, and its slot with it. -/
theorem Indexes.change (h : Indexes slots key value rows) (next : α → α) {row : α}
    (hRow : row ∈ rows) (hKey : key (next row) = key row)
    (hOthers : ∀ other ∈ rows, key other ≠ key row → next other = other)
    (hOwn : ∀ other ∈ rows, key other = key row → other = row) :
    Indexes (Function.update slots (key row) (some (value (next row)))) key value
      (rows.map next) := by
  intro slot entry
  simp only [List.mem_map, exists_exists_and_eq_and]
  by_cases hSlot : slot = key row
  · subst hSlot
    rw [Function.update_self, Option.some.injEq]
    constructor
    · exact fun hEntry => ⟨row, hRow, hKey, hEntry⟩
    · rintro ⟨other, hOther, hSlot, hEntry⟩
      by_cases hSame : key other = key row
      · rw [hOwn other hOther hSame] at hEntry
        exact hEntry
      · rw [hOthers other hOther hSame] at hSlot
        exact absurd hSlot hSame
  · rw [Function.update_of_ne hSlot, h slot entry]
    refine exists_congr fun other => and_congr_right fun hOther => ?_
    by_cases hSame : key other = key row
    · rw [hOwn other hOther hSame, hKey]
      exact iff_of_false (fun h => hSlot h.1.symm) fun h => hSlot h.1.symm
    · rw [hOthers other hOther hSame]

end
end Semantics.TableIndex
