import SnapEmu.Semantics.HashRecord

/-! Records kept as hashes under keys: what keeps each hash absent or whole,
and absent where its record was removed. -/
namespace Semantics

open HashRecord

/-- The fields of a record type. A field that is not optional always writes
an entry; there are at least two of them. -/
structure Schema (Field Arg : Type) (Value : Field → Type) where
  codec : (field : Field) → FieldCodec Arg (Value field)
  optional : Field → Bool
  inverse : ∀ field value, (codec field).fromValue ((codec field).toArgs value) = some value
  written : ∀ field value, optional field = false → ((codec field).toArgs value).isSome
  absent : ∀ field, optional field = true → ((codec field).fromValue none).isSome
  first : Field
  second : Field
  distinct : first ≠ second
  required : optional first = false ∧ optional second = false

variable {Field Arg κ : Type} {Value : Field → Type} {hash : Hash Field Arg}

def HashRecord.Absent (hash : Hash Field Arg) : Prop := ∀ field, hash field = none

/-- Writing any of several entries leaves no absent hash. -/
theorem not_absent_update [DecidableEq Field] (hash : Hash Field Arg) (field : Field) (arg : Arg) :
    ¬Absent (Function.update hash field (some arg)) := by
  intro hAbsent
  have hEntry := hAbsent field
  rw [Function.update_self] at hEntry
  cases hEntry

namespace Schema

variable (schema : Schema Field Arg Value)

/-- The hash is absent or has an entry for every field that is not optional. -/
def Complete (hash : Hash Field Arg) : Prop :=
  Absent hash ∨ ∀ field, schema.optional field = false → (hash field).isSome

/-- The hash is absent or can be read. -/
def Readable (hash : Hash Field Arg) : Prop :=
  Absent hash ∨ ∀ field, ((schema.codec field).fromValue (hash field)).isSome

def Whole (hash : Hash Field Arg) : Prop := schema.Complete hash ∧ schema.Readable hash

variable {schema}

/-- An absent hash is whole. -/
theorem whole_of_absent (h : Absent hash) : schema.Whole hash := ⟨.inl h, .inl h⟩

/-- A record writes all its fields that are not optional. -/
theorem write_isSome (record : (field : Field) → Value field) (hash : Hash Field Arg)
    {field : Field} (hField : schema.optional field = false) :
    (write schema.codec record hash field).isSome := by
  rw [write, Option.isSome_or, schema.written field _ hField]
  rfl

/-- A record that is written leaves no absent hash. -/
theorem not_absent_write (record : (field : Field) → Value field) (hash : Hash Field Arg) :
    ¬Absent (write schema.codec record hash) := by
  intro hAbsent
  have hEntry := schema.write_isSome record hash schema.required.1
  rw [hAbsent schema.first] at hEntry
  cases hEntry

/-- A field beside the given one is not optional. -/
theorem exists_other (schema : Schema Field Arg Value) (field : Field) :
    ∃ other, other ≠ field ∧ schema.optional other = false := by
  by_cases hFirst : schema.first = field
  · exact ⟨schema.second, fun hSecond => schema.distinct (hFirst.trans hSecond.symm),
      schema.required.2⟩
  · exact ⟨schema.first, hFirst, schema.required.1⟩

/-- A record written over a whole hash leaves a whole one. -/
theorem whole_write (h : schema.Whole hash) (record : (field : Field) → Value field) :
    schema.Whole (write schema.codec record hash) := by
  refine ⟨.inr fun field hField => write_isSome record hash hField, .inr fun field => ?_⟩
  have hInverse := schema.inverse field (record field)
  unfold write
  cases hArg : (schema.codec field).toArgs (record field) with
  | some arg =>
      rw [hArg] at hInverse
      rw [Option.some_or, hInverse]
      rfl
  | none =>
      rw [Option.none_or]
      rcases h.2 with hAbsent | hRead
      · rw [hArg] at hInverse
        rw [hAbsent field, hInverse]
        rfl
      · exact hRead field

/-- One entry may be written to a whole hash if that is there, and the entry can be read. -/
theorem whole_put_iff [DecidableEq Field] (h : schema.Whole hash) (field : Field) (arg : Arg) :
    schema.Whole (Function.update hash field (some arg)) ↔
      ¬Absent hash ∧ ((schema.codec field).fromValue (some arg)).isSome := by
  constructor
  · intro hNext
    obtain ⟨hComplete, hReadable⟩ := hNext
    rcases hComplete with hNone | hComplete
    · exact absurd hNone (not_absent_update hash field arg)
    rcases hReadable with hNone | hReadable
    · exact absurd hNone (not_absent_update hash field arg)
    refine ⟨fun hAbsent => ?_, by simpa using hReadable field⟩
    obtain ⟨other, hOther, hRequired⟩ := exists_other schema field
    have hEntry := hComplete other hRequired
    rw [Function.update_of_ne hOther, hAbsent other] at hEntry
    cases hEntry
  · intro hPut
    obtain ⟨hPresent, hArg⟩ := hPut
    obtain ⟨hComplete, hReadable⟩ := h
    have hComplete := hComplete.resolve_left hPresent
    have hReadable := hReadable.resolve_left hPresent
    refine ⟨.inr fun other hOther => ?_, .inr fun other => ?_⟩
    · by_cases hSame : other = field
      · subst hSame
        rw [Function.update_self]
        rfl
      · rw [Function.update_of_ne hSame]
        exact hComplete other hOther
    · by_cases hSame : other = field
      · subst hSame
        rw [Function.update_self]
        exact hArg
      · rw [Function.update_of_ne hSame]
        exact hReadable other

/-- An entry may be removed from a whole hash if its field is optional, or the hash is absent. -/
theorem whole_remove_iff [DecidableEq Field] (h : schema.Whole hash) (field : Field) :
    schema.Whole (Function.update hash field none) ↔
      Absent hash ∨ schema.optional field = true := by
  constructor
  · intro hNext
    by_contra hNot
    rw [not_or, Bool.not_eq_true] at hNot
    obtain ⟨hPresent, hRequired⟩ := hNot
    have hComplete := h.1.resolve_left hPresent
    rcases hNext.1 with hNone | hLeft
    · -- another field that must be there is still there
      obtain ⟨other, hOther, hThere⟩ := exists_other schema field
      have hEntry := hComplete other hThere
      have hMissing := hNone other
      rw [Function.update_of_ne hOther] at hMissing
      rw [hMissing] at hEntry
      cases hEntry
    · have hEntry := hLeft field hRequired
      rw [Function.update_self] at hEntry
      cases hEntry
  · intro hMay
    by_cases hAbsent : Absent hash
    · refine whole_of_absent fun other => ?_
      by_cases hSame : other = field
      · rw [hSame, Function.update_self]
      · rw [Function.update_of_ne hSame, hAbsent other]
    · have hOptional := hMay.resolve_left hAbsent
      have hComplete := h.1.resolve_left hAbsent
      have hReadable := h.2.resolve_left hAbsent
      refine ⟨.inr fun other hOther => ?_, .inr fun other => ?_⟩
      · have hDiffers : other ≠ field := by
          rintro rfl
          rw [hOptional] at hOther
          cases hOther
        rw [Function.update_of_ne hDiffers]
        exact hComplete other hOther
      · by_cases hSame : other = field
        · subst hSame
          rw [Function.update_self]
          exact schema.absent other hOptional
        · rw [Function.update_of_ne hSame]
          exact hReadable other

end Schema

/-- Hashes by key. A key is live from the begin of a registration until it is
deleted. -/
structure Table (κ Field Arg : Type) where
  hash : κ → Hash Field Arg
  live : κ → Bool

namespace Table

variable [DecidableEq κ] {schema : Schema Field Arg Value}
  {table : Table κ Field Arg}

def empty : Table κ Field Arg := { hash := fun _ _ => none, live := fun _ => false }

def setHash (table : Table κ Field Arg) (key : κ) (hash : Hash Field Arg) : Table κ Field Arg :=
  { table with hash := Function.update table.hash key hash }

def enlist (table : Table κ Field Arg) (key : κ) : Table κ Field Arg :=
  { table with live := Function.update table.live key true }

def put [DecidableEq Field] (table : Table κ Field Arg) (key : κ) (field : Field) (arg : Arg) :
    Table κ Field Arg :=
  table.setHash key (Function.update (table.hash key) field (some arg))

def remove [DecidableEq Field] (table : Table κ Field Arg) (key : κ) (field : Field) :
    Table κ Field Arg :=
  table.setHash key (Function.update (table.hash key) field none)

def delete (table : Table κ Field Arg) (key : κ) : Table κ Field Arg :=
  { hash := Function.update table.hash key fun _ => none
    live := Function.update table.live key false }

@[simp] theorem setHash_self (table : Table κ Field Arg) (key : κ) (hash : Hash Field Arg) :
    (table.setHash key hash).hash key = hash := Function.update_self _ _ _

@[simp] theorem setHash_of_ne (table : Table κ Field Arg) {key other : κ} (hash : Hash Field Arg)
    (hKey : other ≠ key) : (table.setHash key hash).hash other = table.hash other :=
  Function.update_of_ne hKey _ _

@[simp] theorem delete_self (table : Table κ Field Arg) (key : κ) :
    (table.delete key).hash key = fun _ => none := Function.update_self _ _ _

/-- Deleting leaves the other keys. -/
theorem delete_of_ne (table : Table κ Field Arg) {key other : κ} (hKey : other ≠ key) :
    (table.delete key).hash other = table.hash other ∧
      (table.delete key).live other = table.live other :=
  ⟨Function.update_of_ne hKey _ _, Function.update_of_ne hKey _ _⟩

/-- Every hash is whole, and those of keys that are not live are absent. -/
def Sound (schema : Schema Field Arg Value) (table : Table κ Field Arg) : Prop :=
  ∀ key, schema.Whole (table.hash key) ∧ (table.live key = false → Absent (table.hash key))

omit [DecidableEq κ] in
/-- The empty table is sound. -/
theorem sound_empty : Sound schema (empty : Table κ Field Arg) :=
  fun _ => ⟨Schema.whole_of_absent fun _ => rfl, fun _ _ => rfl⟩

/-- Writing a hash keeps a table sound exactly when the hash is whole and belongs to a
live key. -/
theorem sound_setHash_iff (h : Sound schema table) (key : κ) (hash : Hash Field Arg) :
    Sound schema (table.setHash key hash) ↔
      schema.Whole hash ∧ (table.live key = false → Absent hash) := by
  constructor
  · intro hNext
    have hKey := hNext key
    rwa [setHash_self] at hKey
  · intro hHash other
    by_cases hSame : other = key
    · subst hSame
      rw [setHash_self]
      exact hHash
    · rw [setHash_of_ne table hash hSame]
      exact h other

/-- Making a key live keeps a table sound. -/
theorem sound_enlist (h : Sound schema table) (key : κ) : Sound schema (table.enlist key) := by
  intro other
  refine ⟨(h other).1, fun hLive => (h other).2 ?_⟩
  dsimp only [enlist] at hLive
  by_cases hSame : other = key
  · rw [hSame, Function.update_self] at hLive
    cases hLive
  · rwa [Function.update_of_ne hSame] at hLive

/-- Deleting a key keeps a table sound. -/
theorem sound_delete (h : Sound schema table) (key : κ) : Sound schema (table.delete key) := by
  intro other
  by_cases hSame : other = key
  · subst hSame
    rw [delete_self]
    exact ⟨Schema.whole_of_absent fun _ => rfl, fun _ _ => rfl⟩
  · rw [(delete_of_ne table hSame).1, (delete_of_ne table hSame).2]
    exact h other

/-- A record may be written under a live key. -/
theorem sound_write_iff (h : Sound schema table) (key : κ)
    (record : (field : Field) → Value field) :
    Sound schema (table.setHash key (write schema.codec record (table.hash key))) ↔
      table.live key = true := by
  rw [sound_setHash_iff h]
  constructor
  · intro hNext
    by_contra hDead
    exact Schema.not_absent_write record _ (hNext.2 (Bool.eq_false_of_not_eq_true hDead))
  · intro hLive
    refine ⟨Schema.whole_write (h key).1 record, fun hDead => ?_⟩
    rw [hLive] at hDead
    cases hDead

/-- One entry may be written to a hash that is there. -/
theorem sound_put_iff [DecidableEq Field] (h : Sound schema table) (key : κ) (field : Field)
    (arg : Arg) :
    Sound schema (table.put key field arg) ↔
      ¬Absent (table.hash key) ∧ ((schema.codec field).fromValue (some arg)).isSome := by
  rw [put, sound_setHash_iff h, Schema.whole_put_iff (h key).1]
  constructor
  · intro hNext
    exact hNext.1
  · intro hPut
    exact ⟨hPut, fun hDead => absurd ((h key).2 hDead) hPut.1⟩

/-- Removing a field keeps a table sound exactly when the field is optional or already
absent. -/
theorem sound_remove_iff [DecidableEq Field] (h : Sound schema table) (key : κ) (field : Field) :
    Sound schema (table.remove key field) ↔
      Absent (table.hash key) ∨ schema.optional field = true := by
  rw [remove, sound_setHash_iff h, Schema.whole_remove_iff (h key).1]
  refine and_iff_left fun hDead other => ?_
  by_cases hSame : other = field
  · rw [hSame, Function.update_self]
  · rw [Function.update_of_ne hSame, (h key).2 hDead other]

end Table
end Semantics
