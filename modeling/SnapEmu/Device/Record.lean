import SnapEmu.Device.NodeInfo
import SnapEmu.Semantics.RecordTable

/-! Records that are cached as hashes, and which of their fields may be
missing there. -/
namespace SnapEmu.Device

open Semantics

variable {Field Record : Type} {Value : Field → Type}

/-- `HGETALL`, parsed: a hash without entries is no record. -/
def loadRecord [Fintype Field] (codec : (field : Field) → FieldCodec RedisArg (Value field))
    (ofFields : ((field : Field) → Value field) → Record) (hash : HashRecord.Hash Field RedisArg) :
    Except RedisError (Option Record) :=
  if ∃ field, (hash field).isSome then
    match HashRecord.read codec hash with
    | some fields => .ok (some (ofFields fields))
    | none => .error .type
  else .ok none

/-- A hash loads without an error exactly if it is absent or can be read. -/
theorem loadRecord_ok_iff [Fintype Field] (schema : Schema Field RedisArg Value)
    (ofFields : ((field : Field) → Value field) → Record)
    (hash : HashRecord.Hash Field RedisArg) :
    (∃ info, loadRecord schema.codec ofFields hash = .ok info) ↔ schema.Readable hash := by
  have hAbsent : HashRecord.Absent hash ↔ ¬∃ field, (hash field).isSome := by
    simp [HashRecord.Absent]
  unfold loadRecord Schema.Readable
  by_cases hPresent : ∃ field, (hash field).isSome
  · rw [if_pos hPresent, hAbsent, or_iff_right (not_not_intro hPresent)]
    cases hRead : HashRecord.read schema.codec hash with
    | some fields =>
        refine iff_of_true ⟨some (ofFields fields), rfl⟩ fun field => ?_
        rw [HashRecord.read_eq_some.mp hRead field]
        rfl
    | none =>
        refine iff_of_false (fun hInfo => ?_) fun hAll => ?_
        · obtain ⟨info, hInfo⟩ := hInfo
          cases hInfo
        · rw [HashRecord.read, dif_pos hAll] at hRead
          cases hRead
  · rw [if_neg hPresent]
    exact iff_of_true ⟨none, rfl⟩ (.inl (hAbsent.mpr hPresent))

namespace NodeField

/-- The fields whose type is an `Option`. -/
def optional : NodeField → Bool
  | .userId | .battery | .script | .activeTime | .gateway => true
  | _ => false

end NodeField

def nodeSchema : Schema NodeField RedisArg NodeField.Value where
  codec := NodeField.codec
  optional := NodeField.optional
  inverse := NodeField.codec_inverse
  written := by
    intro field value hField
    cases field <;> first | exact RequiredCodec.written value | cases hField
  absent := by
    intro field hField
    cases field <;> first | rfl | cases hField
  first := .deviceId
  second := .region
  distinct := by decide
  required := by decide

/-- Loading a node is an instance of loading a record by its field codecs. -/
theorem NodeHash.load_eq (hash : NodeHash) :
    hash.load = loadRecord NodeField.codec NodeInfo.ofFields hash := by
  unfold load loadRecord
  have hPresent : hash.Present ↔ ∃ field, (hash field).isSome := Iff.rfl
  by_cases h : hash.Present
  · rw [if_pos h, if_pos (hPresent.mp h)]
    cases HashRecord.read NodeField.codec hash with
    | some fields => rfl
    | none => rfl
  · rw [if_neg h, if_neg (hPresent.not.mp h)]

end SnapEmu.Device
