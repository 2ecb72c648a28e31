import Mathlib.Data.Fintype.Basic
import Mathlib.Logic.Function.Basic

/-! Records kept as hashes, one entry a field. Writing a record leaves the
entries of fields without an argument; reading one needs every field to be
readable from its entry or from the absence of one. -/
namespace Semantics

/-- How values of one field are written and read. -/
structure FieldCodec (Arg α : Type*) where
  toArgs : α → Option Arg
  fromValue : Option Arg → Option α

namespace HashRecord

variable {Field Arg : Type} {Value : Field → Type}

abbrev Hash (Field Arg : Type) := Field → Option Arg

/-- `HSET key field arg ..` for all fields of a record. -/
def write (codec : (field : Field) → FieldCodec Arg (Value field))
    (record : (field : Field) → Value field) (hash : Hash Field Arg) : Hash Field Arg :=
  fun field => ((codec field).toArgs (record field)).or (hash field)

/-- All fields read back, if each can be. -/
def read [Fintype Field] (codec : (field : Field) → FieldCodec Arg (Value field))
    (hash : Hash Field Arg) : Option ((field : Field) → Value field) :=
  if h : ∀ field, ((codec field).fromValue (hash field)).isSome then
    some fun field => ((codec field).fromValue (hash field)).get (h field)
  else none

variable [Fintype Field] {codec : (field : Field) → FieldCodec Arg (Value field)}
  {hash : Hash Field Arg} {record : (field : Field) → Value field}

/-- A record is read exactly when each of its fields is. -/
theorem read_eq_some :
    read codec hash = some record ↔
      ∀ field, (codec field).fromValue (hash field) = some (record field) := by
  unfold read
  split_ifs with hAll
  · rw [Option.some.injEq, funext_iff]
    constructor
    · intro h field
      rw [← h field, Option.some_get]
    · intro h field
      simp [h field]
  · simp only [false_iff]
    intro h
    exact hAll fun field => by simp [h field]

/-- Reading after one field is overwritten. -/
theorem read_update [DecidableEq Field] {field : Field} {arg : Arg} {value : Value field}
    (hRead : read codec hash = some record)
    (hValue : (codec field).fromValue (some arg) = some value) :
    read codec (Function.update hash field (some arg)) =
      some (Function.update record field value) := by
  rw [read_eq_some] at *
  intro other
  by_cases hField : other = field
  · subst hField
    simpa using hValue
  · simpa [Function.update_of_ne hField] using hRead other

end HashRecord
end Semantics
