import SnapEmu.Semantics.HashRecord

/-! Edits of a record: fields with new values, one after another, so that the
last value of a field counts. -/
namespace Semantics

variable {Field Arg : Type} [DecidableEq Field] {Value : Field → Type}

/-- The value that changes give to a field. -/
def lastChange : List ((field : Field) × Value field) → (field : Field) → Option (Value field)
  | [], _ => none
  | change :: changes, field =>
      (lastChange changes field).or
        (if h : change.1 = field then some (cast (congrArg Value h) change.2) else none)

/-- Of two lists of changes the later one decides, where it changes the field. -/
theorem lastChange_append (first second : List ((field : Field) × Value field)) (field : Field) :
    lastChange (first ++ second) field = (lastChange second field).or (lastChange first field) := by
  induction first with
  | nil => simp [lastChange]
  | cons change first ih => rw [List.cons_append, lastChange, lastChange, ih, Option.or_assoc]

/-- A single change decides its field. -/
theorem lastChange_single_self (field : Field) (value : Value field) :
    lastChange [⟨field, value⟩] field = some value := by
  simp [lastChange]

/-- A single change decides no other field. -/
theorem lastChange_single_of_ne {field other : Field} (value : Value field)
    (hField : other ≠ field) : lastChange [⟨field, value⟩] other = none := by
  simp [lastChange, Ne.symm hField]

/-- A field has no value exactly if no change names it. -/
theorem lastChange_eq_none {changes : List ((field : Field) × Value field)} {field : Field} :
    lastChange changes field = none ↔ ∀ change ∈ changes, change.1 ≠ field := by
  induction changes with
  | nil => simp [lastChange]
  | cons change changes ih => simp [lastChange, ih, and_comm]

/-- A field has a last change exactly when it is changed at all. -/
theorem isSome_lastChange (changes : List ((field : Field) × Value field)) (field : Field) :
    (lastChange changes field).isSome = decide (∃ change ∈ changes, change.1 = field) := by
  rw [Bool.eq_iff_iff, decide_eq_true_iff, Option.isSome_iff_ne_none, Ne, lastChange_eq_none]
  push Not
  rfl

/-- What a run of changes leaves at a field, when a change sets what is read at
its own field and leaves what is read at the others. -/
theorem read_foldl {σ : Type} {Result : Field → Type}
    {step : σ → (field : Field) × Value field → σ} (read : σ → (field : Field) → Result field)
    (result : (field : Field) → Value field → Result field)
    {changes : List ((field : Field) × Value field)}
    (hSelf : ∀ state, ∀ change ∈ changes,
      read (step state change) change.1 = result change.1 change.2)
    (hOther : ∀ state, ∀ change ∈ changes, ∀ field, field ≠ change.1 →
      read (step state change) field = read state field) (state : σ) (field : Field) :
    read (changes.foldl step state) field =
      ((lastChange changes field).map (result field)).getD (read state field) := by
  induction changes generalizing state with
  | nil => rfl
  | cons change changes ih =>
      rw [List.foldl_cons, ih (fun state other hOther => hSelf state other (.tail _ hOther))
        (fun state other hMem => hOther state other (.tail _ hMem)), lastChange]
      cases lastChange changes field with
      | some value => rfl
      | none =>
          by_cases hField : change.1 = field
          · subst hField
            simp [hSelf state change List.mem_cons_self]
          · simp [hField, hOther state change List.mem_cons_self field (Ne.symm hField)]

/-- Changes of a record, one after another. -/
theorem foldl_update (changes : List ((field : Field) × Value field))
    (record : (field : Field) → Value field) (field : Field) :
    changes.foldl (fun record change => Function.update record change.1 change.2) record field =
      (lastChange changes field).getD (record field) := by
  rw [read_foldl (fun record => record) (fun _ value => value)
    (fun record change _ => Function.update_self change.1 change.2 record)
    (fun record change _ _ hField => Function.update_of_ne hField change.2 record),
    Option.map_id']

namespace HashRecord

variable {codec : (field : Field) → FieldCodec Arg (Value field)}
  {asked written : (field : Field) → Option (Value field)} {hash before after : Hash Field Arg}

/-- The entries of some fields become those of new values. -/
def overwrite (codec : (field : Field) → FieldCodec Arg (Value field))
    (values : (field : Field) → Option (Value field)) (hash : Hash Field Arg) : Hash Field Arg :=
  fun field =>
    match values field with
    | some value => (codec field).toArgs value
    | none => hash field

omit [DecidableEq Field] in
/-- A written field holds the value written. -/
theorem overwrite_some {field : Field} {value : Value field} (h : written field = some value) :
    overwrite codec written hash field = (codec field).toArgs value := by
  simp only [overwrite, h]

omit [DecidableEq Field] in
/-- A field that is not written stays as it is. -/
theorem overwrite_none {field : Field} (h : written field = none) :
    overwrite codec written hash field = hash field := by
  simp only [overwrite, h]

/-- Changes of a hash, one after another. -/
theorem foldl_overwrite (changes : List ((field : Field) × Value field)) (hash : Hash Field Arg) :
    changes.foldl (fun hash change =>
        Function.update hash change.1 ((codec change.1).toArgs change.2)) hash =
      overwrite codec (lastChange changes) hash := by
  induction changes generalizing hash with
  | nil => rfl
  | cons change changes ih =>
      rw [List.foldl_cons, ih]
      funext field
      cases hLast : lastChange changes field with
      | some value =>
          rw [overwrite_some hLast, overwrite_some (by rw [lastChange, hLast, Option.some_or])]
      | none =>
          rw [overwrite_none hLast]
          by_cases hField : change.1 = field
          · subst hField
            rw [Function.update_self, overwrite_some]
            simp [lastChange, hLast]
          · rw [Function.update_of_ne (Ne.symm hField), overwrite_none]
            simp [lastChange, hLast, hField]

/-- The fields that are asked for read as their new values, the others have their
old entries. -/
structure Edited (codec : (field : Field) → FieldCodec Arg (Value field))
    (asked : (field : Field) → Option (Value field)) (before after : Hash Field Arg) : Prop where
  changed : ∀ field, ∀ value ∈ asked field, (codec field).fromValue (after field) = some value
  kept : ∀ field, asked field = none → after field = before field

/-- The values that are asked for stand in the hash already. -/
def Holds (codec : (field : Field) → FieldCodec Arg (Value field))
    (asked : (field : Field) → Option (Value field)) (hash : Hash Field Arg) : Prop :=
  ∀ field, ∀ value ∈ asked field, (codec field).fromValue (hash field) = some value

omit [DecidableEq Field] in
/-- A hash that is left as it is has been edited if the values stood there. -/
theorem edited_refl_iff : Edited codec asked hash hash ↔ Holds codec asked hash :=
  ⟨fun h => h.changed, fun h => ⟨h, fun _ _ => rfl⟩⟩

omit [DecidableEq Field] in
/-- An overwritten hash is edited if each value that is asked for is written or
stood there, and what is written besides stood there too. -/
theorem edited_overwrite_iff
    (hInverse : ∀ field value, (codec field).fromValue ((codec field).toArgs value) = some value) :
    Edited codec asked hash (overwrite codec written hash) ↔
      (∀ field, ∀ value ∈ asked field, written field = some value ∨
        written field = none ∧ (codec field).fromValue (hash field) = some value) ∧
      ∀ field, asked field = none → ∀ value ∈ written field,
        hash field = (codec field).toArgs value := by
  constructor
  · rintro ⟨hChanged, hKept⟩
    refine ⟨fun field value hAsked => ?_, fun field hAsked value hWritten => ?_⟩
    · have hRead := hChanged field value hAsked
      cases hWritten : written field with
      | none =>
          rw [overwrite_none hWritten] at hRead
          exact .inr ⟨rfl, hRead⟩
      | some other =>
          rw [overwrite_some hWritten, hInverse] at hRead
          exact .inl hRead
    · rw [← hKept field hAsked, overwrite_some hWritten]
  · rintro ⟨hWritten, hBesides⟩
    refine ⟨fun field value hAsked => ?_, fun field hAsked => ?_⟩
    · rcases hWritten field value hAsked with hSome | ⟨hNone, hRead⟩
      · rw [overwrite_some hSome, hInverse]
      · rw [overwrite_none hNone, hRead]
    · cases hSome : written field with
      | none => exact overwrite_none hSome
      | some value => rw [overwrite_some hSome, hBesides field hAsked value hSome]

omit [DecidableEq Field] in
/-- Overwriting changes nothing exactly when what it writes stood there. -/
theorem overwrite_eq_self_iff :
    overwrite codec written hash = hash ↔
      ∀ field, ∀ value ∈ written field, hash field = (codec field).toArgs value := by
  constructor
  · intro hSame field value hWritten
    rw [← overwrite_some hWritten, hSame]
  · intro hStood
    funext field
    cases hWritten : written field with
    | none => exact overwrite_none hWritten
    | some value => rw [overwrite_some hWritten, hStood field value hWritten]

end HashRecord
end Semantics
