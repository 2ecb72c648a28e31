import SnapEmu.Semantics.HashRecord

/-! Records written one after another into one hash, and when the last of them
reads back: an entry that a record leaves out is still that of a record before
it. -/
namespace Semantics.HashRecord

variable {Field Arg : Type} {Value : Field → Type}
  {codec : (field : Field) → FieldCodec Arg (Value field)}

/-- What records leave in a hash that was absent. -/
def history (codec : (field : Field) → FieldCodec Arg (Value field)) :
    List ((field : Field) → Value field) → Hash Field Arg :=
  List.foldl (fun hash record => write codec record hash) fun _ => none

/-- No record before has written a field that this one leaves out. -/
def Covers (codec : (field : Field) → FieldCodec Arg (Value field))
    (record : (field : Field) → Value field) (earlier : List ((field : Field) → Value field)) :
    Prop :=
  ∀ field, (codec field).toArgs (record field) = none →
    ∀ old ∈ earlier, (codec field).toArgs (old field) = none

/-- Records under one key of a table of hashes. -/
theorem foldl_update_self {κ ρ : Type} [DecidableEq κ]
    (fields : ρ → (field : Field) → Value field) (records : List ρ)
    (table : κ → Hash Field Arg) (key : κ) :
    records.foldl (fun table record =>
        Function.update table key (write codec (fields record) (table key))) table key =
      (records.map fields).foldl (fun hash record => write codec record hash) (table key) := by
  induction records generalizing table with
  | nil => rfl
  | cons record records ih =>
      rw [List.foldl_cons, ih, Function.update_self, List.map_cons, List.foldl_cons]

/-- A field stays absent as long as no record writes it. -/
theorem foldl_write_eq_none {records : List ((field : Field) → Value field)}
    {hash : Hash Field Arg} {field : Field} :
    records.foldl (fun hash record => write codec record hash) hash field = none ↔
      hash field = none ∧ ∀ old ∈ records, (codec field).toArgs (old field) = none := by
  induction records generalizing hash with
  | nil => simp
  | cons record records ih =>
      rw [List.foldl_cons, ih, write, Option.or_eq_none_iff, List.forall_mem_cons]
      exact ⟨fun h => ⟨h.1.2, h.1.1, h.2⟩, fun h => ⟨⟨h.2.1, h.1⟩, h.2.2⟩⟩

/-- A field is absent when no record of the history wrote it. -/
theorem history_eq_none {records : List ((field : Field) → Value field)} {field : Field} :
    history codec records field = none ↔
      ∀ old ∈ records, (codec field).toArgs (old field) = none := by
  rw [history, foldl_write_eq_none]
  exact and_iff_right rfl

/-- An entry was written by one of the records, or was there. -/
theorem foldl_write_eq_some {records : List ((field : Field) → Value field)}
    {hash : Hash Field Arg} {field : Field} {arg : Arg}
    (h : records.foldl (fun hash record => write codec record hash) hash field = some arg) :
    hash field = some arg ∨ ∃ old ∈ records, (codec field).toArgs (old field) = some arg := by
  induction records generalizing hash with
  | nil => exact .inl h
  | cons record records ih =>
      rcases ih h with hNow | ⟨old, hOld, hArg⟩
      · rcases Option.or_eq_some_iff.mp hNow with hRecord | ⟨-, hBefore⟩
        · exact .inr ⟨record, List.mem_cons_self, hRecord⟩
        · exact .inl hBefore
      · exact .inr ⟨old, List.mem_cons_of_mem _ hOld, hArg⟩

variable [Fintype Field] {record : (field : Field) → Value field}

/-- A record reads back exactly if what it leaves out reads as it is. -/
theorem read_write_iff {hash : Hash Field Arg}
    (hInverse : ∀ field value, (codec field).fromValue ((codec field).toArgs value) = some value) :
    read codec (write codec record hash) = some record ↔
      ∀ field, (codec field).toArgs (record field) = none →
        (codec field).fromValue (hash field) = some (record field) := by
  rw [read_eq_some]
  refine forall_congr' fun field => ?_
  have hOwn := hInverse field (record field)
  rw [write]
  cases hArg : (codec field).toArgs (record field) with
  | none => simp
  | some arg =>
      rw [hArg] at hOwn
      simpa using hOwn

/-- After other records, a record reads back exactly if it covers them. -/
theorem read_write_history_iff {earlier : List ((field : Field) → Value field)}
    (hInverse : ∀ field value, (codec field).fromValue ((codec field).toArgs value) = some value) :
    read codec (write codec record (history codec earlier)) = some record ↔
      Covers codec record earlier := by
  rw [read_write_iff hInverse]
  refine forall_congr' fun field => imp_congr_right fun hLeft => ?_
  rw [← history_eq_none]
  constructor
  · intro hRead
    by_contra hEntry
    obtain ⟨arg, hArg⟩ := Option.ne_none_iff_exists'.mp hEntry
    rcases foldl_write_eq_some hArg with hNone | ⟨old, -, hOld⟩
    · cases hNone
    · -- the stale entry reads as the old value, which does write the field
      have hStale := hInverse field (old field)
      rw [hOld, ← hArg, hRead] at hStale
      rw [Option.some.inj hStale, hOld] at hLeft
      cases hLeft
  · intro hNone
    rw [hNone, ← hLeft]
    exact hInverse field (record field)

end Semantics.HashRecord
