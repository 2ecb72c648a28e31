import SnapEmu.Decode.RecordLoop

/-! The decoder against its record grammar: which payloads abort it, and
which it accepts with which result. -/
namespace SnapEmu.Decode

open Semantics Semantics.Exec

/-- Well-formed records, then an ordinary record whose items end with an
array tag that has no length byte behind it. -/
def CutsArray (bytes : List UInt8) : Prop :=
  ∃ (records : List Record) (sensorId : UInt16) (items : List Item) (pkId : Fin 16)
    (rest : List UInt8), (sensorId ≠ 0 ∧ sensorId ≠ 7) ∧ (Item.encodeAll items).length + 1 < 256 ∧
      bytes = Record.encodeAll records ++
        (recordFrame sensorId (Item.encodeAll items ++ [itemTag pkId .array]) ++ rest)

/-- Decoding always ends. -/
theorem upDataDecode_ne_diverge (bytes : List UInt8) : upDataDecode bytes ≠ diverge :=
  recordLoop.loop_ne_diverge (by omega)

/-- The decoder aborts on exactly the payloads with a cut array. -/
theorem upDataDecode_eq_panic (bytes : List UInt8) :
    upDataDecode bytes = panic ↔ CutsArray bytes := by
  unfold upDataDecode
  rw [recordLoop.loop_eq_panic (Nat.zero_le _) (by omega)]
  constructor
  · rintro ⟨records, stop, hRecords, _, hPanic⟩
    obtain ⟨sensorId, items, pkId, last, hSensor, hLength, hFrame⟩ := recordRound_panic.mp hPanic
    have hLast : Block bytes last bytes.length (bytes.drop last) :=
      Block.suffix.mpr ⟨hFrame.stop_eq.2, rfl⟩
    obtain ⟨rfl, _⟩ := hRecords.stop_eq
    obtain ⟨rfl, _⟩ := hFrame.stop_eq
    exact ⟨records, sensorId, items, pkId, _, hSensor, hLength,
      Block.whole.mp (Block.append.mpr ⟨hRecords, Block.append.mpr ⟨hFrame, hLast⟩⟩)⟩
  · rintro ⟨records, sensorId, items, pkId, rest, hSensor, hLength, hBytes⟩
    obtain ⟨hRecords, hTail⟩ := Block.append.mp (Block.whole.mpr hBytes)
    obtain ⟨hFrame, hRest⟩ := Block.append.mp hTail
    refine ⟨records, _, hRecords, Or.inl ?_, ?_⟩
    · have hStop := hFrame.stop_eq
      rw [recordFrame_length] at hStop
      omega
    · exact recordRound_panic.mpr ⟨sensorId, items, pkId, _, hSensor, hLength, hFrame⟩

/-- The decoder ends with a value or a reported error on exactly the
payloads without a cut array. -/
theorem upDataDecode_returns (bytes : List UInt8) :
    (upDataDecode bytes).Returns ↔ ¬ CutsArray bytes := by
  rw [Returns, ← upDataDecode_eq_panic]
  exact and_iff_left (upDataDecode_ne_diverge bytes)

/-- An array tag that ends its record: the length byte is indexed behind
the record. -/
theorem upDataDecode_cut_panics : ¬ ∀ bytes, (upDataDecode bytes).Returns := by
  intro h
  exact (h [1, 0, 1, 0]).1 (by decide)

/-- No record, or a last record with a body. -/
def LastNonempty (records : List Record) : Prop := ∀ record ∈ records.getLast?, record.body ≠ []

/-- Two lists that end in a nonempty record still do when joined. -/
theorem LastNonempty.append {first second : List Record} (hFirst : LastNonempty first)
    (hSecond : LastNonempty second) : LastNonempty (first ++ second) := by
  unfold LastNonempty at *
  rw [List.getLast?_append]
  cases hLast : second.getLast? with
  | none => simpa using hFirst
  | some record => simpa [hLast] using hSecond

/-- A frame is determined by the bytes, whatever follows it. -/
theorem recordFrame_inj {sensorId sensorId' : UInt16} {body body' rest rest' : List UInt8}
    (hBody : body.length < 256) (hBody' : body'.length < 256)
    (h : recordFrame sensorId body ++ rest = recordFrame sensorId' body' ++ rest') :
    body = body' ∧ rest = rest' := by
  simp only [recordFrame, LittleEndian.encode, List.cons_append, List.nil_append,
    List.cons.injEq] at h
  obtain ⟨_, _, hLength, hTail⟩ := h
  have hLengths : body.length = body'.length := by
    have hNat := congrArg UInt8.toNat hLength
    rwa [UInt8.toNat_ofNat_of_lt' hBody, UInt8.toNat_ofNat_of_lt' hBody'] at hNat
  exact List.append_inj hTail hLengths

/-- The bodies of a record list are determined by its encoding. -/
theorem Record.encodeAll_bodies {records records' : List Record}
    (h : Record.encodeAll records = Record.encodeAll records') :
    records.map Record.body = records'.map Record.body := by
  induction records generalizing records' with
  | nil =>
      cases records' with
      | nil => rfl
      | cons record' records' =>
          have hLength := congrArg List.length h
          simp only [encodeAll_nil, encodeAll_cons, List.length_nil, List.length_append,
            encode_length] at hLength
          omega
  | cons record records ih =>
      cases records' with
      | nil =>
          have hLength := congrArg List.length h
          simp only [encodeAll_nil, encodeAll_cons, List.length_nil, List.length_append,
            encode_length] at hLength
          omega
      | cons record' records' =>
          obtain ⟨hBody, hRest⟩ :=
            recordFrame_inj record.body_length_lt record'.body_length_lt h
          rw [List.map_cons, List.map_cons, hBody, ih hRest]

/-- Whether the last record is empty is read off the bytes. -/
theorem LastNonempty.of_encodeAll {records records' : List Record} (hLast : LastNonempty records')
    (h : Record.encodeAll records = Record.encodeAll records') : LastNonempty records := by
  have hBodies := congrArg List.getLast? (Record.encodeAll_bodies h)
  rw [List.getLast?_map, List.getLast?_map] at hBodies
  intro record hRecord
  rw [Option.mem_def.mp hRecord, Option.map_some, eq_comm, Option.map_eq_some_iff] at hBodies
  obtain ⟨record', hRecord', hBody⟩ := hBodies
  exact hBody ▸ hLast record' hRecord'

/-- What the decoder accepts, and with which result. -/
theorem upDataDecode_eq_ok (bytes : List UInt8) (r : DecodeDataDecoded) :
    upDataDecode bytes = ok r ↔ ∃ records, LastNonempty records ∧
      bytes = Record.encodeAll records ∧ r = Record.decodedAll records := by
  unfold upDataDecode
  rw [recordLoop.loop_eq_ok (Nat.zero_le _) (by omega)]
  simp only [Block.whole, Record.decodedAll_foldl, DecodeDataDecoded.empty_append]
  constructor
  · rintro ⟨records, hBytes, hLast, hResult⟩
    exact ⟨records, hLast, hBytes, hResult⟩
  · rintro ⟨records, hLast, hBytes, hResult⟩
    exact ⟨records, hBytes, hLast, hResult⟩

/-- An encoded record list decodes to its contents exactly when it does not
end with an empty record. -/
theorem upDataDecode_encodeAll (records : List Record) :
    upDataDecode (Record.encodeAll records) = ok (Record.decodedAll records) ↔
      LastNonempty records := by
  rw [upDataDecode_eq_ok]
  constructor
  · rintro ⟨records', hLast, hBytes, _⟩
    exact hLast.of_encodeAll hBytes
  · intro hLast
    exact ⟨records, hLast, rfl, rfl⟩

/-- Decoding undoes the encoding of record lists without a trailing empty
record, accepts nothing else, and is additive exactly on such parts. -/
theorem upDataDecode_grammar (records first second : List Record) (bytes : List UInt8)
    (result : DecodeDataDecoded) :
    (upDataDecode (Record.encodeAll records) = ok (Record.decodedAll records) ↔
      LastNonempty records) ∧
    (upDataDecode bytes = ok result →
      ∃ records, bytes = Record.encodeAll records ∧ result = Record.decodedAll records) ∧
    ((∃ r r', upDataDecode (Record.encodeAll first) = ok r ∧
        upDataDecode (Record.encodeAll second) = ok r' ∧
        upDataDecode (Record.encodeAll first ++ Record.encodeAll second) = ok (r ++ r')) ↔
      LastNonempty first ∧ LastNonempty second) := by
  refine ⟨upDataDecode_encodeAll records, ?_, ?_⟩
  · intro h
    obtain ⟨records, _, hBytes, hResult⟩ := (upDataDecode_eq_ok bytes result).mp h
    exact ⟨records, hBytes, hResult⟩
  · constructor
    · rintro ⟨r, r', hFirst, hSecond, _⟩
      obtain ⟨records, hLast, hBytes, _⟩ := (upDataDecode_eq_ok _ r).mp hFirst
      obtain ⟨records', hLast', hBytes', _⟩ := (upDataDecode_eq_ok _ r').mp hSecond
      exact ⟨hLast.of_encodeAll hBytes, hLast'.of_encodeAll hBytes'⟩
    · rintro ⟨hFirst, hSecond⟩
      refine ⟨_, _, (upDataDecode_encodeAll first).mpr hFirst,
        (upDataDecode_encodeAll second).mpr hSecond, ?_⟩
      rw [← Record.encodeAll_append, ← Record.decodedAll_append]
      exact (upDataDecode_encodeAll _).mpr (hFirst.append hSecond)

/-- A trailing empty record is refused. -/
theorem upDataDecode_trailing_empty :
    ¬ ∀ records, upDataDecode (Record.encodeAll records) = ok (Record.decodedAll records) := by
  intro h
  exact absurd (h [.ordinary 1 [] (by decide) (by decide)]) (by decide)

end SnapEmu.Decode
