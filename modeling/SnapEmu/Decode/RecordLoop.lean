import SnapEmu.Decode.ItemLoop

/-! The record loop over a whole payload. A continuing round consumes one
encoded record; an empty record at the very end is rejected by the round. -/
namespace SnapEmu.Decode

open Semantics Semantics.Exec

variable {bytes body : List UInt8} {sensorId : UInt16} {pos stop : Nat} {r r' : DecodeDataDecoded}

/-- The sensor id assembled from two bytes is their little-endian value. -/
theorem sensorId_eq (lo hi : UInt8) :
    lo.toUInt32 ||| hi.toUInt32 <<< 8 = (u16FromLeBytes [lo, hi]).toUInt32 := by
  have hLo := lo.toNat_lt
  have hHi := hi.toNat_lt
  have hShift : hi.toNat <<< 8 % 2 ^ 32 = hi.toNat <<< 8 := by
    rw [Nat.shiftLeft_eq]
    omega
  have hValue : (u16FromLeBytes [lo, hi]).toUInt32.toNat = hi.toNat <<< 8 + lo.toNat := by
    simp only [u16FromLeBytes, LittleEndian.value_cons, LittleEndian.value_nil,
      UInt16.toNat_toUInt32, UInt16.toNat_ofNat', Nat.shiftLeft_eq]
    omega
  apply UInt32.toNat_inj.mp
  rw [hValue, UInt32.toNat_or, UInt32.toNat_shiftLeft, UInt8.toNat_toUInt32, UInt8.toNat_toUInt32,
    show (8 : UInt32).toNat % 32 = 8 by rfl, hShift, Nat.or_comm, Nat.shiftLeft_add_eq_or_of_lt hLo]

theorem sensorId_eq_zero : sensorId.toUInt32 = 0 ↔ sensorId = 0 := by
  rw [← UInt16.toUInt32_inj]
  rfl

theorem sensorId_eq_seven : sensorId.toUInt32 = 7 ↔ sensorId = 7 := by
  rw [← UInt16.toUInt32_inj]
  rfl

/-- A record body is decoded into what its record contributes. -/
theorem recordBody_eq_ok (hBody : body.length < 256) :
    recordBody sensorId.toUInt32 body body.length r = ok r' ↔
      ∃ record : Record, record.sensorId = sensorId ∧ record.body = body ∧
        r' = r ++ record.decoded := by
  unfold recordBody
  rw [if_congr sensorId_eq_zero rfl rfl, if_congr sensorId_eq_seven rfl rfl]
  split_ifs with hZero hSeven
  · subst hZero
    rw [batteryRecord_eq, ok.injEq]
    constructor
    · rintro rfl
      exact ⟨.battery ⟨body, hBody⟩, rfl, rfl, rfl⟩
    · rintro ⟨record, hSensor, rfl, rfl⟩
      cases record with
      | battery body => rfl
      | io body => cases hSensor
      | ordinary id items hOrdinary hLength => exact (hOrdinary.1 hSensor).elim
  · subst hSeven
    rw [ioRecord_eq, ok.injEq]
    constructor
    · rintro rfl
      exact ⟨.io ⟨body, hBody⟩, rfl, rfl, rfl⟩
    · rintro ⟨record, hSensor, rfl, rfl⟩
      cases record with
      | battery body => cases hSensor
      | io body => rfl
      | ordinary id items hOrdinary hLength => exact (hOrdinary.2 hSensor).elim
  · rw [itemLoop_eq_ok]
    constructor
    · rintro ⟨items, rfl, rfl⟩
      exact ⟨.ordinary sensorId items ⟨hZero, hSeven⟩ hBody, rfl, rfl, rfl⟩
    · rintro ⟨record, rfl, rfl, rfl⟩
      cases record with
      | battery body => exact (hZero rfl).elim
      | io body => exact (hSeven rfl).elim
      | ordinary id items hOrdinary hLength => exact ⟨items, rfl, rfl⟩

/-- Decoding a record body aborts only in the item loop. -/
theorem recordBody_eq_panic :
    recordBody sensorId.toUInt32 body body.length r = panic ↔
      (sensorId ≠ 0 ∧ sensorId ≠ 7) ∧
        ∃ items pkId, body = Item.encodeAll items ++ [itemTag pkId .array] := by
  unfold recordBody
  rw [if_congr sensorId_eq_zero rfl rfl, if_congr sensorId_eq_seven rfl rfl]
  split_ifs with hZero hSeven
  · simp [batteryRecord_eq, hZero]
  · simp [ioRecord_eq, hSeven]
  · simp [itemLoop_eq_panic, hZero, hSeven]

/-- Reading a body always ends. -/
theorem recordBody_ne_diverge :
    recordBody sensorId.toUInt32 body body.length r ≠ diverge := by
  unfold recordBody
  split_ifs
  · simp [batteryRecord_eq]
  · simp [ioRecord_eq]
  · exact itemLoop.loop_ne_diverge (by omega)

/-- Any three header bytes frame a body of the announced length. -/
private theorem recordFrame_eq (lo hi : UInt8) (body : List UInt8) :
    recordFrame (u16FromLeBytes [lo, hi]) body = lo :: hi :: UInt8.ofNat body.length :: body := by
  have hLo := lo.toNat_lt
  have hHi := hi.toNat_lt
  have hValue : LittleEndian.value [lo, hi] < 2 ^ 16 := by
    simp only [LittleEndian.value_cons, LittleEndian.value_nil]
    omega
  have hId : (u16FromLeBytes [lo, hi]).toNat = LittleEndian.value [lo, hi] :=
    UInt16.toNat_ofNat_of_lt' hValue
  have hBytes : LittleEndian.encode 2 (LittleEndian.value [lo, hi]) = [lo, hi] :=
    LittleEndian.encode_value [lo, hi]
  rw [recordFrame, hId, hBytes]
  rfl

/-- With fewer than four bytes left a round reports an error. -/
private theorem recordRound_short (hPos : pos ≠ bytes.length) (hShort : bytes.length ≤ pos + 3) :
    ∃ error, recordRound bytes (pos, r) = err error := by
  unfold recordRound
  dsimp only
  rw [if_neg hPos]
  by_cases hSensor : bytes.length ≤ pos + 2
  · exact ⟨_, if_pos hSensor⟩
  · have hFirst : index bytes (pos + 2 - 2) = (ok bytes[pos] : Exec DataError UInt8) :=
      index_eq_ok.mpr (List.getElem?_eq_getElem (by omega))
    have hSecond : index bytes (pos + 2 - 1) = (ok bytes[pos + 1] : Exec DataError UInt8) :=
      index_eq_ok.mpr (List.getElem?_eq_getElem (by omega))
    rw [if_neg hSensor, hFirst, ok_bind, hSecond, ok_bind]
    exact ⟨_, if_pos (by omega)⟩

/-- With at least four bytes left a round reads the three header bytes. -/
private theorem recordRound_header {lo hi dataLen : UInt8} (hLong : pos + 3 < bytes.length)
    (hLo : bytes[pos]? = some lo) (hHi : bytes[pos + 1]? = some hi)
    (hLen : bytes[pos + 2]? = some dataLen) :
    recordRound bytes (pos, r) =
      if bytes.length < pos + 3 + dataLen.toNat then err ⟨"data length so mush"⟩
      else slice bytes (pos + 3) (pos + 3 + dataLen.toNat) >>= fun body =>
        recordBody (u16FromLeBytes [lo, hi]).toUInt32 body dataLen.toNat r >>= fun r =>
          ok (.inl (pos + 3 + dataLen.toNat, r)) := by
  have hFirst : index bytes (pos + 2 - 2) = (ok lo : Exec DataError UInt8) := index_eq_ok.mpr hLo
  have hSecond : index bytes (pos + 2 - 1) = (ok hi : Exec DataError UInt8) := index_eq_ok.mpr hHi
  have hThird : index bytes (pos + 2 + 1 - 1) = (ok dataLen : Exec DataError UInt8) :=
    index_eq_ok.mpr hLen
  unfold recordRound
  dsimp only
  rw [if_neg (by omega), if_neg (by omega), hFirst, ok_bind, hSecond, ok_bind, if_neg (by omega),
    hThird, ok_bind, Nat.add_sub_cancel, sensorId_eq]
  rfl

/-- A round on a framed record decodes the record's body. -/
theorem recordRound_frame (hBody : body.length < 256)
    (hBlock : Block bytes pos stop (recordFrame sensorId body))
    (hMore : stop < bytes.length ∨ body ≠ []) :
    recordRound bytes (pos, r) =
      (recordBody sensorId.toUInt32 body body.length r >>= fun r => ok (.inl (stop, r))) := by
  obtain ⟨hStop, hBound⟩ := hBlock.stop_eq
  have hLong : stop < bytes.length ∨ 0 < body.length := hMore.imp_right List.length_pos_iff.mpr
  have hId : u16FromLeBytes (LittleEndian.encode 2 sensorId.toNat) = sensorId := by
    rw [u16FromLeBytes, LittleEndian.value_encode sensorId.toNat_lt, UInt16.ofNat_toNat]
  have hLength : (UInt8.ofNat body.length).toNat = body.length := UInt8.toNat_ofNat_of_lt' hBody
  rw [recordFrame_length] at hStop
  simp only [recordFrame, LittleEndian.encode, List.cons_append, List.nil_append, Block.cons]
    at hBlock hId
  obtain ⟨hLo, hHi, hLen, hRest⟩ := hBlock
  rw [recordRound_header (by omega) hLo hHi hLen, hLength, if_neg (by omega), hId]
  have hSlice : slice bytes (pos + 3) (pos + 3 + body.length) = (ok body : Exec DataError _) := by
    apply slice_eq_ok.mpr
    rwa [show pos + 3 + body.length = stop by omega]
  rw [hSlice, ok_bind, show pos + 3 + body.length = stop by omega]

/-- A round that neither breaks nor reports an error has a frame in front. -/
theorem recordRound_framed (hPos : pos ≠ bytes.length)
    (hRound : ∀ error, recordRound bytes (pos, r) ≠ err error) :
    ∃ sensorId body stop, body.length < 256 ∧ Block bytes pos stop (recordFrame sensorId body) ∧
      (stop < bytes.length ∨ body ≠ []) := by
  by_cases hLong : pos + 3 < bytes.length
  · obtain ⟨lo, hLo⟩ : ∃ lo, bytes[pos]? = some lo := ⟨_, List.getElem?_eq_getElem (by omega)⟩
    obtain ⟨hi, hHi⟩ : ∃ hi, bytes[pos + 1]? = some hi := ⟨_, List.getElem?_eq_getElem (by omega)⟩
    obtain ⟨dataLen, hLen⟩ : ∃ dataLen, bytes[pos + 2]? = some dataLen :=
      ⟨_, List.getElem?_eq_getElem (by omega)⟩
    rw [recordRound_header hLong hLo hHi hLen] at hRound
    have hFits : pos + 3 + dataLen.toNat ≤ bytes.length := by
      by_contra hMuch
      rw [if_pos (by omega)] at hRound
      exact hRound _ rfl
    have hDataLen := dataLen.toNat_lt
    obtain ⟨body, hBody⟩ : ∃ body, Block bytes (pos + 3) (pos + 3 + dataLen.toNat) body :=
      ⟨_, by omega, hFits, rfl⟩
    have hLength : body.length = dataLen.toNat := by have := hBody.stop_eq; omega
    refine ⟨u16FromLeBytes [lo, hi], body, pos + 3 + dataLen.toNat, by omega, ?_, ?_⟩
    · rw [recordFrame_eq, hLength, UInt8.ofNat_toNat]
      exact Block.cons.mpr ⟨hLo, Block.cons.mpr ⟨hHi, Block.cons.mpr ⟨hLen, hBody⟩⟩⟩
    · rw [← List.length_pos_iff]
      omega
  · have hShort : ∃ error, recordRound bytes (pos, r) = err error :=
      recordRound_short hPos (by omega)
    obtain ⟨error, hError⟩ := hShort
    exact (hRound error hError).elim

/-- A continuing record round reads one record. -/
theorem recordRound_next :
    Next (recordRound bytes) (pos, r) (stop, r') ↔
      ∃ record : Record, Block bytes pos stop record.encode ∧
        (stop < bytes.length ∨ record.body ≠ []) ∧ r' = r ++ record.decoded := by
  unfold Next
  constructor
  · intro hRound
    have hPos : pos ≠ bytes.length := by
      rintro rfl
      simp [recordRound] at hRound
    have hNoError : ∀ error, recordRound bytes (pos, r) ≠ err error := by simp [hRound]
    obtain ⟨sensorId, body, stop', hBody, hBlock, hMore⟩ := recordRound_framed hPos hNoError
    rw [recordRound_frame hBody hBlock hMore, bind_eq_ok] at hRound
    simp only [recordBody_eq_ok hBody, ok.injEq, Sum.inl.injEq, Prod.mk.injEq] at hRound
    obtain ⟨_, ⟨record, rfl, rfl, rfl⟩, rfl, rfl⟩ := hRound
    exact ⟨record, hBlock, hMore, rfl⟩
  · rintro ⟨record, hBlock, hMore, rfl⟩
    rw [recordRound_frame record.body_length_lt hBlock hMore,
      (recordBody_eq_ok record.body_length_lt).mpr ⟨record, rfl, rfl, rfl⟩, ok_bind]

/-- The loop over the records stops exactly at the end of the bytes. -/
theorem recordRound_break :
    recordRound bytes (pos, r) = ok (.inr r') ↔ pos = bytes.length ∧ r' = r := by
  by_cases hPos : pos = bytes.length
  · simp [recordRound, hPos, eq_comm]
  · simp only [hPos, false_and, iff_false]
    intro hRound
    have hNoError : ∀ error, recordRound bytes (pos, r) ≠ err error := by simp [hRound]
    obtain ⟨sensorId, body, stop, hBody, hBlock, hMore⟩ := recordRound_framed hPos hNoError
    rw [recordRound_frame hBody hBlock hMore, bind_eq_ok] at hRound
    simp at hRound

/-- A record round aborts on an ordinary record whose items end with an
array tag and nothing behind it. -/
theorem recordRound_panic :
    recordRound bytes (pos, r) = panic ↔
      ∃ (sensorId : UInt16) (items : List Item) (pkId : Fin 16) (stop : Nat),
        (sensorId ≠ 0 ∧ sensorId ≠ 7) ∧ (Item.encodeAll items).length + 1 < 256 ∧
          Block bytes pos stop
            (recordFrame sensorId (Item.encodeAll items ++ [itemTag pkId .array])) := by
  constructor
  · intro hRound
    have hPos : pos ≠ bytes.length := by
      rintro rfl
      simp [recordRound] at hRound
    have hNoError : ∀ error, recordRound bytes (pos, r) ≠ err error := by simp [hRound]
    obtain ⟨sensorId, body, stop, hBody, hBlock, hMore⟩ := recordRound_framed hPos hNoError
    rw [recordRound_frame hBody hBlock hMore, bind_eq_panic] at hRound
    simp only [recordBody_eq_panic, reduceCtorEq, and_false, exists_false, or_false] at hRound
    obtain ⟨hSensor, items, pkId, rfl⟩ := hRound
    exact ⟨sensorId, items, pkId, stop, hSensor, by simpa using hBody, hBlock⟩
  · rintro ⟨sensorId, items, pkId, stop, hSensor, hBody, hBlock⟩
    rw [recordRound_frame (by simpa using hBody) hBlock (by simp),
      recordBody_eq_panic.mpr ⟨hSensor, items, pkId, rfl⟩, panic_bind]

/-- A round over the records always ends. -/
theorem recordRound_ne_diverge (state : Nat × DecodeDataDecoded) :
    recordRound bytes state ≠ diverge := by
  obtain ⟨pos, r⟩ := state
  by_cases hPos : pos = bytes.length
  · simp [recordRound, hPos]
  · intro hRound
    have hNoError : ∀ error, recordRound bytes (pos, r) ≠ err error := by simp [hRound]
    obtain ⟨sensorId, body, stop, hBody, hBlock, hMore⟩ := recordRound_framed hPos hNoError
    rw [recordRound_frame hBody hBlock hMore, bind_eq_diverge] at hRound
    simp [recordBody_ne_diverge] at hRound

/-- The record loop is a cursor loop over encoded records; a record that
ends the payload may not be empty. -/
theorem recordLoop : CursorLoop bytes (recordRound bytes) Record.encode
    (fun r record => r ++ record.decoded) (fun record => record.body ≠ []) where
  encode_ne_nil record := by simp [← List.length_pos_iff]
  next := recordRound_next
  break_iff _ := recordRound_break
  ne_diverge := recordRound_ne_diverge

/-- Records decoded in turn are the records decoded together. -/
theorem Record.decodedAll_foldl (records : List Record) (r : DecodeDataDecoded) :
    records.foldl (fun r record => r ++ record.decoded) r = r ++ Record.decodedAll records := by
  induction records generalizing r with
  | nil => simp [Record.decodedAll]
  | cons record records ih =>
      rw [List.foldl_cons, ih, Record.decodedAll, DecodeDataDecoded.append_assoc]

end SnapEmu.Decode
