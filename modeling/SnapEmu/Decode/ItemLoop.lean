import SnapEmu.Decode.Item
import SnapEmu.Semantics.Cursor

/-! The item loop of one record. A continuing round consumes exactly one
encoded item, so the loop accepts exactly the encoded item lists. -/
namespace SnapEmu.Decode

open Semantics Semantics.Exec

variable {bytes : List UInt8} {sensorId : UInt16} {pos next : Nat} {r r' : DecodeDataDecoded}

/-- The entries of a list of items, as a decoded payload. -/
def Item.decodedAll (sensorId : UInt16) (items : List Item) : DecodeDataDecoded :=
  { data := items.map (Item.data sensorId) }

/-- A continuing item round reads one item. -/
theorem itemRound_next :
    Next (itemRound bytes bytes.length sensorId.toUInt32) (pos, r) (next, r') ↔
      ∃ item : Item, Block bytes pos next item.encode ∧
        r' = r ++ Item.decodedAll sensorId [item] := by
  unfold Next itemRound
  dsimp only
  constructor
  · intro h
    rw [if_neg (by rintro hEmpty; simp [hEmpty] at h),
      if_neg (by rintro hEnd; simp [hEnd] at h)] at h
    simp only [bind_eq_ok, index_eq_ok, tryFrom_eq_ok, tag_low, pure_eq, ok.injEq, Sum.inl.injEq,
      Prod.mk.injEq] at h
    obtain ⟨tag, hTag, type, hType, ⟨stop, value⟩, hValue, rfl, rfl⟩ := h
    obtain ⟨payload, rfl, hBlock, rfl⟩ := decodeValue_eq_ok.mp hValue
    have hPk : tag.toNat / 16 < 16 := by have := tag.toNat_lt; omega
    refine ⟨⟨⟨tag.toNat / 16, hPk⟩, payload⟩, Block.cons.mpr ⟨?_, hBlock⟩, ?_⟩
    · rw [hTag, ← itemTag_eq.mpr ⟨hType, rfl⟩]
    · rw [tag_high]
      simp [DecodeDataDecoded.append_def, Item.decodedAll, Item.data]
  · rintro ⟨item, hBlock, rfl⟩
    have hStop := hBlock.stop_eq
    obtain ⟨hTag, hPayload⟩ := Block.cons.mp hBlock
    obtain ⟨hType, hPk⟩ := itemTag_eq.mp (rfl : itemTag item.pkId item.payload.type = _)
    simp only [Item.encode, List.length_cons] at hStop
    rw [if_neg (by omega), if_neg (by omega)]
    simp only [bind_eq_ok, index_eq_ok, tryFrom_eq_ok, tag_low, pure_eq, ok.injEq, Sum.inl.injEq,
      Prod.mk.injEq]
    refine ⟨_, hTag, _, hType, ⟨next, item.payload.value⟩,
      decodeValue_eq_ok.mpr ⟨item.payload, rfl, hPayload, rfl⟩, rfl, ?_⟩
    rw [tag_high, hPk]
    simp [DecodeDataDecoded.append_def, Item.decodedAll, Item.data]

/-- The item loop breaks at the end of the record. -/
theorem itemRound_break (hPos : pos ≤ bytes.length) :
    itemRound bytes bytes.length sensorId.toUInt32 (pos, r) = ok (.inr r') ↔
      pos = bytes.length ∧ r' = r := by
  unfold itemRound
  dsimp only
  split_ifs with hEmpty hEnd
  · have hPosEnd : pos = bytes.length := by omega
    simp [hPosEnd, eq_comm]
  · have hPosEnd : pos = bytes.length := by omega
    simp [hPosEnd, eq_comm]
  · have hNot : pos ≠ bytes.length := by omega
    simp [bind_eq_ok, hNot]

/-- The item loop aborts at an array tag that ends the record. -/
theorem itemRound_panic :
    itemRound bytes bytes.length sensorId.toUInt32 (pos, r) = panic ↔
      ∃ tag : UInt8, Block bytes pos bytes.length [tag] ∧ tag.toNat % 16 = 0 := by
  unfold itemRound
  dsimp only
  constructor
  · intro h
    split_ifs at h with hEmpty hEnd
    simp only [bind_eq_panic, index_eq_panic, index_eq_ok, tryFrom_ne_panic, tryFrom_eq_ok,
      tag_low, pure_eq, reduceCtorEq, and_false, exists_false, or_false, false_or] at h
    rcases h with h | ⟨tag, hTag, type, hType, hPanic⟩
    · omega
    · obtain ⟨rfl, hLast⟩ := (decodeValue_eq_panic (by omega)).mp hPanic
      exact ⟨tag, Block.singleton.mpr ⟨hLast.symm, hTag⟩, hType⟩
  · rintro ⟨tag, hBlock, hType⟩
    obtain ⟨hLast, hTag⟩ := Block.singleton.mp hBlock
    rw [if_neg (by omega), if_neg (by omega)]
    simp only [bind_eq_panic, index_eq_ok, tryFrom_eq_ok, tag_low]
    refine Or.inr ⟨tag, hTag, Or.inr ⟨.array, hType, Or.inl ?_⟩⟩
    exact (decodeValue_eq_panic (by omega)).mpr ⟨rfl, hLast.symm⟩

/-- A round over the items always ends. -/
theorem itemRound_ne_diverge (state : Nat × DecodeDataDecoded) :
    itemRound bytes bytes.length sensorId.toUInt32 state ≠ diverge := by
  unfold itemRound
  dsimp only
  split_ifs
  · simp
  · simp
  · simp [bind_eq_diverge, tryFrom_ne_diverge, decodeValue_ne_diverge]

/-- The item loop is a cursor loop over encoded items. -/
theorem itemLoop : CursorLoop bytes (itemRound bytes bytes.length sensorId.toUInt32) Item.encode
    (fun r item => r ++ Item.decodedAll sensorId [item]) (fun _ => True) where
  encode_ne_nil item := List.cons_ne_nil _ _
  next := by simp [itemRound_next]
  break_iff := itemRound_break
  ne_diverge := itemRound_ne_diverge

/-- Items decoded in turn are the items decoded together. -/
theorem Item.decodedAll_foldl (sensorId : UInt16) (items : List Item) (r : DecodeDataDecoded) :
    items.foldl (fun r item => r ++ Item.decodedAll sensorId [item]) r =
      r ++ Item.decodedAll sensorId items := by
  induction items generalizing r with
  | nil => simp [Item.decodedAll]
  | cons item items ih =>
      rw [List.foldl_cons, ih, DecodeDataDecoded.append_assoc]
      simp [Item.decodedAll, DecodeDataDecoded.append_def]

/-- A battery record adds its status. -/
theorem batteryRecord_eq (bytes : List UInt8) (r : DecodeDataDecoded) :
    batteryRecord bytes bytes.length r = ok (r ++ { status := batteryStatus bytes }) := by
  unfold batteryRecord
  split_ifs with hTwo hFour
  · obtain ⟨a, b, rfl⟩ := List.length_eq_two.mp hTwo
    simp [DecodeDataDecoded.append_def, index, batteryStatus]
  · match bytes, hFour with
    | [a, b, c, d], _ => simp [DecodeDataDecoded.append_def, index, batteryStatus]
  · have hNone : batteryStatus bytes = none := by
      unfold batteryStatus
      split <;> simp_all
    simp [DecodeDataDecoded.append_def, hNone]

/-- A pin record adds its pins. -/
theorem ioRecord_eq (bytes : List UInt8) (r : DecodeDataDecoded) :
    ioRecord bytes bytes.length r = ok (r ++ { io := ioList bytes }) := by
  unfold ioRecord
  split_ifs with hEleven
  · match bytes, hEleven with
    | [a, ioNum, c, d, e, f, g, h, i, j, k], _ =>
        simp only [index, List.getElem?_cons_zero, List.getElem?_cons_succ, ok_bind, pure_eq,
          ioList]
        split_ifs <;> simp [DecodeDataDecoded.append_def]
  · have hNone : ioList bytes = [] := by
      unfold ioList
      split <;> simp_all
    simp [DecodeDataDecoded.append_def, hNone]

/-- The item loop of a whole record body succeeds on encoded item lists. -/
theorem itemLoop_eq_ok :
    loop (itemRound bytes bytes.length sensorId.toUInt32) (bytes.length + 1) (0, r) = ok r' ↔
      ∃ items, bytes = Item.encodeAll items ∧ r' = r ++ Item.decodedAll sensorId items := by
  rw [itemLoop.loop_eq_ok (Nat.zero_le _) (by omega)]
  simp only [Block.whole, implies_true, true_and, Item.decodedAll_foldl, Item.encodeAll]

/-- It aborts on encoded items followed by an array tag and nothing else. -/
theorem itemLoop_eq_panic :
    loop (itemRound bytes bytes.length sensorId.toUInt32) (bytes.length + 1) (0, r) = panic ↔
      ∃ items pkId, bytes = Item.encodeAll items ++ [itemTag pkId .array] := by
  rw [itemLoop.loop_eq_panic (Nat.zero_le _) (by omega)]
  simp only [itemRound_panic, implies_true, or_true, true_and]
  constructor
  · rintro ⟨items, stop, hItems, tag, hTag, hType⟩
    have hNibble : tag.toNat / 16 < 16 := by have := tag.toNat_lt; omega
    refine ⟨items, ⟨tag.toNat / 16, hNibble⟩, ?_⟩
    rw [← itemTag_eq.mpr ⟨hType, rfl⟩]
    obtain ⟨rfl, _⟩ := hItems.stop_eq
    exact Block.whole.mp (Block.append.mpr ⟨hItems, hTag⟩)
  · rintro ⟨items, pkId, hBytes⟩
    obtain ⟨hItems, hTag⟩ := Block.append.mp (Block.whole.mpr hBytes)
    exact ⟨items, _, hItems, _, hTag, (itemTag_eq.mp rfl).1⟩

end SnapEmu.Decode
