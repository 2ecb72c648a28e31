import SnapEmu.Decode.Grammar

/-! What one item, and the item loop of one record, read. The successful and
the aborting outcomes are characterized exactly, by blocks of the record. -/
namespace SnapEmu.Decode

open Semantics Semantics.Exec

variable {bytes : List UInt8} {start stop : Nat}

/-- A slice arm succeeds on exactly the blocks of its width. -/
theorem sliceValue_eq_ok {name : String} {width : Nat} {convert : List UInt8 → Value}
    {value : Value} :
    sliceValue name width convert bytes bytes.length start = ok (stop, value) ↔
      ∃ block, Block bytes start stop block ∧ block.length = width ∧ convert block = value := by
  unfold sliceValue
  split_ifs with h
  · simp only [false_iff, not_exists, not_and]
    intro block hBlock hWidth _
    have hStop := hBlock.stop_eq
    omega
  · simp only [bind_eq_ok, slice_eq_ok, pure_eq, ok.injEq, Prod.mk.injEq]
    constructor
    · rintro ⟨block, hBlock, rfl, hValue⟩
      have hStop := hBlock.stop_eq
      exact ⟨block, hBlock, by omega, hValue⟩
    · rintro ⟨block, hBlock, rfl, hValue⟩
      obtain ⟨rfl, _⟩ := hBlock.stop_eq
      exact ⟨block, hBlock, rfl, hValue⟩

/-- A slice arm never aborts: its guard covers the slice. -/
theorem sliceValue_ne_panic {name : String} {width : Nat} {convert : List UInt8 → Value} :
    sliceValue name width convert bytes bytes.length start ≠ panic := by
  unfold sliceValue
  split_ifs with h
  · simp
  · simp only [ne_eq, bind_eq_panic, slice_eq_panic, pure_eq, reduceCtorEq, and_false,
      exists_false, or_false]
    omega

/-- An index arm succeeds on exactly one byte. -/
theorem byteValue_eq_ok {name : String} {convert : UInt8 → Value} {value : Value} :
    byteValue name convert bytes bytes.length start = ok (stop, value) ↔
      ∃ byte, Block bytes start stop [byte] ∧ convert byte = value := by
  unfold byteValue
  split_ifs with h
  · simp only [false_iff, not_exists, not_and]
    intro byte hBlock _
    have hStop := hBlock.stop_eq
    simp only [List.length_singleton] at hStop
    omega
  · simp only [bind_eq_ok, index_eq_ok, Block.singleton, pure_eq, ok.injEq, Prod.mk.injEq]
    constructor
    · rintro ⟨byte, hByte, rfl, hValue⟩
      exact ⟨byte, ⟨rfl, hByte⟩, hValue⟩
    · rintro ⟨byte, ⟨rfl, hByte⟩, hValue⟩
      exact ⟨byte, hByte, rfl, hValue⟩

theorem byteValue_ne_panic {name : String} {convert : UInt8 → Value} :
    byteValue name convert bytes bytes.length start ≠ panic := by
  unfold byteValue
  split_ifs with h
  · simp
  · simp only [ne_eq, bind_eq_panic, index_eq_panic, pure_eq, reduceCtorEq, and_false,
      exists_false, or_false]
    omega

/-- The array arm succeeds on a length byte and that many bytes. -/
theorem arrayValue_eq_ok {value : Value} :
    arrayValue bytes bytes.length start = ok (stop, value) ↔
      ∃ content : ShortBytes,
        Block bytes start stop (UInt8.ofNat content.val.length :: content.val) ∧
          Value.int 0 = value := by
  unfold arrayValue
  split_ifs with h
  · simp only [false_iff, not_exists, not_and]
    intro content hBlock _
    have hStop := hBlock.stop_eq
    simp only [List.length_cons] at hStop
    omega
  · simp only [bind_eq_ok, index_eq_ok]
    constructor
    · rintro ⟨arrLen, hLen, hRest⟩
      split_ifs at hRest with hLong
      simp only [bind_eq_ok, slice_eq_ok, pure_eq, ok.injEq, Prod.mk.injEq] at hRest
      obtain ⟨content, hContent, rfl, hValue⟩ := hRest
      have hLength : arrLen.toNat = content.length := by
        have hStop := hContent.stop_eq
        omega
      have hByte := arrLen.toNat_lt
      refine ⟨⟨content, by omega⟩, ?_, hValue⟩
      rw [Block.cons]
      refine ⟨?_, hContent⟩
      simp only [← hLength, UInt8.ofNat_toNat, hLen]
    · rintro ⟨content, hBlock, hValue⟩
      obtain ⟨hLen, hContent⟩ := Block.cons.mp hBlock
      obtain ⟨hStop, hBound⟩ := hContent.stop_eq
      have hLength : (UInt8.ofNat content.val.length).toNat = content.val.length := by
        have hShort := content.property
        simp only [UInt8.toNat_ofNat']
        omega
      refine ⟨_, hLen, ?_⟩
      rw [hLength, if_neg (by omega), ← hStop]
      simp only [bind_eq_ok, slice_eq_ok, pure_eq, ok.injEq, Prod.mk.injEq, true_and]
      exact ⟨_, hContent, hValue⟩

/-- The array arm aborts exactly when the cursor stands at the end. -/
theorem arrayValue_eq_panic (hStart : start ≤ bytes.length) :
    arrayValue bytes bytes.length start = panic ↔ start = bytes.length := by
  unfold arrayValue
  rw [if_neg (by omega), bind_eq_panic, index_eq_panic]
  constructor
  · rintro (hEnd | ⟨arrLen, _, hRest⟩)
    · omega
    · dsimp only at hRest
      split_ifs at hRest with hLong
      simp only [bind_eq_panic, slice_eq_panic, pure_eq, reduceCtorEq, and_false, exists_false,
        or_false] at hRest
      omega
  · intro hEnd
    exact Or.inl (by omega)

/-- A word type with its payload constructor: every block of the word's
width is the encoding of one word, and converts to that payload's value. -/
private theorem sliceValue_payload {Word : Type} {name : String} {width : Nat}
    {convert : List UInt8 → Value} {type : ValueType} {value : Value}
    (mk : Word → Payload) (toNat : Word → Nat) (ofNat : Nat → Word)
    (hType : ∀ payload : Payload, payload.type = type ↔ ∃ word, payload = mk word)
    (hEncode : ∀ word, (mk word).encode = LittleEndian.encode width (toNat word))
    (hConvert : ∀ n < 256 ^ width, convert (LittleEndian.encode width n) = (mk (ofNat n)).value)
    (hToNat : ∀ word, toNat word < 256 ^ width ∧ ofNat (toNat word) = word)
    (hOfNat : ∀ n < 256 ^ width, toNat (ofNat n) = n) :
    sliceValue name width convert bytes bytes.length start = ok (stop, value) ↔
      ∃ payload : Payload, payload.type = type ∧ Block bytes start stop payload.encode ∧
        payload.value = value := by
  rw [sliceValue_eq_ok]
  constructor
  · rintro ⟨block, hBlock, hWidth, hValue⟩
    have hLt : LittleEndian.value block < 256 ^ width := hWidth ▸ LittleEndian.value_lt block
    have hBytes : LittleEndian.encode width (LittleEndian.value block) = block :=
      (LittleEndian.eq_encode hWidth).symm
    refine ⟨mk (ofNat (LittleEndian.value block)), (hType _).mpr ⟨_, rfl⟩, ?_, ?_⟩
    · rwa [hEncode, hOfNat _ hLt, hBytes]
    · rw [← hConvert _ hLt, hBytes, hValue]
  · rintro ⟨payload, hPayload, hBlock, hValue⟩
    obtain ⟨word, rfl⟩ := (hType payload).mp hPayload
    obtain ⟨hLt, hWord⟩ := hToNat word
    rw [hEncode] at hBlock
    refine ⟨_, hBlock, LittleEndian.encode_length _ _, ?_⟩
    rw [hConvert _ hLt, hWord, hValue]

/-- The single-byte arms. -/
private theorem byteValue_payload {Word : Type} {name : String} {convert : UInt8 → Value}
    {type : ValueType} {value : Value} (mk : Word → Payload)
    (toByte : Word → UInt8) (ofByte : UInt8 → Word)
    (hType : ∀ payload : Payload, payload.type = type ↔ ∃ word, payload = mk word)
    (hEncode : ∀ word, (mk word).encode = [toByte word])
    (hConvert : ∀ word, convert (toByte word) = (mk word).value)
    (hOfByte : ∀ byte, toByte (ofByte byte) = byte) :
    byteValue name convert bytes bytes.length start = ok (stop, value) ↔
      ∃ payload : Payload, payload.type = type ∧ Block bytes start stop payload.encode ∧
        payload.value = value := by
  rw [byteValue_eq_ok]
  constructor
  · rintro ⟨byte, hBlock, hValue⟩
    refine ⟨mk (ofByte byte), (hType _).mpr ⟨_, rfl⟩, ?_, ?_⟩
    · rwa [hEncode, hOfByte]
    · rw [← hConvert, hOfByte, hValue]
  · rintro ⟨payload, hPayload, hBlock, hValue⟩
    obtain ⟨word, rfl⟩ := (hType payload).mp hPayload
    rw [hEncode] at hBlock
    exact ⟨_, hBlock, by rw [hConvert, hValue]⟩

/-- A value arm succeeds on exactly the encodings of payloads of its type,
and returns the value of that payload. -/
theorem decodeValue_eq_ok {type : ValueType} {value : Value} :
    decodeValue type bytes bytes.length start = ok (stop, value) ↔
      ∃ payload : Payload, payload.type = type ∧ Block bytes start stop payload.encode ∧
        payload.value = value := by
  cases type with
  | array =>
      rw [decodeValue, arrayValue_eq_ok]
      constructor
      · rintro ⟨content, hBlock, hValue⟩
        exact ⟨.array content, rfl, hBlock, hValue⟩
      · rintro ⟨payload, hType, hBlock, hValue⟩
        cases payload with
        | array content => exact ⟨content, hBlock, hValue⟩
        | _ => cases hType
  | f64 =>
      apply sliceValue_payload .f64 UInt64.toNat UInt64.ofNat
      · intro payload; cases payload <;> simp [Payload.type]
      · intro word; rfl
      · intro n hLt; simp [Payload.value, u64FromLeBytes, LittleEndian.value_encode hLt]
      · intro word; exact ⟨word.toNat_lt, UInt64.ofNat_toNat⟩
      · intro n hLt; exact UInt64.toNat_ofNat_of_lt' hLt
  | f32 =>
      apply sliceValue_payload .f32 UInt32.toNat UInt32.ofNat
      · intro payload; cases payload <;> simp [Payload.type]
      · intro word; rfl
      · intro n hLt; simp [Payload.value, u32FromLeBytes, LittleEndian.value_encode hLt]
      · intro word; exact ⟨word.toNat_lt, UInt32.ofNat_toNat⟩
      · intro n hLt; exact UInt32.toNat_ofNat_of_lt' hLt
  | bool =>
      apply byteValue_payload .bool id id
      · intro payload; cases payload <;> simp [Payload.type]
      · intro word; rfl
      · intro word; rfl
      · intro byte; rfl
  | i8 =>
      apply byteValue_payload .i8 Int8.toUInt8 UInt8.toInt8
      · intro payload; cases payload <;> simp [Payload.type]
      · intro word; rfl
      · intro word; rfl
      · intro byte; rfl
  | u8 =>
      apply byteValue_payload .u8 id id
      · intro payload; cases payload <;> simp [Payload.type]
      · intro word; rfl
      · intro word; rfl
      · intro byte; rfl
  | i16 =>
      apply sliceValue_payload .i16 (fun word => word.toUInt16.toNat) fun n =>
        (UInt16.ofNat n).toInt16
      · intro payload; cases payload <;> simp [Payload.type]
      · intro word; rfl
      · intro n hLt; simp [Payload.value, u16FromLeBytes, LittleEndian.value_encode hLt]
      · intro word; exact ⟨word.toUInt16.toNat_lt, by simp⟩
      · intro n hLt; exact UInt16.toNat_ofNat_of_lt' hLt
  | u16 =>
      apply sliceValue_payload .u16 UInt16.toNat UInt16.ofNat
      · intro payload; cases payload <;> simp [Payload.type]
      · intro word; rfl
      · intro n hLt; simp [Payload.value, u16FromLeBytes, LittleEndian.value_encode hLt]
      · intro word; exact ⟨word.toNat_lt, UInt16.ofNat_toNat⟩
      · intro n hLt; exact UInt16.toNat_ofNat_of_lt' hLt
  | i32 =>
      apply sliceValue_payload .i32 (fun word => word.toUInt32.toNat) fun n =>
        (UInt32.ofNat n).toInt32
      · intro payload; cases payload <;> simp [Payload.type]
      · intro word; rfl
      · intro n hLt; simp [Payload.value, u32FromLeBytes, LittleEndian.value_encode hLt]
      · intro word; exact ⟨word.toUInt32.toNat_lt, by simp⟩
      · intro n hLt; exact UInt32.toNat_ofNat_of_lt' hLt
  | u32 =>
      apply sliceValue_payload .u32 UInt32.toNat UInt32.ofNat
      · intro payload; cases payload <;> simp [Payload.type]
      · intro word; rfl
      · intro n hLt; simp [Payload.value, u32FromLeBytes, LittleEndian.value_encode hLt]
      · intro word; exact ⟨word.toNat_lt, UInt32.ofNat_toNat⟩
      · intro n hLt; exact UInt32.toNat_ofNat_of_lt' hLt

/-- A value arm aborts exactly for an array whose length byte is missing. -/
theorem decodeValue_eq_panic {type : ValueType} (hStart : start ≤ bytes.length) :
    decodeValue type bytes bytes.length start = panic ↔
      type = .array ∧ start = bytes.length := by
  cases type with
  | array => simpa [decodeValue] using arrayValue_eq_panic hStart
  | _ => simp [decodeValue, sliceValue_ne_panic, byteValue_ne_panic]

/-- Decoding a value always ends. -/
theorem decodeValue_ne_diverge (type : ValueType) (bytes : List UInt8) (dataLen start : Nat) :
    decodeValue type bytes dataLen start ≠ diverge := by
  cases type with
  | array =>
      rw [decodeValue, arrayValue]
      split_ifs
      · simp
      · simp only [ne_eq, bind_eq_diverge, index_ne_diverge, false_or]
        rintro ⟨arrLen, _, hRest⟩
        split_ifs at hRest
        simp [bind_eq_diverge] at hRest
  | _ =>
      simp only [decodeValue, sliceValue, byteValue]
      split_ifs <;> simp [bind_eq_diverge]

/-- A value type is known exactly when it has that code. -/
theorem tryFrom_eq_ok {value : UInt8} {type : ValueType} :
    ValueType.tryFrom value = ok type ↔ value.toNat = type.code := by
  unfold ValueType.tryFrom
  split <;> rename_i hValue <;> cases type <;> simp_all [ValueType.code]

theorem tryFrom_ne_panic (value : UInt8) : ValueType.tryFrom value ≠ panic := by
  unfold ValueType.tryFrom
  split <;> simp

theorem tryFrom_ne_diverge (value : UInt8) : ValueType.tryFrom value ≠ diverge := by
  unfold ValueType.tryFrom
  split <;> simp

/-- The low half of the tag is the value type. -/
theorem tag_low (tag : UInt8) : (tag &&& 0x0f).toNat = tag.toNat % 16 := by
  rw [UInt8.toNat_and]
  exact Nat.and_two_pow_sub_one_eq_mod tag.toNat 4

/-- The high half of the tag is the channel. -/
theorem tag_high (tag : UInt8) : (tag >>> 4).toUInt32 = UInt32.ofNat (tag.toNat / 16) := by
  apply UInt32.toNat_inj.mp
  have hTag := tag.toNat_lt
  rw [UInt8.toNat_toUInt32, UInt8.toNat_shiftRight, UInt32.toNat_ofNat', Nat.shiftRight_eq_div_pow]
  rw [show (4 : UInt8).toNat % 8 = 4 by rfl]
  omega

/-- A tag byte is made of its two nibbles. -/
theorem itemTag_eq {tag : UInt8} {pkId : Fin 16} {type : ValueType} :
    tag = itemTag pkId type ↔ tag.toNat % 16 = type.code ∧ tag.toNat / 16 = pkId.val := by
  have hTag := tag.toNat_lt
  have hPk := pkId.isLt
  have hCode : type.code < 16 := by cases type <;> decide
  rw [← UInt8.toNat_inj, itemTag, UInt8.toNat_ofNat']
  omega

end SnapEmu.Decode
