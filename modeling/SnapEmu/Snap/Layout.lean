import SnapEmu.Snap.Payload

/-! Where the parser of a frame finds the payload, against the length that the
header announces. -/
namespace SnapEmu.Snap

open Device Semantics Exec

/-- The header announces a payload of a length, from a start. -/
inductive Announces (bytes : List UInt8) : Nat → Nat → Prop
  | one {length : UInt8} (hByte : bytes[14]? = some length) (hLess : length < 253) :
      Announces bytes 15 length.toNat
  | two {b0 b1 : UInt8} (hByte : bytes[14]? = some 253) (h0 : bytes[15]? = some b0)
      (h1 : bytes[16]? = some b1) : Announces bytes 17 (LittleEndian.value [b0, b1])
  | four {b0 b1 b2 b3 : UInt8} (hByte : bytes[14]? = some 254) (h0 : bytes[15]? = some b0)
      (h1 : bytes[16]? = some b1) (h2 : bytes[17]? = some b2) (h3 : bytes[18]? = some b3) :
      Announces bytes 19 (LittleEndian.value [b0, b1, b2, b3])

variable {bytes : List UInt8} {checks : Bool} {start length : Nat}

/-- A header announces one length at most. -/
theorem Announces.unique {start' length' : Nat} (h : Announces bytes start length)
    (h' : Announces bytes start' length') : start = start' ∧ length = length' := by
  have hSame : ∀ {position : Nat} {byte byte' : UInt8}, bytes[position]? = some byte →
      bytes[position]? = some byte' → byte = byte' := fun hByte hByte' =>
    Option.some.inj (hByte.symm.trans hByte')
  cases h with
  | one hByte hLess =>
      cases h' with
      | one hByte' hLess' => exact ⟨rfl, by rw [hSame hByte hByte']⟩
      | two hByte' _ _ => exact absurd (hSame hByte hByte' ▸ hLess) (by decide)
      | four hByte' _ _ _ _ => exact absurd (hSame hByte hByte' ▸ hLess) (by decide)
  | two hByte h0 h1 =>
      cases h' with
      | one hByte' hLess' => exact absurd (hSame hByte' hByte ▸ hLess') (by decide)
      | two hByte' h0' h1' => exact ⟨rfl, by rw [hSame h0 h0', hSame h1 h1']⟩
      | four hByte' _ _ _ _ => exact absurd (hSame hByte hByte') (by decide)
  | four hByte h0 h1 h2 h3 =>
      cases h' with
      | one hByte' hLess' => exact absurd (hSame hByte' hByte ▸ hLess') (by decide)
      | two hByte' _ _ => exact absurd (hSame hByte hByte') (by decide)
      | four hByte' h0' h1' h2' h3' =>
          exact ⟨rfl, by rw [hSame h0 h0', hSame h1 h1', hSame h2 h2', hSame h3 h3']⟩

/-- The length is cut to 32 bits. -/
theorem lengthU32_toNat (bytes : List UInt8) : (lengthU32 bytes).toNat = bytes.length % 2 ^ 32 :=
  UInt32.toNat_ofNat'

/-- The comparison of the announced with the actual length, in numbers. -/
theorem matchLength_eq (len payloadLen fixed announced : UInt32) (start : Nat) :
    matchLength checks len payloadLen fixed announced start =
      if checks ∧ 2 ^ 32 ≤ fixed.toNat + announced.toNat then panic
      else if (fixed.toNat + announced.toNat) % 2 ^ 32 = len.toNat then ok start
      else err (lengthError payloadLen len) := by
  unfold matchLength addU32
  split_ifs with hOverflow hTotal
  · rfl
  · rw [ok_bind, if_pos (UInt32.toNat_inj.mp (by rw [UInt32.toNat_add, hTotal]))]
  · rw [ok_bind, if_neg]
    rintro rfl
    exact hTotal (UInt32.toNat_add _ _).symm

/-- The parser of a frame of version 1 that is long enough, as far as the
length byte. -/
theorem getDataStart_long {lengthByte : UInt8} (hLong : 19 ≤ bytes.length % 2 ^ 32)
    (hVersion : bytes[0]? = some 1) (hByte : bytes[14]? = some lengthByte) :
    getDataStart checks bytes =
      let len := lengthU32 bytes
      let payloadLen := lengthByte.toUInt32
      if payloadLen < 253 then matchLength checks len payloadLen (18 + 1) payloadLen 15
      else if payloadLen = 253 then
        index bytes 15 >>= fun b0 => index bytes 16 >>= fun b1 =>
          matchLength checks len payloadLen (18 + 3) (b0.toUInt32 ||| (b1.toUInt32 <<< 8)) 17
      else if payloadLen = 254 then
        index bytes 15 >>= fun b0 => index bytes 16 >>= fun b1 => index bytes 17 >>= fun b2 =>
          index bytes 18 >>= fun b3 =>
            matchLength checks len payloadLen (18 + 5)
              (b0.toUInt32 ||| (b1.toUInt32 <<< 8) ||| (b2.toUInt32 <<< 16) |||
                (b3.toUInt32 <<< 24)) 19
      else err (lengthError payloadLen len) := by
  have hEnough : ¬lengthU32 bytes < 19 := by
    rw [UInt32.lt_iff_toNat_lt, lengthU32_toNat]
    exact Nat.not_lt.mpr hLong
  have hFirst : (index bytes 0 : Exec CustomError UInt8) = ok 1 := index_eq_ok.mpr hVersion
  have hFourteenth : (index bytes 14 : Exec CustomError UInt8) = ok lengthByte :=
    index_eq_ok.mpr hByte
  rw [getDataStart, if_neg hEnough, hFirst, ok_bind, if_neg (by decide), hFourteenth, ok_bind]

/-- What the parser does with a frame that is long enough, by its header. -/
theorem getDataStart_announced (hLong : 19 ≤ bytes.length % 2 ^ 32) (hVersion : bytes[0]? = some 1)
    (h : Announces bytes start length) : ∃ error, ∀ checks, getDataStart checks bytes =
      if checks ∧ 2 ^ 32 ≤ start + 4 + length then panic
      else if (start + 4 + length) % 2 ^ 32 = bytes.length % 2 ^ 32 then ok start
      else err error := by
  have hIndex : ∀ {position : Nat} {byte : UInt8}, bytes[position]? = some byte →
      (index bytes position : Exec CustomError UInt8) = ok byte :=
    fun hByte => index_eq_ok.mpr hByte
  cases h with
  | @one length hByte hLess =>
      have hShort : length.toUInt32 < 253 := by
        rw [UInt32.lt_iff_toNat_lt, UInt8.toNat_toUInt32]
        exact UInt8.lt_iff_toNat_lt.mp hLess
      refine ⟨lengthError length.toUInt32 (lengthU32 bytes), fun checks => ?_⟩
      rw [getDataStart_long hLong hVersion hByte, if_pos hShort, matchLength_eq, lengthU32_toNat,
        UInt8.toNat_toUInt32]
      rfl
  | two hByte h0 h1 =>
      refine ⟨lengthError 253 (lengthU32 bytes), fun checks => ?_⟩
      rw [getDataStart_long hLong hVersion hByte, if_neg (by decide), if_pos (by decide),
        hIndex h0, ok_bind, hIndex h1, ok_bind, matchLength_eq, lengthU32_toNat,
        LittleEndian.uint32_toNat_two]
      rfl
  | four hByte h0 h1 h2 h3 =>
      refine ⟨lengthError 254 (lengthU32 bytes), fun checks => ?_⟩
      rw [getDataStart_long hLong hVersion hByte, if_neg (by decide), if_neg (by decide),
        if_pos (by decide), hIndex h0, ok_bind, hIndex h1, ok_bind, hIndex h2, ok_bind, hIndex h3,
        ok_bind, matchLength_eq, lengthU32_toNat, LittleEndian.uint32_toNat_four]
      rfl

/-- Frames that announce no length, or are too short, or of another version,
are refused. -/
theorem getDataStart_refused
    (h : ∀ start length, 19 ≤ bytes.length % 2 ^ 32 → bytes[0]? = some 1 →
      ¬Announces bytes start length) :
    ∃ error, ∀ checks, getDataStart checks bytes = err error := by
  by_cases hLong : 19 ≤ bytes.length % 2 ^ 32
  · have hLength : 19 ≤ bytes.length := hLong.trans (Nat.mod_le _ _)
    obtain ⟨version, hVersion⟩ : ∃ version, bytes[0]? = some version :=
      ⟨_, List.getElem?_eq_getElem (by omega)⟩
    by_cases hOne : version = 1
    · subst hOne
      obtain ⟨lengthByte, hByte⟩ : ∃ lengthByte, bytes[14]? = some lengthByte :=
        ⟨_, List.getElem?_eq_getElem (by omega)⟩
      have hNone := fun start length => h start length hLong hVersion
      obtain ⟨b0, h0⟩ : ∃ b0, bytes[15]? = some b0 := ⟨_, List.getElem?_eq_getElem (by omega)⟩
      obtain ⟨b1, h1⟩ : ∃ b1, bytes[16]? = some b1 := ⟨_, List.getElem?_eq_getElem (by omega)⟩
      obtain ⟨b2, h2⟩ : ∃ b2, bytes[17]? = some b2 := ⟨_, List.getElem?_eq_getElem (by omega)⟩
      obtain ⟨b3, h3⟩ : ∃ b3, bytes[18]? = some b3 := ⟨_, List.getElem?_eq_getElem (by omega)⟩
      have hShort : ¬lengthByte.toUInt32 < 253 := by
        intro hLess
        refine hNone _ _ (.one hByte ?_)
        rw [UInt32.lt_iff_toNat_lt, UInt8.toNat_toUInt32] at hLess
        exact UInt8.lt_iff_toNat_lt.mpr hLess
      have hTwo : ¬lengthByte.toUInt32 = 253 := by
        intro hEq
        obtain rfl : lengthByte = 253 := UInt8.toUInt32_inj.mp hEq
        exact hNone _ _ (.two hByte h0 h1)
      have hFour : ¬lengthByte.toUInt32 = 254 := by
        intro hEq
        obtain rfl : lengthByte = 254 := UInt8.toUInt32_inj.mp hEq
        exact hNone _ _ (.four hByte h0 h1 h2 h3)
      refine ⟨lengthError lengthByte.toUInt32 (lengthU32 bytes), fun checks => ?_⟩
      rw [getDataStart_long hLong hVersion hByte, if_neg hShort, if_neg hTwo, if_neg hFour]
    · have hEnough : ¬lengthU32 bytes < 19 := by
        rw [UInt32.lt_iff_toNat_lt, lengthU32_toNat]
        exact Nat.not_lt.mpr hLong
      have hFirst : (index bytes 0 : Exec CustomError UInt8) = ok version :=
        index_eq_ok.mpr hVersion
      have hOther : (!checkVersion version) = true := by simpa [checkVersion] using hOne
      exact ⟨_, fun checks => by rw [getDataStart, if_neg hEnough, hFirst, ok_bind, if_pos hOther]⟩
  · have hShort : lengthU32 bytes < 19 := by
      rw [UInt32.lt_iff_toNat_lt, lengthU32_toNat]
      exact Nat.not_le.mp hLong
    exact ⟨_, fun checks => by rw [getDataStart, if_pos hShort]⟩

/-- A frame is taken apart where the parser found its payload. -/
theorem UpData.new_eq_ok {eui payload mic : List UInt8} {pType port option low high : UInt8}
    (hStart : getDataStart checks bytes = ok start) (hEui : Block bytes 1 9 eui)
    (hPType : bytes[9]? = some pType) (hPort : bytes[10]? = some port)
    (hOption : bytes[11]? = some option) (hLow : bytes[12]? = some low)
    (hHigh : bytes[13]? = some high) (hPayload : Block bytes start (bytes.length - 4) payload)
    (hMic : Block bytes (bytes.length - 4) bytes.length mic) :
    UpData.new checks bytes = ok
      { eui := ⟨UInt64.ofNat (LittleEndian.value eui.reverse)⟩
        enc := true
        pType := pType
        port := port
        option := option
        count := low.toUInt16 ||| (high.toUInt16 <<< 8)
        payloadStart := start
        payload := payload
        bytes := bytes
        mic := mic } := by
  have hIndex : ∀ {position : Nat} {byte : UInt8}, bytes[position]? = some byte →
      (index bytes position : Exec CustomError UInt8) = ok byte :=
    fun hByte => index_eq_ok.mpr hByte
  have hEight : eui.length = 8 := by
    have hStop := hEui.stop_eq
    omega
  have hFrom : euiFromBeBytes eui = some ⟨UInt64.ofNat (LittleEndian.value eui.reverse)⟩ := by
    rw [euiFromBeBytes, if_neg (by omega), List.take_of_length_le (by omega)]
  rw [UpData.new, hStart, ok_bind, slice_eq_ok.mpr hEui, ok_bind, hFrom]
  simp only [hIndex hPType, hIndex hPort, hIndex hOption, hIndex hLow, hIndex hHigh,
    slice_eq_ok.mpr hPayload, slice_eq_ok.mpr hMic, ok_bind]

/-- A payload that starts before its end is found. -/
theorem UpData.new_returns (hStart : getDataStart checks bytes = ok start)
    (hLong : 19 ≤ bytes.length) (hBound : start ≤ bytes.length - 4) :
    ∃ up, UpData.new checks bytes = ok up ∧ Block bytes start (bytes.length - 4) up.payload ∧
      Block bytes (bytes.length - 4) bytes.length up.mic := by
  have hByte : ∀ position < 19, ∃ byte, bytes[position]? = some byte :=
    fun position hLess => ⟨_, List.getElem?_eq_getElem (by omega)⟩
  obtain ⟨eui, hEui⟩ : ∃ eui, Block bytes 1 9 eui := ⟨_, by omega, by omega, rfl⟩
  obtain ⟨pType, hPType⟩ := hByte 9 (by decide)
  obtain ⟨port, hPort⟩ := hByte 10 (by decide)
  obtain ⟨option, hOption⟩ := hByte 11 (by decide)
  obtain ⟨low, hLow⟩ := hByte 12 (by decide)
  obtain ⟨high, hHigh⟩ := hByte 13 (by decide)
  obtain ⟨payload, hPayload⟩ : ∃ payload, Block bytes start (bytes.length - 4) payload :=
    ⟨_, hBound, by omega, rfl⟩
  obtain ⟨mic, hMic⟩ : ∃ mic, Block bytes (bytes.length - 4) bytes.length mic :=
    ⟨_, by omega, by omega, rfl⟩
  exact ⟨_, UpData.new_eq_ok hStart hEui hPType hPort hOption hLow hHigh hPayload hMic, hPayload,
    hMic⟩

/-- The parser returns, and what it takes for payload and code is what the
header announces. -/
structure Consistent (checks : Bool) (bytes : List UInt8) : Prop where
  returns : (UpData.new checks bytes).Returns
  layout : ∀ start, getDataStart checks bytes = ok start →
    start ≤ bytes.length - 4 ∧ Announces bytes start (bytes.length - 4 - start) ∧
      ∃ up, UpData.new checks bytes = ok up ∧ Block bytes start (bytes.length - 4) up.payload ∧
        Block bytes (bytes.length - 4) bytes.length up.mic

/-- The announced length of a frame of version 1 does not reach the end of
the 32-bit integers, and does not agree with a longer frame. -/
def Fits (bytes : List UInt8) : Prop :=
  ∀ start length, 19 ≤ bytes.length % 2 ^ 32 → bytes[0]? = some 1 → Announces bytes start length →
    start + 4 + length < 2 ^ 32 ∧
      (start + 4 + length = bytes.length % 2 ^ 32 → bytes.length < 2 ^ 32)

/-- A refused frame has no layout to be inconsistent. -/
theorem consistent_of_refused {error : CustomError}
    (hRefused : getDataStart checks bytes = err error) : Consistent checks bytes := by
  have hNew : UpData.new checks bytes = err error := by
    rw [UpData.new, hRefused, err_bind]
  exact ⟨by simp [Returns, hNew], fun start hStart => by simp [hRefused] at hStart⟩

/-- The parser is consistent, with and without overflow checks, on exactly
the frames that fit. -/
theorem upData_new_consistent (bytes : List UInt8) :
    (∀ checks, Consistent checks bytes) ↔ Fits bytes := by
  constructor
  · intro h start length hLong hVersion hAnnounces
    obtain ⟨error, hResult⟩ := getDataStart_announced hLong hVersion hAnnounces
    have hBelow : ¬2 ^ 32 ≤ start + 4 + length := by
      intro hOver
      have hPanic : UpData.new true bytes = panic := by
        rw [UpData.new, hResult true, if_pos ⟨rfl, hOver⟩, panic_bind]
      exact (h true).returns.1 hPanic
    refine ⟨by omega, fun hSame => ?_⟩
    have hStart : getDataStart true bytes = ok start := by
      rw [hResult true, if_neg (fun hOver => hBelow hOver.2), if_pos]
      rw [Nat.mod_eq_of_lt (by omega), hSame]
    obtain ⟨hBound, hActual, _⟩ := (h true).layout start hStart
    have hLength := (hAnnounces.unique hActual).2
    have hMod := Nat.mod_lt bytes.length (show 0 < 2 ^ 32 by decide)
    have hLe := Nat.mod_le bytes.length (2 ^ 32)
    omega
  · intro h checks
    by_cases hNone : ∀ start length, 19 ≤ bytes.length % 2 ^ 32 → bytes[0]? = some 1 →
        ¬Announces bytes start length
    · obtain ⟨error, hRefused⟩ := getDataStart_refused hNone
      exact consistent_of_refused (hRefused checks)
    · push Not at hNone
      obtain ⟨start, length, hLong, hVersion, hAnnounces⟩ := hNone
      obtain ⟨hBelow, hShort⟩ := h start length hLong hVersion hAnnounces
      obtain ⟨error, hResult⟩ := getDataStart_announced hLong hVersion hAnnounces
      have hStart := hResult checks
      rw [if_neg (fun hOver => absurd hOver.2 (by omega)), Nat.mod_eq_of_lt hBelow] at hStart
      by_cases hSame : start + 4 + length = bytes.length % 2 ^ 32
      · have hLength := hShort hSame
        rw [Nat.mod_eq_of_lt hLength] at hSame hLong
        rw [Nat.mod_eq_of_lt hLength, if_pos hSame] at hStart
        obtain ⟨up, hNew, hPayload, hMic⟩ :=
          UpData.new_returns hStart (by omega) (by omega)
        refine ⟨by simp [Returns, hNew], fun other hOther => ?_⟩
        obtain rfl : start = other := by simpa [hStart] using hOther
        refine ⟨by omega, ?_, _, hNew, hPayload, hMic⟩
        rwa [show bytes.length - 4 - start = length by omega]
      · rw [if_neg hSame] at hStart
        exact consistent_of_refused hStart

/-- A frame of 19 bytes that announces `2 ^ 32 - 4`: the sum with the size of
the header comes to 19 again. -/
def wrappingFrame : List UInt8 :=
  [1, 0, 0, 0, 0, 0, 0, 0, 0, 0, 0, 0, 0, 0, 254, 252, 255, 255, 255]

theorem upData_new_aborts : ¬ ∀ bytes checks, Consistent checks bytes := by
  intro h
  exact (h wrappingFrame false).returns.1 (by decide)

end SnapEmu.Snap
