import SnapEmu.Snap.Layout

/-! Frames to a device as the parser of frames reads them, and the cipher of
both directions. -/
namespace SnapEmu.Snap

open Device Semantics Exec

variable {crypto : Crypto} {key : Key} {down : DownloadData} {payload : List UInt8}
  {direction : UInt8}

@[simp] theorem applyKeystream_length (crypto : Crypto) (key : Key) (iv payload : List UInt8) :
    (crypto.applyKeystream key iv payload).length = payload.length := by
  simp [Crypto.applyKeystream]

/-- Two keystreams cancel exactly if they agree on the payload. -/
theorem applyKeystream_twice (iv iv' : List UInt8) :
    crypto.applyKeystream key iv' (crypto.applyKeystream key iv payload) = payload ↔
      ∀ i < payload.length, crypto.keystream key iv i = crypto.keystream key iv' i := by
  have hByte : ∀ (byte : UInt8) (i : Nat),
      byte ^^^ crypto.keystream key iv i ^^^ crypto.keystream key iv' i = byte ↔
        crypto.keystream key iv i = crypto.keystream key iv' i := by
    intro byte i
    calc byte ^^^ crypto.keystream key iv i ^^^ crypto.keystream key iv' i = byte
        ↔ byte ^^^ (crypto.keystream key iv i ^^^ crypto.keystream key iv' i) = byte ^^^ 0 := by
          rw [UInt8.xor_assoc, UInt8.xor_zero]
      _ ↔ crypto.keystream key iv i ^^^ crypto.keystream key iv' i = 0 := UInt8.xor_right_inj byte
      _ ↔ crypto.keystream key iv i = crypto.keystream key iv' i := UInt8.xor_eq_zero_iff
  unfold Crypto.applyKeystream
  rw [List.mapIdx_mapIdx, List.mapIdx_eq_iff]
  constructor
  · intro h i hLess
    have hSame := h i
    rw [List.getElem?_eq_getElem hLess, Option.map_some, Option.some.injEq, eq_comm] at hSame
    exact (hByte _ i).mp hSame
  · intro h i
    by_cases hLess : i < payload.length
    · rw [List.getElem?_eq_getElem hLess, Option.map_some, Option.some.injEq, eq_comm]
      exact (hByte _ i).mpr (h i hLess)
    · rw [List.getElem?_eq_none (Nat.not_lt.mp hLess), Option.map_none]

@[simp] theorem euiToBytes_length (eui : Eui) : (euiToBytes eui).length = 8 := by simp [euiToBytes]

@[simp] theorem euiToBeBytes_length (eui : Eui) : (euiToBeBytes eui).length = 8 := by
  simp [euiToBeBytes]

/-- The parser reads an EUI back. -/
theorem euiFromBeBytes_value (eui : Eui) :
    (⟨UInt64.ofNat (LittleEndian.value (euiToBeBytes eui).reverse)⟩ : Eui) = eui := by
  have hRange : eui.value.toNat < 256 ^ 8 := eui.value.toNat_lt
  rw [euiToBeBytes, List.reverse_reverse, euiToBytes, LittleEndian.value_encode hRange,
    UInt64.ofNat_toNat]

namespace DownloadData

/-- The counter is written in the order in which it is read. -/
theorem countBytes_eq (down : DownloadData) : ∃ low high, down.countBytes = [low, high] ∧
    low.toUInt16 ||| (high.toUInt16 <<< 8) = down.count := by
  refine ⟨UInt8.ofNat down.count.toNat, UInt8.ofNat (down.count.toNat / 256), rfl, ?_⟩
  have hRange : down.count.toNat < 256 ^ 2 := down.count.toNat_lt
  apply UInt16.toNat_inj.mp
  rw [LittleEndian.uint16_toNat]
  exact LittleEndian.value_encode hRange

@[simp] theorem header_length (down : DownloadData) : down.header.length = 14 := by
  simp [header, countBytes]

/-- The fields of a frame that starts with a header. -/
structure HeaderOf (down : DownloadData) (bytes : List UInt8) : Prop where
  version : bytes[0]? = some 1
  eui : Block bytes 1 9 (euiToBeBytes down.eui)
  pType : bytes[9]? = some 1
  port : bytes[10]? = some down.port
  option : bytes[11]? = some down.option
  count : Block bytes 12 14 down.countBytes

/-- A frame that begins with the header can be read as one. -/
theorem headerOf {bytes : List UInt8} (h : Block bytes 0 14 down.header) : HeaderOf down bytes := by
  rw [header, List.append_assoc, List.append_assoc] at h
  obtain ⟨hVersion, h⟩ := Block.append.mp h
  obtain ⟨hEui, h⟩ := Block.append.mp h
  obtain ⟨hMiddle, hCount⟩ := Block.append.mp h
  simp only [Block.cons, euiToBeBytes_length, List.length_cons, List.length_nil, Nat.zero_add,
    Nat.reduceAdd] at hVersion hEui hMiddle hCount
  obtain ⟨hPType, hPort, hOption, _⟩ := hMiddle
  exact ⟨hVersion.1, hEui, hPType, hPort, hOption, hCount⟩

/-- The code of a frame that starts with a header. -/
theorem mic_eq {bytes : List UInt8} (h : HeaderOf down bytes) :
    mic crypto bytes key direction =
      ok ((crypto.cmac key
        (micBlock (euiToBeBytes down.eui) down.countBytes bytes.length direction ++
          bytes)).toList.take 4) := by
  rw [mic, slice_eq_ok.mpr h.eui, ok_bind, slice_eq_ok.mpr h.count, ok_bind]

/-- The code over some bytes. -/
def code (crypto : Crypto) (down : DownloadData) (key : Key) (direction : UInt8)
    (bytes : List UInt8) : List UInt8 :=
  (crypto.cmac key (micBlock (euiToBeBytes down.eui) down.countBytes bytes.length direction ++
    bytes)).toList.take 4

@[simp] theorem code_length (crypto : Crypto) (down : DownloadData) (key : Key) (direction : UInt8)
    (bytes : List UInt8) : (code crypto down key direction bytes).length = 4 := by
  simp [code]

@[simp] theorem encode_length (crypto : Crypto) (down : DownloadData) (payload : List UInt8)
    (key : Key) (direction : UInt8) :
    (encode crypto down payload key direction).length = payload.length := by
  simp [encode]

/-- A short frame up to its code. -/
def body (crypto : Crypto) (down : DownloadData) (payload : List UInt8) (key : Key)
    (direction : UInt8) : List UInt8 :=
  down.header ++ ([UInt8.ofNat payload.length] ++ encode crypto down payload key direction)

/-- What every frame consists of, up to the code: the bytes before the
enciphered region, and that region. -/
theorem frameWith_eq {size width : Nat} (hHeader : 14 ≤ size - 4)
    (hSize : size - 4 ≤ 14 + width + payload.length) :
    let buf := down.header ++ LittleEndian.encode width payload.length ++ payload
    let bytes := buf.take (size - 4) ++ encode crypto down (buf.drop (size - 4)) key direction
    frameWith crypto down payload key direction size width =
      ok (bytes ++ code crypto down key direction bytes) := by
  intro buf bytes
  have hLength : buf.length = 14 + width + payload.length := by simp [buf]; omega
  have hRegion : Block buf (size - 4) buf.length (buf.drop (size - 4)) :=
    Block.suffix.mpr ⟨by omega, rfl⟩
  have hBytes : HeaderOf down bytes := by
    apply headerOf
    refine ⟨by omega, by simp [bytes]; omega, ?_⟩
    rw [List.drop_zero, List.take_append_of_le_length (by simp; omega), List.take_take,
      Nat.min_eq_left (by omega)]
    simp [buf]
  have hMic : mic crypto bytes key direction = ok (code crypto down key direction bytes) :=
    mic_eq hBytes
  rw [frameWith, slice_eq_ok.mpr hRegion, ok_bind]
  change (mic crypto bytes key direction >>= fun mic => ok (bytes ++ mic)) = _
  rw [hMic, ok_bind]

/-- A short payload is framed with one length byte. -/
theorem frame_short (hShort : payload.length < 253) :
    frame crypto down payload key direction =
      ok (body crypto down payload key direction ++
        code crypto down key direction (body crypto down payload key direction)) := by
  have hSplit : down.header ++ LittleEndian.encode 1 payload.length ++ payload =
      (down.header ++ [UInt8.ofNat payload.length]) ++ payload := rfl
  have hFifteen : (down.header ++ [UInt8.ofNat payload.length]).length = 19 - 4 := by simp
  rw [frame, if_pos hShort, frameWith_eq (by decide) (by omega), hSplit,
    List.take_left' hFifteen, List.drop_left' hFifteen, List.append_assoc]
  rfl

/-- The frame of a short payload. -/
def shortFrame (crypto : Crypto) (down : DownloadData) (payload : List UInt8) (key : Key)
    (direction : UInt8) : List UInt8 :=
  body crypto down payload key direction ++
    code crypto down key direction (body crypto down payload key direction)

/-- The parts of a short frame, in their places. -/
structure ShortParts (crypto : Crypto) (down : DownloadData) (payload : List UInt8) (key : Key)
    (direction : UInt8) (bytes : List UInt8) : Prop where
  length : bytes.length = payload.length + 19
  header : Block bytes 0 14 down.header
  lengthByte : bytes[14]? = some (UInt8.ofNat payload.length)
  region : Block bytes 15 (bytes.length - 4) (encode crypto down payload key direction)
  front : Block bytes 0 (bytes.length - 4) (body crypto down payload key direction)
  tag : Block bytes (bytes.length - 4) bytes.length
    (code crypto down key direction (body crypto down payload key direction))

/-- The parts of a short frame, by position. -/
theorem shortParts {bytes : List UInt8}
    (h : bytes = shortFrame crypto down payload key direction) :
    ShortParts crypto down payload key direction bytes := by
  have hFront : (body crypto down payload key direction).length = payload.length + 15 := by
    simp only [body, List.length_append, header_length, List.length_cons, List.length_nil,
      encode_length]
    omega
  have hLength : bytes.length = payload.length + 19 := by
    rw [h, shortFrame, List.length_append, hFront, code_length]
  obtain ⟨hBody, hCode⟩ := Block.append.mp (Block.whole.mpr h)
  rw [show 0 + (body crypto down payload key direction).length = bytes.length - 4 by omega]
    at hBody hCode
  obtain ⟨hHeader, hRest⟩ := Block.append.mp hBody
  obtain ⟨hLengthByte, hRegion⟩ := Block.append.mp hRest
  rw [Block.singleton] at hLengthByte
  simp only [header_length, Nat.zero_add, List.length_singleton, Nat.reduceAdd]
    at hHeader hLengthByte hRegion
  exact ⟨hLength, hHeader, hLengthByte.2, hRegion, hBody, hCode⟩

/-- The payload of a short frame begins behind its header and length. -/
theorem getDataStart_short (checks : Bool) {bytes : List UInt8} (hShort : payload.length < 253)
    (h : ShortParts crypto down payload key direction bytes) :
    getDataStart checks bytes = ok 15 := by
  have hHeader := headerOf h.header
  have hLength := h.length
  have hByte : (UInt8.ofNat payload.length).toNat = payload.length :=
    UInt8.toNat_ofNat_of_lt' (Nat.lt_trans hShort (by decide))
  have hAnnounces : Announces bytes 15 (UInt8.ofNat payload.length).toNat :=
    .one h.lengthByte (by rw [UInt8.lt_iff_toNat_lt, hByte]; exact hShort)
  have hMod : bytes.length % 2 ^ 32 = bytes.length := Nat.mod_eq_of_lt (by omega)
  obtain ⟨error, hStart⟩ := getDataStart_announced (by omega) hHeader.version hAnnounces
  rw [hStart checks, hByte, if_neg (by omega), if_pos (by omega)]

/-- A short frame as the parser reads it. -/
theorem new_short (checks : Bool) {bytes : List UInt8} (hShort : payload.length < 253)
    (h : ShortParts crypto down payload key direction bytes) :
    UpData.new checks bytes = ok
      { eui := down.eui
        enc := true
        pType := 1
        port := down.port
        option := down.option
        count := down.count
        payloadStart := 15
        payload := encode crypto down payload key direction
        bytes := bytes
        mic := code crypto down key direction (body crypto down payload key direction) } := by
  have hHeader := headerOf h.header
  obtain ⟨low, high, hCount, hValue⟩ := countBytes_eq down
  have hBytes := hHeader.count
  rw [hCount, Block.cons, Block.singleton] at hBytes
  rw [UpData.new_eq_ok (getDataStart_short checks hShort h) hHeader.eui hHeader.pType hHeader.port
    hHeader.option hBytes.1 hBytes.2.2 h.region h.tag, euiFromBeBytes_value, hValue]

/-- A long frame up to the first enciphered byte: the length is one byte short
of its place, so a byte of the payload stands there in clear. -/
theorem frameWith_long {first : UInt8} {rest length : List UInt8} (size width : Nat)
    (hLength : LittleEndian.encode width (first :: rest).length = length)
    (hSize : size - 4 = 14 + (length.length + 1)) :
    ∃ tail, frameWith crypto down (first :: rest) key direction size width =
        ok (down.header ++ (length ++ first :: tail)) ∧ tail.length = rest.length + 4 := by
  have hWidth : length.length = width := by rw [← hLength, LittleEndian.encode_length]
  have hSplit : down.header ++ LittleEndian.encode width (first :: rest).length ++ first :: rest =
      (down.header ++ (length ++ [first])) ++ rest := by
    rw [hLength, List.append_assoc, List.append_assoc, List.append_assoc]
    rfl
  have hFront : (down.header ++ (length ++ [first])).length = size - 4 := by
    simp only [List.length_append, header_length, List.length_singleton]
    omega
  rw [frameWith_eq (by omega) (by rw [List.length_cons]; omega), hSplit, List.take_left' hFront,
    List.drop_left' hFront]
  refine ⟨encode crypto down rest key direction ++ code crypto down key direction
    (down.header ++ (length ++ [first]) ++ encode crypto down rest key direction), ?_, by simp⟩
  simp only [List.append_assoc, List.nil_append, List.cons_append]

/-- Whatever follows, the header is read. -/
theorem headerOf_append (down : DownloadData) (tail : List UInt8) :
    HeaderOf down (down.header ++ tail) := by
  apply headerOf
  refine ⟨by decide, by simp, ?_⟩
  rw [List.drop_zero]
  exact List.take_left' down.header_length

/-- The parser refuses long frames. -/
theorem getDataStart_long_refused (checks : Bool) {bytes : List UInt8}
    (hLong : 253 ≤ payload.length)
    (hFrame : frame crypto down payload key direction = ok bytes) :
    ∃ error, getDataStart checks bytes = err error := by
  obtain ⟨first, rest, rfl⟩ := List.exists_cons_of_length_pos (show 0 < payload.length by omega)
  have hFirst := first.toNat_lt
  have hAt : ∀ (tail : List UInt8) (i : Nat), (down.header ++ tail)[14 + i]? = tail[i]? := by
    intro tail i
    rw [List.getElem?_append_right (by rw [header_length]; omega), header_length,
      Nat.add_sub_cancel_left]
  rw [frame, if_neg (by omega)] at hFrame
  split_ifs at hFrame with hTwo hFour
  · have hLength : LittleEndian.encode 2 (first :: rest).length = [253, 0] := by rw [hTwo]; rfl
    obtain ⟨tail, hBytes, hTail⟩ := frameWith_long 21 2 hLength rfl
    rw [hBytes, ok.injEq] at hFrame
    subst hFrame
    have hTotal : (down.header ++ ([253, 0] ++ first :: tail)).length = 273 := by
      simp only [List.length_cons] at hTwo
      simp [hTail]
      omega
    obtain ⟨error, hStart⟩ := getDataStart_announced (by rw [hTotal]; decide)
      (headerOf_append down _).version
      (.two (hAt _ 0) (hAt _ 1) (hAt _ 2))
    refine ⟨error, ?_⟩
    rw [hStart checks, hTotal, LittleEndian.value_cons, LittleEndian.value_cons,
      LittleEndian.value_nil, show (0 : UInt8).toNat = 0 by rfl, if_neg (by omega),
      if_neg (by omega)]
  · have hLength : LittleEndian.encode 4 (first :: rest).length = [254, 0, 0, 0] := by
      rw [hFour]; rfl
    obtain ⟨tail, hBytes, hTail⟩ := frameWith_long 23 4 hLength rfl
    rw [hBytes, ok.injEq] at hFrame
    subst hFrame
    have hTotal : (down.header ++ ([254, 0, 0, 0] ++ first :: tail)).length = 276 := by
      simp only [List.length_cons] at hFour
      simp [hTail]
      omega
    obtain ⟨error, hStart⟩ := getDataStart_announced (by rw [hTotal]; decide)
      (headerOf_append down _).version
      (.four (hAt _ 0) (hAt _ 1) (hAt _ 2) (hAt _ 3) (hAt _ 4))
    refine ⟨error, ?_⟩
    simp only [LittleEndian.value_cons, LittleEndian.value_nil, show (0 : UInt8).toNat = 0 by rfl]
      at hStart
    rw [hStart checks, hTotal, if_neg (by omega), if_neg (by omega)]

end DownloadData
end SnapEmu.Snap
