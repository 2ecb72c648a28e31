import SnapEmu.Snap.Cipher

/-! What a receiver makes of the frames to a device: whether it can take them
apart, and whether both sides use one keystream. -/
namespace SnapEmu.Snap

open Device Semantics Exec

namespace DownloadData

variable {crypto : Crypto} {key : Key} {down : DownloadData} {payload : List UInt8}
  {direction : UInt8} {checks : Bool} {bytes : List UInt8}

/-- A frame, as the parser reads it, carries the data and the payload: the
header in clear, the payload enciphered as a whole, and the code. -/
structure ReadBack (checks : Bool) (crypto : Crypto) (key : Key) (down : DownloadData)
    (payload bytes : List UInt8) (up : UpData) : Prop where
  parsed : UpData.new checks bytes = ok up
  start : getDataStart checks bytes = ok up.payloadStart
  eui : up.eui = down.eui
  port : up.port = down.port
  option : up.option = down.option
  count : up.count = down.count
  header : Block bytes 0 14 down.header
  announced : Announces bytes up.payloadStart payload.length
  region : Block bytes up.payloadStart (bytes.length - 4) (encode crypto down payload key 0)
  payload : up.payload = encode crypto down payload key 0
  tag : Block bytes (bytes.length - 4) bytes.length up.mic
  mic : mic crypto (bytes.take (bytes.length - 4)) key 0 = ok up.mic

/-- Every accepted payload is read back from the text of its frame. -/
def Framed (checks : Bool) (crypto : Crypto) (key : Key) (down : DownloadData)
    (payload : List UInt8) : Prop :=
  ∀ text, encodePayload crypto down payload key = ok text →
    ∃ bytes up, Base64.decode text = some bytes ∧ ReadBack checks crypto key down payload bytes up

/-- A framed payload is encoded in Base64. -/
theorem encodePayload_eq (h : frame crypto down payload key 0 = ok bytes) :
    encodePayload crypto down payload key = ok (Base64.encode bytes) := by
  rw [encodePayload, h, ok_bind]

/-- A short frame is read back. -/
theorem readBack_short (checks : Bool) (hShort : payload.length < 253)
    (h : ShortParts crypto down payload key 0 bytes) :
    ∃ up, ReadBack checks crypto key down payload bytes up := by
  have hByte : (UInt8.ofNat payload.length).toNat = payload.length :=
    UInt8.toNat_ofNat_of_lt' (Nat.lt_trans hShort (by decide))
  have hAnnounces : Announces bytes 15 (UInt8.ofNat payload.length).toNat :=
    .one h.lengthByte (by rw [UInt8.lt_iff_toNat_lt, hByte]; exact hShort)
  rw [hByte] at hAnnounces
  have hBody : bytes.take (bytes.length - 4) = body crypto down payload key 0 := by
    have hFront := h.front.2.2
    rwa [List.drop_zero, Nat.sub_zero] at hFront
  have hMic : mic crypto (body crypto down payload key 0) key 0 =
      ok (code crypto down key 0 (body crypto down payload key 0)) :=
    mic_eq (headerOf_append down _)
  refine ⟨_, new_short checks hShort h, getDataStart_short checks hShort h, rfl, rfl, rfl, rfl,
    h.header, hAnnounces, h.region, rfl, h.tag, ?_⟩
  rw [hBody, hMic]

/-- A payload of 253 or 254 bytes is accepted. -/
theorem frame_long_accepted (hLong : 253 ≤ payload.length) (hBound : payload.length ≤ 254) :
    ∃ bytes, frame crypto down payload key direction = ok bytes := by
  rw [frame, if_neg (by omega)]
  split_ifs with hTwo hFour
  · exact ⟨_, frameWith_eq (by decide) (by omega)⟩
  · exact ⟨_, frameWith_eq (by decide) (by omega)⟩
  · omega

/-- From 253 bytes on the frame is not read back. -/
theorem not_framed_long (hLong : 253 ≤ payload.length) (hBound : payload.length ≤ 254) :
    ¬Framed checks crypto key down payload := by
  intro h
  obtain ⟨bytes, hFrame⟩ : ∃ bytes, frame crypto down payload key 0 = ok bytes :=
    frame_long_accepted hLong hBound
  obtain ⟨error, hRefused⟩ := getDataStart_long_refused checks hLong hFrame
  obtain ⟨other, up, hDecode, hRead⟩ := h _ (encodePayload_eq hFrame)
  rw [Base64.decode_encode, Option.some.injEq] at hDecode
  subst hDecode
  have hStart := hRead.start
  rw [hRefused] at hStart
  cases hStart

/-- Frames are read back unless the payload has 253 or 254 bytes. -/
theorem encodePayload_framed_iff (checks : Bool) (crypto : Crypto) (key : Key) (down : DownloadData)
    (payload : List UInt8) :
    Framed checks crypto key down payload ↔ payload.length < 253 ∨ 254 < payload.length := by
  constructor
  · intro h
    by_contra hNot
    exact not_framed_long (by omega) (by omega) h
  · intro h text hText
    rcases h with hShort | hLong
    · rw [encodePayload_eq (frame_short hShort), ok.injEq] at hText
      subst hText
      obtain ⟨up, hRead⟩ := readBack_short checks hShort (shortParts rfl)
      exact ⟨_, up, Base64.decode_encode _, hRead⟩
    · rw [encodePayload, frame, if_neg (by omega), if_neg (by omega), if_neg (by omega),
        err_bind] at hText
      cases hText

/-- The device of the test of the source. -/
def sampleDown : DownloadData := { eui := ⟨0x2222222222222212⟩, port := 0, option := 0, count := 0 }

theorem encodePayload_unframed :
    ¬∀ checks crypto key down payload, Framed checks crypto key down payload := by
  intro h
  have hLength : (List.replicate 253 (0 : UInt8)).length = 253 := List.length_replicate
  exact not_framed_long (by rw [hLength]) (by rw [hLength]; decide)
    (h false ⟨fun _ _ _ => 0, fun _ _ => Vector.replicate 16 0⟩ default sampleDown
      (List.replicate 253 0))

/-- A receiver of frames of a direction accepts the code and obtains the payload. -/
def Recovers (checks : Bool) (crypto : Crypto) (key : Key) (payload bytes : List UInt8)
    (direction : UInt8) : Prop :=
  ∃ up, UpData.new checks bytes = ok up ∧ up.checkMicWith crypto key direction = ok true ∧
    up.decodePayloadWith crypto key direction = ok payload

/-- Both sides agree, on the frames to a device and on those in the direction
of frames from one. -/
structure Agrees (checks : Bool) (crypto : Crypto) (key : Key) (down : DownloadData)
    (payload : List UInt8) : Prop where
  toDevice : ∃ text bytes, encodePayload crypto down payload key = ok text ∧
    Base64.decode text = some bytes ∧ Recovers checks crypto key payload bytes 0
  fromDevice : ∃ bytes, frame crypto down payload key 1 = ok bytes ∧
    Recovers checks crypto key payload bytes 1

/-- The block of the sender. -/
def senderBlock (down : DownloadData) (length : Nat) (direction : UInt8) : List UInt8 :=
  counterBlock (euiToBytes down.eui) down.countBytes length direction

/-- The block of the receiver, from the bytes of the frame. -/
def receiverBlock (down : DownloadData) (length : Nat) (direction : UInt8) : List UInt8 :=
  counterBlock (euiToBeBytes down.eui) down.countBytes length direction

/-- Both blocks give one keystream, as far as the payload reaches. -/
def SameKeystream (crypto : Crypto) (key : Key) (down : DownloadData) (length : Nat)
    (direction : UInt8) : Prop :=
  ∀ i < length, crypto.keystream key (down.senderBlock length direction) i =
    crypto.keystream key (down.receiverBlock length direction) i

/-- A short payload is recovered exactly when both sides use the same keystream. -/
theorem recovers_short_iff (checks : Bool) (hShort : payload.length < 253)
    (h : ShortParts crypto down payload key direction bytes) :
    Recovers checks crypto key payload bytes direction ↔
      SameKeystream crypto key down payload.length direction := by
  have hHeader := headerOf h.header
  obtain ⟨up, hNew, hBytes, hPayload, hTag⟩ : ∃ up, UpData.new checks bytes = ok up ∧
      up.bytes = bytes ∧ up.payload = encode crypto down payload key direction ∧
      up.mic = code crypto down key direction (body crypto down payload key direction) :=
    ⟨_, new_short checks hShort h, rfl, rfl, rfl⟩
  have hLength : (body crypto down payload key direction).length = bytes.length - 4 := by
    have hStop := h.front.stop_eq
    omega
  have hMic : up.checkMicWith crypto key direction = ok true := by
    rw [UpData.checkMicWith, hBytes, slice_eq_ok.mpr hHeader.eui, ok_bind,
      slice_eq_ok.mpr hHeader.count, ok_bind, slice_eq_ok.mpr h.front, ok_bind, hTag, code, hLength]
    exact congrArg ok (decide_eq_true rfl)
  have hDecode : up.decodePayloadWith crypto key direction =
      ok (crypto.applyKeystream key (down.receiverBlock payload.length direction)
        (crypto.applyKeystream key (down.senderBlock payload.length direction) payload)) := by
    rw [UpData.decodePayloadWith, hMic, ok_bind, if_pos rfl, hBytes, slice_eq_ok.mpr hHeader.eui,
      ok_bind, slice_eq_ok.mpr hHeader.count, ok_bind, hPayload, encode_length]
    rfl
  rw [SameKeystream, ← applyKeystream_twice]
  constructor
  · intro hRecovers
    obtain ⟨other, hOther, _, hResult⟩ := hRecovers
    rw [hNew, ok.injEq] at hOther
    subst hOther
    rwa [hDecode, ok.injEq] at hResult
  · intro hSame
    exact ⟨up, hNew, hMic, by rw [hDecode, hSame]⟩

/-- Under a cipher, the two sides agree if and only if the blocks of both
directions give one keystream. -/
theorem agrees_iff (checks : Bool) (hShort : payload.length < 253) :
    Agrees checks crypto key down payload ↔
      SameKeystream crypto key down payload.length 0 ∧
        SameKeystream crypto key down payload.length 1 := by
  have hFrame : ∀ direction, frame crypto down payload key direction =
      ok (shortFrame crypto down payload key direction) := fun _ => frame_short hShort
  have hRecovers : ∀ direction, Recovers checks crypto key payload
      (shortFrame crypto down payload key direction) direction ↔
        SameKeystream crypto key down payload.length direction :=
    fun _ => recovers_short_iff checks hShort (shortParts rfl)
  constructor
  · intro hAgrees
    obtain ⟨⟨text, bytes, hText, hBytes, hDown⟩, ⟨bytes', hFrame', hUp⟩⟩ := hAgrees
    rw [encodePayload_eq (hFrame 0), ok.injEq] at hText
    subst hText
    rw [Base64.decode_encode, Option.some.injEq] at hBytes
    rw [hFrame 1, ok.injEq] at hFrame'
    subst hBytes hFrame'
    exact ⟨(hRecovers 0).mp hDown, (hRecovers 1).mp hUp⟩
  · intro hSame
    obtain ⟨hDown, hUp⟩ := hSame
    exact ⟨⟨_, _, encodePayload_eq (hFrame 0), Base64.decode_encode _, (hRecovers 0).mpr hDown⟩,
      ⟨_, hFrame 1, (hRecovers 1).mpr hUp⟩⟩

/-- The keystreams agree exactly when the identifier reads the same in both orders. -/
theorem senderBlock_eq_iff {length : Nat} :
    down.senderBlock length direction = down.receiverBlock length direction ↔
      euiToBytes down.eui = euiToBeBytes down.eui := by
  unfold senderBlock receiverBlock counterBlock
  simp only [List.append_left_inj]

/-- A cipher whose keystream is one only after one block. -/
def marking (block : List UInt8) : Crypto where
  keystream := fun _ iv _ => if iv = block then 1 else 0
  cmac := fun _ _ => Vector.replicate 16 0

/-- The two sides agree under every cipher exactly if the EUI reads the same
in both byte orders, or there is nothing to encipher. -/
theorem cipher_agrees_iff (checks : Bool) (key : Key) (down : DownloadData) (payload : List UInt8)
    (hShort : payload.length < 253) :
    (∀ crypto, Agrees checks crypto key down payload) ↔
      euiToBytes down.eui = euiToBeBytes down.eui ∨ payload = [] := by
  constructor
  · intro h
    by_cases hEmpty : payload = []
    · exact .inr hEmpty
    · refine .inl ?_
      have hSame := ((agrees_iff checks hShort).mp
        (h (marking (down.senderBlock payload.length 0)))).1 0 (List.length_pos_iff.mpr hEmpty)
      by_contra hOrder
      have hBlock : down.receiverBlock payload.length 0 ≠ down.senderBlock payload.length 0 :=
        fun hEq => hOrder (senderBlock_eq_iff.mp hEq.symm)
      simp [marking, hBlock] at hSame
  · intro h crypto
    apply (agrees_iff checks hShort).mpr
    rcases h with hOrder | hEmpty
    · have hBlock : ∀ direction, down.senderBlock payload.length direction =
          down.receiverBlock payload.length direction := fun _ => senderBlock_eq_iff.mpr hOrder
      exact ⟨fun _ _ => by rw [hBlock], fun _ _ => by rw [hBlock]⟩
    · subst hEmpty
      exact ⟨fun i hLess => absurd hLess (Nat.not_lt_zero i),
        fun i hLess => absurd hLess (Nat.not_lt_zero i)⟩

theorem cipher_agrees_iff_sample :
    (∀ crypto, Agrees false crypto default sampleDown [0x31]) ↔
      euiToBytes sampleDown.eui = euiToBeBytes sampleDown.eui ∨ [(0x31 : UInt8)] = [] :=
  cipher_agrees_iff false default sampleDown [0x31] (by decide)

theorem cipher_disagrees : ¬∀ checks crypto key down payload, payload.length < 253 →
    Agrees checks crypto key down payload := by
  intro h
  have hSame := (agrees_iff false (by decide)).mp
    (h false (marking (sampleDown.senderBlock 1 0)) default sampleDown [0x31] (by decide))
  exact absurd (hSame.1 0 (by decide)) (by decide)

end DownloadData
end SnapEmu.Snap
