import SnapEmu.Command.Builder
import SnapEmu.Semantics.ByteBits
import SnapEmu.Semantics.RecordEdit
import SnapEmu.Semantics.Run

/-! The command that sets several pins: a mask of the pins that were set and
the last value of each. -/
namespace SnapEmu.Command.UpdateIoBuilder

open Semantics Semantics.Exec ByteBits

variable {data : Vector UInt8 6} {pin other : UInt8} {value : Bool}
  {calls : List ((_ : UInt8) × Bool)}

/-- A bit set in one byte and given in another. -/
def putPair (data : Vector UInt8 6) (mask word : Fin 6) (position : UInt8) (value : Bool) :
    Vector UInt8 6 :=
  (data.set mask (put data[mask] position true)).set word (put data[word] position value)

/-- A pin below 8 is kept in the low byte of the mask and of the word. -/
theorem setMutil_low (data : Vector UInt8 6) (value : Bool) (hPin : pin < 8) :
    setMutil data pin value = putPair data 3 5 pin value := by
  rw [setMutil, if_pos hPin]
  cases value <;> simp [putPair, put]

/-- A pin from 8 on is kept in the high byte. -/
theorem setMutil_high (data : Vector UInt8 6) (value : Bool) (hPin : ¬pin < 8) :
    setMutil data pin value = putPair data 2 4 (pin - 8) value := by
  rw [setMutil, if_neg hPin]
  cases value <;> simp [putPair, put]

/-- Setting a pin changes one bit of the mask and one of the word. -/
theorem getElem_putPair (data : Vector UInt8 6) {mask word : Fin 6} (position : UInt8)
    (value : Bool) (i : Nat) (hi : i < 6) :
    (putPair data mask word position value)[i] =
      if i = word then put data[i] position value
      else if i = mask then put data[i] position true else data[i] := by
  rw [putPair, Vector.getElem_set, Vector.getElem_set]
  grind

/-- A byte of the upper half holds the pins from 8 on. -/
theorem upper_pin (hPin : pin < 16) (hHigh : ¬pin < 8) :
    pin - 8 < 8 ∧ (pin - 8).toNat = pin.toNat - 8 := by
  have hLe : (8 : UInt8) ≤ pin := UInt8.not_lt.mp hHigh
  have hNat : (pin - 8).toNat = pin.toNat - 8 := UInt8.toNat_sub_of_le pin 8 hLe
  have hBound : pin.toNat < 16 := UInt8.lt_iff_toNat_lt.mp hPin
  refine ⟨UInt8.lt_iff_toNat_lt.mpr ?_, hNat⟩
  rw [hNat]
  show pin.toNat - 8 < 8
  omega

/-- One call gives the bits of its pin and leaves those of the others. -/
theorem pinBits_setMutil (data : Vector UInt8 6) (value : Bool) (hPin : pin < 16)
    (other : UInt8) :
    pinBits (setMutil data pin value) other =
      if pin = other then (true, value) else pinBits data other := by
  have hNat : pin = other ↔ pin.toNat = other.toNat := UInt8.toNat_inj.symm
  have hLt : pin < 8 ↔ pin.toNat < 8 := UInt8.lt_iff_toNat_lt
  simp only [hNat]
  by_cases hLow : pin < 8
  · rw [setMutil_low data value hLow]
    rw [hLt] at hLow
    simp only [pinBits, testBit_value_pair, getElem_putPair]
    by_cases hOther : other.toNat < 8
    · simp [hOther, testBit_put _ _ (hLt.mpr hLow)]
      grind
    · have hNe : pin.toNat ≠ other.toNat := by omega
      simp [hOther, hNe]
  · obtain ⟨hUpper, hUpperNat⟩ := upper_pin hPin hLow
    rw [setMutil_high data value hLow]
    rw [hLt] at hLow
    simp only [pinBits, testBit_value_pair, getElem_putPair]
    by_cases hOther : other.toNat < 8
    · have hNe : pin.toNat ≠ other.toNat := by omega
      simp [hOther, hNe]
    · have hShift : pin.toNat - 8 = other.toNat - 8 ↔ pin.toNat = other.toNat := by omega
      simp [hOther, testBit_put _ _ hUpper, hUpperNat, hShift]
      grind

/-- After any settings each pin has its last value, or what stood there before. -/
theorem pinBits_foldl (data : Vector UInt8 6) (hPins : ∀ call ∈ calls, call.1 < 16)
    (pin : UInt8) :
    pinBits (calls.foldl (fun data call => setMutil data call.1 call.2) data) pin =
      ((lastChange calls pin).map fun value => (true, value)).getD (pinBits data pin) := by
  refine read_foldl pinBits (fun _ value => (true, value)) ?_ ?_ data pin
  · intro data call hCall
    rw [pinBits_setMutil data call.2 (hPins call hCall), if_pos rfl]
  · intro data call hCall other hOther
    rw [pinBits_setMutil data call.2 (hPins call hCall), if_neg (Ne.symm hOther)]

/-- The command and the mode stay in front. -/
theorem head_setMutil (data : Vector UInt8 6) (pin : UInt8) (value : Bool) :
    ((setMutil data pin value)[0], (setMutil data pin value)[1]) = (data[0], data[1]) := by
  by_cases hPin : pin < 8
  · simp [setMutil_low data value hPin, getElem_putPair]
  · simp [setMutil_high data value hPin, getElem_putPair]

/-- Two bits of one pair of bytes. -/
theorem putPair_comm (data : Vector UInt8 6) {mask word : Fin 6} (value otherValue : Bool)
    (hPin : pin < 8) (hOther : other < 8) (hNe : pin ≠ other) :
    putPair (putPair data mask word pin value) mask word other otherValue =
      putPair (putPair data mask word other otherValue) mask word pin value := by
  refine Vector.ext fun i hi => ?_
  simp only [getElem_putPair]
  split_ifs
  · exact put_comm _ _ _ hPin hOther hNe
  · exact put_comm _ _ _ hPin hOther hNe
  · rfl

/-- Setting a pin twice is setting it once. -/
theorem putPair_self (data : Vector UInt8 6) {mask word : Fin 6} (value : Bool)
    (hPin : pin < 8) :
    putPair (putPair data mask word pin value) mask word pin value =
      putPair data mask word pin value := by
  refine Vector.ext fun i hi => ?_
  simp only [getElem_putPair]
  split_ifs
  · exact put_put_self _ _ _ hPin
  · exact put_put_self _ _ _ hPin
  · rfl

/-- The two halves do not touch each other. -/
theorem putPair_halves (data : Vector UInt8 6) (low high : UInt8) (value otherValue : Bool) :
    putPair (putPair data 3 5 low value) 2 4 high otherValue =
      putPair (putPair data 2 4 high otherValue) 3 5 low value := by
  refine Vector.ext fun i hi => ?_
  simp only [getElem_putPair]
  grind

/-- Settings of two pins commute. -/
theorem setMutil_comm (data : Vector UInt8 6) (value otherValue : Bool) (hPin : pin < 16)
    (hOther : other < 16) (hNe : pin ≠ other) :
    setMutil (setMutil data pin value) other otherValue =
      setMutil (setMutil data other otherValue) pin value := by
  by_cases hLow : pin < 8
  · by_cases hOtherLow : other < 8
    · simp only [setMutil_low _ _ hLow, setMutil_low _ _ hOtherLow]
      exact putPair_comm data value otherValue hLow hOtherLow hNe
    · simp only [setMutil_low _ _ hLow, setMutil_high _ _ hOtherLow]
      exact putPair_halves data pin (other - 8) value otherValue
  · by_cases hOtherLow : other < 8
    · simp only [setMutil_high _ _ hLow, setMutil_low _ _ hOtherLow]
      exact (putPair_halves data other (pin - 8) otherValue value).symm
    · simp only [setMutil_high _ _ hLow, setMutil_high _ _ hOtherLow]
      refine putPair_comm data value otherValue (upper_pin hPin hLow).1
        (upper_pin hOther hOtherLow).1 fun hEq => hNe ?_
      exact UInt8.sub_left_inj 8 |>.mp hEq

/-- Setting a pin to the same value again changes nothing. -/
theorem setMutil_self (data : Vector UInt8 6) (value : Bool) (hPin : pin < 16) :
    setMutil (setMutil data pin value) pin value = setMutil data pin value := by
  by_cases hLow : pin < 8
  · simp only [setMutil_low _ _ hLow]
    exact putPair_self data value hLow
  · simp only [setMutil_high _ _ hLow]
    exact putPair_self data value (upper_pin hPin hLow).1

/-- Two calls, one after the other; a pin out of range aborts either way. -/
theorem setIos_pair (builder : UpdateIoBuilder) (hMutil : builder.mutil = true)
    (pin other : UInt8) (value otherValue : Bool) :
    builder.setIos [⟨pin, value⟩, ⟨other, otherValue⟩] =
      if pin < 16 ∧ other < 16 then
        ok ⟨true, setMutil (setMutil builder.data pin value) other otherValue⟩
      else panic := by
  by_cases hPin : pin < 16 <;> by_cases hOther : other < 16 <;>
    simp [setIos_cons, setIos_nil, setIo, setPin, hMutil, hPin, hOther]

/-- What calls in multi mode leave, and the two bits of each pin. -/
theorem setIos_multi (hPins : ∀ call ∈ calls, call.1 < 16) :
    ∃ builder maskHigh maskLow wordHigh wordLow, (new true).setIos calls = ok builder ∧
      builder.bytes = ([3, 1, maskHigh, maskLow, wordHigh, wordLow] : List UInt8) ∧
      ∀ pin : UInt8,
        (BigEndian.value [maskHigh, maskLow]).testBit pin.toNat = (lastChange calls pin).isSome ∧
          (BigEndian.value [wordHigh, wordLow]).testBit pin.toNat =
            (lastChange calls pin).getD false := by
  let data := calls.foldl (fun data call => setMutil data call.1 call.2) (new true).data
  have hHead : (data[0], data[1]) = (3, 1) :=
    run_unchanged (fun data : Vector UInt8 6 => (data[0], data[1]))
      (fun data (call : (_ : UInt8) × Bool) => head_setMutil data call.1 call.2)
      (new true).data calls
  have hFirst : data[0] = 3 := congrArg Prod.fst hHead
  have hSecond : data[1] = 1 := congrArg Prod.snd hHead
  refine ⟨⟨true, data⟩, data[2], data[3], data[4], data[5], ?_, ?_, fun pin => ?_⟩
  · rw [setIos_eq hPins, foldl_setPin]
    rfl
  · have hList : data.toList = [data[0], data[1], data[2], data[3], data[4], data[5]] :=
      toList_eq_ofFn data
    rw [hFirst, hSecond] at hList
    exact hList
  · have hStart : pinBits (new true).data pin = (false, false) := by
      rw [pinBits, show BigEndian.value [(new true).data[2], (new true).data[3]] = 0 from rfl,
        show BigEndian.value [(new true).data[4], (new true).data[5]] = 0 from rfl,
        Nat.zero_testBit]
    have hBits := pinBits_foldl (new true).data hPins pin
    rw [hStart, pinBits, Prod.ext_iff] at hBits
    refine ⟨hBits.1.trans ?_, hBits.2.trans ?_⟩ <;> cases lastChange calls pin <;> rfl

/-- The command that calls in multi mode make, for every sequence of calls;
calls for different pins commute, and a repeated call changes nothing. -/
theorem multi_pin_command (calls : List ((_ : UInt8) × Bool))
    (hPins : ∀ call ∈ calls, call.1 < 16) :
    (∃ builder mask word,
      (new true).setIos calls = ok builder ∧ builder.bytes = [3, 1] ++ mask ++ word ∧
        mask.length = 2 ∧ word.length = 2 ∧
        (∀ pin : UInt8, (BigEndian.value mask).testBit pin.toNat =
          decide (∃ call ∈ calls, call.1 = pin)) ∧
        ∀ pin : UInt8, (BigEndian.value word).testBit pin.toNat =
          (lastChange calls pin).getD false) ∧
      ∀ (builder : UpdateIoBuilder) (pin other : UInt8) (value otherValue : Bool),
        builder.mutil = true →
        (pin ≠ other →
          builder.setIos [⟨pin, value⟩, ⟨other, otherValue⟩] =
            builder.setIos [⟨other, otherValue⟩, ⟨pin, value⟩]) ∧
        builder.setIos [⟨pin, value⟩, ⟨pin, value⟩] = builder.setIos [⟨pin, value⟩] := by
  constructor
  · obtain ⟨builder, maskHigh, maskLow, wordHigh, wordLow, hRun, hBytes, hBits⟩ :=
      setIos_multi hPins
    refine ⟨builder, [maskHigh, maskLow], [wordHigh, wordLow], hRun, hBytes, rfl, rfl,
      fun pin => ?_, fun pin => (hBits pin).2⟩
    rw [← isSome_lastChange calls pin]
    exact (hBits pin).1
  · intro builder pin other value otherValue hMutil
    constructor
    · intro hNe
      rw [setIos_pair builder hMutil, setIos_pair builder hMutil]
      split_ifs with hBoth hSwapped hSwapped
      · rw [setMutil_comm builder.data value otherValue hBoth.1 hBoth.2 hNe]
      · exact absurd hBoth.symm hSwapped
      · exact absurd hSwapped.symm hBoth
      · rfl
    · rw [setIos_pair builder hMutil, setIos_cons, setIo]
      by_cases hPin : pin < 16
      · rw [if_pos ⟨hPin, hPin⟩, if_pos hPin, ok_bind, setIos_nil, setPin, if_pos hMutil,
          setMutil_self builder.data value hPin, hMutil]
      · rw [if_neg (fun hBoth => hPin hBoth.1), if_neg hPin, panic_bind]

/-- Pin 3 is set twice, pin 9 in between. -/
def threeCalls : List ((_ : UInt8) × Bool) := [⟨3, true⟩, ⟨9, true⟩, ⟨3, false⟩]

theorem multi_pin_command_three_calls :
    ∃ builder mask word,
      (new true).setIos threeCalls = ok builder ∧ builder.bytes = [3, 1] ++ mask ++ word ∧
        mask.length = 2 ∧ word.length = 2 ∧
        (∀ pin : UInt8, (BigEndian.value mask).testBit pin.toNat =
          decide (∃ call ∈ threeCalls, call.1 = pin)) ∧
        ∀ pin : UInt8, (BigEndian.value word).testBit pin.toNat =
          (lastChange threeCalls pin).getD false :=
  (multi_pin_command threeCalls (by decide +kernel)).1

end SnapEmu.Command.UpdateIoBuilder
