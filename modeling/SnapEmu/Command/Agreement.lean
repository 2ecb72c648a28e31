import SnapEmu.Command.MultiPin

/-! Which commands the formater reads back as they were built. -/
namespace SnapEmu.Command

open Semantics Semantics.Exec ByteBits

/-- A setter of a builder with its argument. -/
inductive DeviceInfoSetting where
  | adr (adr : UInt8)
  | confirm (confirm : Bool)
  | dutycycle (dutycycle : UInt16)
  | dr (dr : UInt8)
  | power (power : UInt16)
  | timeZone (timeZone : UInt16)

def UpdateDeviceInfoBuilder.apply (builder : UpdateDeviceInfoBuilder) :
    DeviceInfoSetting → UpdateDeviceInfoBuilder
  | .adr adr => builder.setAdr adr
  | .confirm confirm => builder.setConfirm confirm
  | .dutycycle dutycycle => builder.setDutycycle dutycycle
  | .dr dr => builder.setDr dr
  | .power power => builder.setPower power
  | .timeZone timeZone => builder.setTimeZone timeZone

inductive TimerSetting where
  | num (num : UInt8)
  | enable (enable : Bool)
  | pin (pin : UInt8)
  | action (action : Bool)
  | hour (hour : UInt8)
  | minute (minute : UInt8)
  | repeats (repeats : UInt8)

def UpdateTimerBuilder.apply (builder : UpdateTimerBuilder) : TimerSetting → UpdateTimerBuilder
  | .num num => builder.setNum num
  | .enable enable => builder.setEnable enable
  | .pin pin => builder.setPin pin
  | .action action => builder.setAction action
  | .hour hour => builder.setHour hour
  | .minute minute => builder.setMinute minute
  | .repeats repeats => builder.setRepeat repeats

/-- What the setters mean: the fields of a command, zero or `false` unless set. -/
structure DeviceInfoFields where
  adr : UInt8 := 0
  confirm : Bool := false
  dutycycle : UInt16 := 0
  dr : UInt8 := 0
  power : UInt16 := 0
  timeZone : UInt16 := 0

def DeviceInfoFields.set (fields : DeviceInfoFields) : DeviceInfoSetting → DeviceInfoFields
  | .adr adr => { fields with adr }
  | .confirm confirm => { fields with confirm }
  | .dutycycle dutycycle => { fields with dutycycle }
  | .dr dr => { fields with dr }
  | .power power => { fields with power }
  | .timeZone timeZone => { fields with timeZone }

def TimerFields.set (fields : TimerFields) : TimerSetting → TimerFields
  | .num num => { fields with num }
  | .enable enable => { fields with enable }
  | .pin pin => { fields with pin }
  | .action action => { fields with action }
  | .hour hour => { fields with hour }
  | .minute minute => { fields with minute }
  | .repeats repeats => { fields with repeats }

/-- A builder, by the calls that made it. -/
inductive Built where
  | deviceInfo (settings : List DeviceInfoSetting)
  | io (mutil : Bool) (calls : List ((_ : UInt8) × Bool))
  | timer (settings : List TimerSetting)

namespace Built

def bytes : Built → Exec Empty (List UInt8)
  | deviceInfo settings => ok (settings.foldl UpdateDeviceInfoBuilder.apply .new).bytes
  | io mutil calls => (UpdateIoBuilder.new mutil).setIos calls >>= fun builder => ok builder.bytes
  | timer settings => ok (settings.foldl UpdateTimerBuilder.apply .new).bytes

/-- All pins are below 16. -/
def InRange : Built → Prop
  | io _ calls => ∀ call ∈ calls, call.1 < 16
  | _ => True

end Built

/-- The accessors return the fields; the power is one byte here. -/
structure UpdateDeviceInfo.Reads (info : UpdateDeviceInfo) (fields : DeviceInfoFields) : Prop where
  adr : info.adr = fields.adr
  confirm : info.confirm = fields.confirm
  dutycycle : info.dutycycle = fields.dutycycle
  dr : info.dr = fields.dr
  power : info.power.toUInt16 = fields.power
  timeZone : info.timeZone = fields.timeZone

def IoTimer.fields (timer : IoTimer) : TimerFields :=
  { num := timer.inex
    enable := timer.enable
    pin := timer.ioNumber
    action := timer.action
    hour := timer.hour
    minute := timer.minute
    repeats := timer.repeats }

/-- The command is the one that was built, and its accessors return what was
set: `state` lists the pins set, each with its last value. -/
def Built.Reads : Built → IoCommand → Prop
  | deviceInfo settings, .updateDeviceInfo info =>
      info.Reads (settings.foldl DeviceInfoFields.set {})
  | io _ calls, .updateIo update =>
      ∀ pin value, ⟨pin, value⟩ ∈ update.state ↔ lastChange calls pin = some value
  | timer settings, .updateTimer update => update.fields = settings.foldl TimerFields.set {}
  | _, _ => False

def Built.Agrees (built : Built) : Prop :=
  ∃ bytes command, built.bytes = ok bytes ∧ format bytes = .ok command ∧ built.Reads command

/-- The builders whose commands are read back: those of timers, those of one
pin alone, and in multi mode the one that sets pin 0 to `true` alone. -/
def Built.Readable : Built → Prop
  | deviceInfo _ => False
  | io false calls => ∃ call ∈ calls, ∀ other ∈ calls, other.1 = call.1
  | io true calls => (∀ call ∈ calls, call.1 = 0) ∧ lastChange calls 0 = some true
  | timer _ => True

/-- A built command agrees with its parse exactly when the two settings are the same. -/
theorem Built.agrees_iff_reads {built : Built} {bytes : List UInt8} {command : IoCommand}
    (hBytes : built.bytes = ok bytes) (hFormat : format bytes = .ok command) :
    built.Agrees ↔ built.Reads command := by
  constructor
  · rintro ⟨otherBytes, otherCommand, hOtherBytes, hOtherFormat, hReads⟩
    cases hBytes.symm.trans hOtherBytes
    cases hFormat.symm.trans hOtherFormat
    exact hReads
  · intro hReads
    exact ⟨bytes, command, hBytes, hFormat, hReads⟩

section Timer

theorem boolByte_eq_zero (value : Bool) : decide (boolByte value = 0) = !value := by
  cases value <;> rfl

theorem UpdateTimerBuilder.fields_apply (builder : UpdateTimerBuilder) (setting : TimerSetting) :
    (builder.apply setting).fields = builder.fields.set setting := by
  cases setting <;>
    simp [apply, setNum, setEnable, setPin, setAction, setHour, setMinute, setRepeat, fields,
      TimerFields.set, boolByte_eq_zero]

theorem UpdateTimerBuilder.command_apply (builder : UpdateTimerBuilder) (setting : TimerSetting) :
    (builder.apply setting).command = builder.command := by
  cases setting <;>
    simp [apply, setNum, setEnable, setPin, setAction, setHour, setMinute, setRepeat, command]

/-- Seven bytes after the command of a timer. -/
theorem format_timer (builder : UpdateTimerBuilder) (hCommand : builder.command = 5) :
    ∃ timer : IoTimer, format builder.bytes = .ok (.updateTimer timer) ∧
      timer.fields = builder.fields := by
  let data := builder.data
  refine ⟨⟨#v[data[1], data[2], data[3], data[4], data[5], data[6], data[7]]⟩, ?_, rfl⟩
  have hBytes : builder.bytes =
      [data[0], data[1], data[2], data[3], data[4], data[5], data[6], data[7]] :=
    toList_eq_ofFn data
  have hFirst : data[0] = 5 := hCommand
  rw [hBytes, hFirst]
  rfl

/-- Every timer command is read back as built. -/
theorem timer_agrees (settings : List TimerSetting) : (Built.timer settings).Agrees := by
  let builder := settings.foldl UpdateTimerBuilder.apply .new
  have hCommand : builder.command = 5 :=
    run_unchanged UpdateTimerBuilder.command UpdateTimerBuilder.command_apply
      UpdateTimerBuilder.new settings
  have hFields : builder.fields = settings.foldl TimerFields.set {} :=
    (List.foldl_hom UpdateTimerBuilder.fields
      fun builder setting => (builder.fields_apply setting).symm).symm
  obtain ⟨timer, hFormat, hTimer⟩ := format_timer builder hCommand
  exact ⟨builder.bytes, .updateTimer timer, rfl, hFormat, hTimer.trans hFields⟩

end Timer

section DeviceInfo

theorem UpdateDeviceInfoBuilder.command_apply (builder : UpdateDeviceInfoBuilder)
    (setting : DeviceInfoSetting) : (builder.apply setting).data[0] = builder.data[0] := by
  cases setting <;>
    simp [apply, setAdr, setConfirm, setDutycycle, setDr, setPower, setTimeZone]

/-- Nine bytes follow the command, and eight are asked for. -/
theorem format_deviceInfo (builder : UpdateDeviceInfoBuilder) (hCommand : builder.data[0] = 1) :
    format builder.bytes = .error ⟨"update device info length most 8 byte"⟩ := by
  let data := builder.data
  have hBytes : builder.bytes = [data[0], data[1], data[2], data[3], data[4], data[5], data[6],
      data[7], data[8], data[9]] := toList_eq_ofFn data
  rw [hBytes, hCommand]
  rfl

/-- No device information command is read back: the parser has no branch for it. -/
theorem deviceInfo_not_agrees (settings : List DeviceInfoSetting) :
    ¬(Built.deviceInfo settings).Agrees := by
  rintro ⟨bytes, command, hBytes, hFormat, -⟩
  have hCommand : (settings.foldl UpdateDeviceInfoBuilder.apply .new).data[0] = 1 :=
    run_unchanged (fun builder => builder.data[0]) UpdateDeviceInfoBuilder.command_apply
      UpdateDeviceInfoBuilder.new settings
  cases hBytes
  rw [format_deviceInfo _ hCommand] at hFormat
  cases hFormat

end DeviceInfo

section Single

variable {calls : List ((_ : UInt8) × Bool)}

/-- The command and the mode stay, and the last call gives the rest. -/
theorem single_bytes {call : (_ : UInt8) × Bool}
    (hPins : ∀ other ∈ calls ++ [call], other.1 < 16) :
    (Built.io false (calls ++ [call])).bytes = ok [3, 0, call.1, boolByte call.2] := by
  let data := calls.foldl (fun data call => UpdateIoBuilder.setSingle data call.1 call.2)
    (UpdateIoBuilder.new false).data
  have hHead : (data[0], data[1]) = (3, 0) :=
    run_unchanged (fun data : Vector UInt8 6 => (data[0], data[1]))
      (fun data (call : (_ : UInt8) × Bool) => by simp [UpdateIoBuilder.setSingle])
      (UpdateIoBuilder.new false).data calls
  have hFirst : data[0] = 3 := congrArg Prod.fst hHead
  have hSecond : data[1] = 0 := congrArg Prod.snd hHead
  rw [Built.bytes, UpdateIoBuilder.setIos_eq hPins, UpdateIoBuilder.foldl_setPin,
    List.foldl_append]
  have hList : (UpdateIoBuilder.setSingle data call.1 call.2).toList.take 4 =
      [data[0], data[1], call.1, boolByte call.2] := by
    rw [toList_eq_ofFn]
    simp [List.ofFn_succ, UpdateIoBuilder.setSingle]
  rw [hFirst, hSecond] at hList
  exact congrArg ok hList

/-- One pin is read back as one change. -/
theorem format_single {pin : UInt8} (value : Bool) (hPin : pin < 16) :
    ∃ update : UpdateIo, format [3, 0, pin, boolByte value] = .ok (.updateIo update) ∧
      update.state = [⟨pin, value⟩] := by
  have hSome : pin ≠ 0xFF := fun hEq => absurd (hEq ▸ hPin) (by decide)
  refine ⟨⟨false, [pin, boolByte value], by simp⟩, ?_, ?_⟩
  · show (UpdateIo.new [0, pin, boolByte value]).map IoCommand.updateIo = _
    simp [UpdateIo.new, hSome, Except.map]
  · cases value <;> rfl

/-- The last of the calls decides its own pin. -/
theorem lastChange_concat (calls : List ((_ : UInt8) × Bool)) (call : (_ : UInt8) × Bool) :
    lastChange (calls ++ [call]) call.1 = some call.2 := by
  rw [lastChange_append, lastChange_single_self, Option.some_or]

/-- `state` has one entry, that of the last call. -/
theorem single_agrees_iff (hPins : ∀ call ∈ calls, call.1 < 16) :
    (Built.io false calls).Agrees ↔ ∃ call ∈ calls, ∀ other ∈ calls, other.1 = call.1 := by
  rcases calls.eq_nil_or_concat' with rfl | ⟨init, call, rfl⟩
  · obtain ⟨update, hFormat, hState⟩ := format_single false (show (0 : UInt8) < 16 by decide)
    rw [Built.agrees_iff_reads rfl hFormat, Built.Reads, hState]
    constructor
    · intro h
      cases (h 0 false).mp List.mem_cons_self
    · rintro ⟨call, hCall, -⟩
      cases hCall
  · have hLast : call ∈ init ++ [call] := List.mem_append_right init List.mem_cons_self
    obtain ⟨update, hFormat, hState⟩ := format_single call.2 (hPins call hLast)
    rw [Built.agrees_iff_reads (single_bytes hPins) hFormat, Built.Reads, hState]
    have hValue := lastChange_concat init call
    constructor
    · intro h
      refine ⟨call, hLast, fun other hOther => ?_⟩
      have hSome : lastChange (init ++ [call]) other.1 ≠ none := fun hNone =>
        lastChange_eq_none.mp hNone other hOther rfl
      obtain ⟨value, hValue⟩ := Option.ne_none_iff_exists'.mp hSome
      have hEntry := List.mem_singleton.mp ((h other.1 value).mpr hValue)
      exact congrArg PinState.id hEntry
    · rintro ⟨first, hFirst, hSame⟩ pin value
      have hCallPin : call.1 = first.1 := hSame call hLast
      rw [List.mem_singleton, PinState.mk.injEq]
      by_cases hPin : pin = call.1
      · rw [hPin, hValue, Option.some.injEq]
        exact ⟨fun h => h.2.symm, fun h => ⟨rfl, h.symm⟩⟩
      · have hNone : lastChange (init ++ [call]) pin = none :=
          lastChange_eq_none.mpr fun other hOther hAt =>
            hPin (hAt.symm.trans ((hSame other hOther).trans hCallPin.symm))
        rw [hNone]
        exact ⟨fun h => absurd h.1 hPin, fun h => by cases h⟩

end Single

section Multi

variable {calls : List ((_ : UInt8) × Bool)}

/-- A change of several pins is read as two pins, whatever its mask. -/
theorem format_multi {maskHigh : UInt8} (maskLow wordHigh wordLow : UInt8)
    (hMask : maskHigh ≠ 0xFF) :
    ∃ update : UpdateIo,
      format [3, 1, maskHigh, maskLow, wordHigh, wordLow] = .ok (.updateIo update) ∧
        update.state = [⟨maskHigh, maskLow == 1⟩, ⟨wordHigh, wordLow == 1⟩] := by
  refine ⟨⟨true, [maskHigh, maskLow, wordHigh, wordLow], by simp⟩, ?_, rfl⟩
  show (UpdateIo.new [1, maskHigh, maskLow, wordHigh, wordLow]).map IoCommand.updateIo = _
  simp [UpdateIo.new, hMask, Except.map]

/-- A mask with all the pins from 8 on is refused. -/
theorem format_multi_full (maskLow wordHigh wordLow : UInt8) :
    format [3, 1, 0xFF, maskLow, wordHigh, wordLow] = .error ⟨"update io length not match"⟩ := by
  show (UpdateIo.new [1, 0xFF, maskLow, wordHigh, wordLow]).map IoCommand.updateIo = _
  simp [UpdateIo.new, Except.map]

/-- Two bits of one word whose high byte is one of the two positions. -/
theorem two_pins {high low : UInt8} (hHigh : high < 16) (hLow : low < 16) (hLe : low ≤ high)
    (hWord : (2 ^ high.toNat ||| 2 ^ low.toNat) / 2 ^ 8 = high.toNat) : high = 0 ∧ low = 0 := by
  have hAll : ∀ first second : Fin 16, second ≤ first →
      (2 ^ first.val ||| 2 ^ second.val) / 2 ^ 8 = first.val → first.val = 0 ∧ second.val = 0 := by
    decide
  have hZero := hAll ⟨high.toNat, UInt8.lt_iff_toNat_lt.mp hHigh⟩
    ⟨low.toNat, UInt8.lt_iff_toNat_lt.mp hLow⟩ (UInt8.le_iff_toNat_le.mp hLe) hWord
  exact ⟨UInt8.toNat_inj.mp hZero.1, UInt8.toNat_inj.mp hZero.2⟩

variable {maskHigh maskLow wordHigh wordLow : UInt8}

/-- The values are within the mask. -/
theorem word_le_mask (hWords : ∀ pin : UInt8,
      (BigEndian.value [maskHigh, maskLow]).testBit pin.toNat = (lastChange calls pin).isSome ∧
        (BigEndian.value [wordHigh, wordLow]).testBit pin.toNat =
          (lastChange calls pin).getD false) : wordHigh ≤ maskHigh := by
  have hAnd : BigEndian.value [wordHigh, wordLow] &&& BigEndian.value [maskHigh, maskLow] =
      BigEndian.value [wordHigh, wordLow] := by
    refine eq_of_testBit_positions (Nat.and_lt_two_pow _ (value_pair_lt ..)) (value_pair_lt ..)
      fun pin => ?_
    rw [Nat.testBit_and, (hWords pin).1, (hWords pin).2]
    cases lastChange calls pin <;> simp
  have hLe : BigEndian.value [wordHigh, wordLow] ≤ BigEndian.value [maskHigh, maskLow] :=
    hAnd ▸ Nat.and_le_right
  rw [value_pair, value_pair] at hLe
  have hLow := maskLow.toNat_lt
  exact UInt8.le_iff_toNat_le.mpr (by omega)

/-- If the pins set are two, the mask is that of these two. -/
theorem mask_of_two {first second : UInt8} (hFirst : first < 16) (hSecond : second < 16)
    (hWords : ∀ pin : UInt8,
      (BigEndian.value [maskHigh, maskLow]).testBit pin.toNat = (lastChange calls pin).isSome)
    (hOnly : ∀ pin, (lastChange calls pin).isSome ↔ pin = first ∨ pin = second) :
    BigEndian.value [maskHigh, maskLow] = 2 ^ first.toNat ||| 2 ^ second.toNat := by
  have hPow : ∀ {pin : UInt8}, pin < 16 → 2 ^ pin.toNat < 2 ^ 16 := fun hPin =>
    Nat.pow_lt_pow_right (by decide) (UInt8.lt_iff_toNat_lt.mp hPin)
  refine eq_of_testBit_positions (value_pair_lt ..)
    (Nat.or_lt_two_pow (hPow hFirst) (hPow hSecond)) fun pin => ?_
  rw [hWords, Nat.testBit_or, Nat.testBit_two_pow, Nat.testBit_two_pow, Bool.eq_iff_iff, hOnly]
  have hPin : ∀ other : UInt8, other.toNat = pin.toNat ↔ pin = other := fun other =>
    UInt8.toNat_inj.trans eq_comm
  simp only [Bool.or_eq_true, decide_eq_true_iff, hPin]

theorem lt_of_lastChange {pin : UInt8} {value : Bool} (hPins : ∀ call ∈ calls, call.1 < 16)
    (h : lastChange calls pin = some value) : pin < 16 := by
  have hSome := isSome_lastChange calls pin
  rw [h, Option.isSome_some, eq_comm, decide_eq_true_iff] at hSome
  obtain ⟨call, hCall, rfl⟩ := hSome
  exact hPins call hCall

/-- Pin 0 alone, set to `true`, is bit 0 of both words. -/
theorem one_of_zero
    (hLast : ∀ pin, lastChange calls pin = if pin = 0 then some true else none)
    (hWords : ∀ pin : UInt8,
      (BigEndian.value [maskHigh, maskLow]).testBit pin.toNat = (lastChange calls pin).isSome ∧
        (BigEndian.value [wordHigh, wordLow]).testBit pin.toNat =
          (lastChange calls pin).getD false) :
    (maskHigh = 0 ∧ maskLow = 1) ∧ wordHigh = 0 ∧ wordLow = 1 := by
  have hOne : ∀ {high low : UInt8}, (∀ pin : UInt8,
      (BigEndian.value [high, low]).testBit pin.toNat = decide (pin = 0)) → high = 0 ∧ low = 1 := by
    intro high low hBits
    have hValue : BigEndian.value [high, low] = 2 ^ 0 := by
      refine eq_of_testBit_positions (value_pair_lt ..) (by decide) fun pin => ?_
      rw [hBits, Nat.testBit_two_pow, Bool.eq_iff_iff, decide_eq_true_iff, decide_eq_true_iff,
        eq_comm, ← UInt8.toNat_inj]
      rfl
    have hBound := low.toNat_lt
    rw [value_pair] at hValue
    exact ⟨UInt8.toNat_inj.mp (show high.toNat = 0 by omega),
      UInt8.toNat_inj.mp (show low.toNat = 1 by omega)⟩
  refine ⟨hOne fun pin => ?_, hOne fun pin => ?_⟩
  · rw [(hWords pin).1, hLast]
    split_ifs with hPin <;> simp [hPin]
  · rw [(hWords pin).2, hLast]
    split_ifs with hPin <;> simp [hPin]

/-- If two entries are the state, their pins are the pins set. -/
theorem isSome_of_entries {first second : PinState}
    (h : ∀ pin value, ⟨pin, value⟩ ∈ [first, second] ↔ lastChange calls pin = some value)
    (pin : UInt8) : (lastChange calls pin).isSome ↔ pin = first.id ∨ pin = second.id := by
  constructor
  · intro hSome
    obtain ⟨value, hValue⟩ := Option.isSome_iff_exists.mp hSome
    rcases List.mem_cons.mp ((h pin value).mpr hValue) with hEntry | hEntry
    · exact .inl (congrArg PinState.id hEntry)
    · exact .inr (congrArg PinState.id (List.mem_singleton.mp hEntry))
  · rintro (rfl | rfl)
    · rw [(h first.id first.value).mp List.mem_cons_self, Option.isSome_some]
    · rw [(h second.id second.value).mp (.tail _ List.mem_cons_self), Option.isSome_some]

/-- If the mask and the word, taken as entries, are the state, the mask is that
of pin 0 alone. -/
theorem zero_of_entries (hPins : ∀ call ∈ calls, call.1 < 16)
    (hWords : ∀ pin : UInt8,
      (BigEndian.value [maskHigh, maskLow]).testBit pin.toNat = (lastChange calls pin).isSome ∧
        (BigEndian.value [wordHigh, wordLow]).testBit pin.toNat =
          (lastChange calls pin).getD false)
    (hReads : ∀ pin value, ⟨pin, value⟩ ∈
        ([⟨maskHigh, maskLow == 1⟩, ⟨wordHigh, wordLow == 1⟩] : List PinState) ↔
      lastChange calls pin = some value) :
    (maskHigh = 0 ∧ maskLow = 1) ∧ wordHigh = 0 := by
  have hHigh := lt_of_lastChange hPins ((hReads maskHigh _).mp List.mem_cons_self)
  have hLow := lt_of_lastChange hPins ((hReads wordHigh _).mp (.tail _ List.mem_cons_self))
  have hWord := mask_of_two hHigh hLow (fun pin => (hWords pin).1) (isSome_of_entries hReads)
  have hDiv : (2 ^ maskHigh.toNat ||| 2 ^ wordHigh.toNat) / 2 ^ 8 = maskHigh.toNat := by
    have hLt := maskLow.toNat_lt
    rw [← hWord, value_pair]
    omega
  obtain ⟨hHighZero, hLowZero⟩ := two_pins hHigh hLow (word_le_mask hWords) hDiv
  have hOne : maskLow = 1 := by
    rw [value_pair, hHighZero, hLowZero] at hWord
    exact UInt8.toNat_inj.mp (by simpa using hWord)
  exact ⟨⟨hHighZero, hOne⟩, hLowZero⟩

/-- A command that is accepted does not set all the pins from 8 on. -/
theorem mask_of_agrees {built : Built} (h : built.Agrees)
    (hBytes : built.bytes = ok [3, 1, maskHigh, maskLow, wordHigh, wordLow]) : maskHigh ≠ 0xFF := by
  intro hMask
  obtain ⟨bytes, command, hOther, hFormat, -⟩ := h
  cases hBytes.symm.trans hOther
  rw [hMask, format_multi_full] at hFormat
  cases hFormat

/-- The pins that were set are exactly the two that `state` lists. -/
theorem multi_agrees_iff (hPins : ∀ call ∈ calls, call.1 < 16) :
    (Built.io true calls).Agrees ↔
      (∀ call ∈ calls, call.1 = 0) ∧ lastChange calls 0 = some true := by
  obtain ⟨builder, maskHigh, maskLow, wordHigh, wordLow, hRun, hBytes, hWords⟩ :=
    UpdateIoBuilder.setIos_multi hPins
  have hBuilt : (Built.io true calls).bytes =
      ok ([3, 1, maskHigh, maskLow, wordHigh, wordLow] : List UInt8) := by
    rw [Built.bytes, hRun, ok_bind, hBytes]
  constructor
  · intro hAgrees
    obtain ⟨update, hFormat, hState⟩ :=
      format_multi maskLow wordHigh wordLow (mask_of_agrees hAgrees hBuilt)
    have hReads := (Built.agrees_iff_reads hBuilt hFormat).mp hAgrees
    rw [Built.Reads, hState] at hReads
    obtain ⟨⟨hHighZero, hOne⟩, hLowZero⟩ := zero_of_entries hPins hWords hReads
    constructor
    · intro call hCall
      have hSome : (lastChange calls call.1).isSome :=
        (isSome_lastChange calls call.1).trans (decide_eq_true ⟨call, hCall, rfl⟩)
      rcases (isSome_of_entries hReads call.1).mp hSome with hPin | hPin
      · exact hPin.trans hHighZero
      · exact hPin.trans hLowZero
    · have hFirst := (hReads maskHigh (maskLow == 1)).mp List.mem_cons_self
      rw [hHighZero, hOne] at hFirst
      exact hFirst
  · rintro ⟨hZero, hTrue⟩
    have hLast : ∀ pin, lastChange calls pin = if pin = 0 then some true else none := by
      intro pin
      split_ifs with hPin
      · rw [hPin, hTrue]
      · exact lastChange_eq_none.mpr fun call hCall hAt => hPin (hAt ▸ hZero call hCall)
    obtain ⟨⟨hMaskHigh, hMaskLow⟩, hWordHigh, hWordLow⟩ := one_of_zero hLast hWords
    rw [hMaskHigh, hMaskLow, hWordHigh, hWordLow] at hBuilt
    obtain ⟨update, hFormat, hState⟩ := format_multi 1 0 1 (show (0 : UInt8) ≠ 0xFF by decide)
    rw [Built.agrees_iff_reads hBuilt hFormat, Built.Reads, hState]
    intro pin value
    rw [hLast]
    split_ifs with hPin
    · cases value <;> simp [hPin]
    · simp [hPin]

end Multi

/-- Exactly the readable builders have commands that the formater reads back. -/
theorem agrees_iff_readable (built : Built) (hRange : built.InRange) :
    built.Agrees ↔ built.Readable := by
  cases built with
  | deviceInfo settings => exact iff_of_false (deviceInfo_not_agrees settings) id
  | io mutil calls =>
      cases mutil with
      | false => exact single_agrees_iff hRange
      | true => exact multi_agrees_iff hRange
  | timer settings => exact iff_of_true (timer_agrees settings) trivial

theorem agrees_iff_readable_one_pin :
    (Built.io false [⟨3, true⟩, ⟨3, false⟩]).Agrees ↔
      (Built.io false [⟨3, true⟩, ⟨3, false⟩]).Readable :=
  agrees_iff_readable (.io false [⟨3, true⟩, ⟨3, false⟩])
    (show ∀ call ∈ ([⟨3, true⟩, ⟨3, false⟩] : List ((_ : UInt8) × Bool)), call.1 < 16 by
      decide +kernel)

/-- No update of the device info is read back. -/
theorem device_info_refused : ¬∀ built : Built, built.InRange → built.Agrees := by
  intro h
  obtain ⟨bytes, command, hBytes, hFormat, -⟩ := h (.deviceInfo [.adr 1]) trivial
  cases hBytes
  cases hFormat

end SnapEmu.Command
