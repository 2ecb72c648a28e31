import SnapEmu.Mqtt.DownloadResponse

/-! Where the sender of a call stands: in the table, in the hands of an
uplink, or nowhere. -/
namespace SnapEmu.Mqtt

open Device Semantics Registry

variable {state : ForwardState} {number other uplink : Nat} {call : Call} {eui : Eui}

/-- The call waits, or has not dealt with the end of its wait yet. -/
def Pending (calls : Nat → Option Call) (number : Nat) (eui : Eui) : Prop :=
  ∃ call, calls number = some call ∧ call.phase.pending = true ∧ call.eui = eui

def Entered (calls : Nat → Option Call) (number : Nat) : Prop :=
  ∃ call, calls number = some call ∧ call.phase.entered = true

/-- Whose sender stands in the table or in the hands of an uplink has added
it, and no sender is in two places. -/
structure Sound (state : ForwardState) : Prop where
  table : ∀ eui number, state.table.data eui = some number → Entered state.calls number
  taken : ∀ uplink number, state.taken uplink = some number → Entered state.calls number
  apart : ∀ eui uplink number, state.table.data eui = some number →
    state.taken uplink ≠ some number

/-- Who waits for a node after a call changed its phase. -/
theorem pending_set : Pending (state.set number call).calls other eui ↔
    (other = number ∧ call.phase.pending = true ∧ call.eui = eui) ∨
      (other ≠ number ∧ Pending state.calls other eui) := by
  unfold Pending ForwardState.set
  by_cases hSame : other = number
  · subst hSame
    simp [Function.update_self]
  · dsimp only
    rw [Function.update_of_ne hSame]
    simp [hSame]

/-- Who entered the table after a call changed its phase. -/
theorem entered_set : Entered (state.set number call).calls other ↔
    (other = number ∧ call.phase.entered = true) ∨
      (other ≠ number ∧ Entered state.calls other) := by
  unfold Entered ForwardState.set
  by_cases hSame : other = number
  · subst hSame
    simp [Function.update_self]
  · dsimp only
    rw [Function.update_of_ne hSame]
    simp [hSame]

theorem pending_iff (hCall : state.calls number = some call) :
    Pending state.calls number eui ↔ call.phase.pending = true ∧ call.eui = eui := by
  unfold Pending
  simp [hCall]

theorem entered_iff (hCall : state.calls number = some call) :
    Entered state.calls number ↔ call.phase.entered = true := by
  unfold Entered
  simp [hCall]

/-- What the step of a call keeps, if each call keeps it. -/
theorem onCall_keeps {Keeps : ForwardState → Prop} {act : ForwardState → Nat → Call → ForwardState}
    (h : Keeps state)
    (hAct : ∀ call, state.calls number = some call → Keeps (act state number call)) :
    Keeps (onCall state number act) := by
  unfold onCall
  cases hCall : state.calls number with
  | none => exact h
  | some call => exact hAct call hCall

/-- Changing the phase of a call keeps the table sound, when an entered call stays
entered. -/
theorem set_sound (h : Sound state)
    (hEntered : Entered state.calls number → call.phase.entered = true) :
    Sound (state.set number call) := by
  have hKept : ∀ other, Entered state.calls other →
      Entered (state.set number call).calls other := by
    intro other hOther
    by_cases hSame : other = number
    · exact entered_set.mpr (.inl ⟨hSame, hEntered (hSame ▸ hOther)⟩)
    · exact entered_set.mpr (.inr ⟨hSame, hOther⟩)
  exact { table := fun eui owner hSlot => hKept owner (h.table eui owner hSlot)
          taken := fun uplink owner hTaken => hKept owner (h.taken uplink owner hTaken)
          apart := h.apart }

/-- Starting a call keeps the table sound. -/
theorem start_sound (h : Sound state) (number : Nat) (eui : Eui) (timeout : UInt32) :
    Sound (startCall state number eui timeout) := by
  unfold startCall
  cases hCall : state.calls number with
  | some _ => exact h
  | none =>
      refine set_sound h fun hEntered => ?_
      obtain ⟨call, hSome, _⟩ := hEntered
      rw [hCall] at hSome
      cases hSome

/-- Looking the node up keeps the table sound. -/
theorem check_sound (h : Sound state) (hCall : state.calls number = some call) :
    Sound (checkAdd state number call) := by
  unfold checkAdd
  cases hPhase : call.phase with
  | started =>
      have hFresh : ¬Entered state.calls number := by
        rw [entered_iff hCall, hPhase]
        decide
      dsimp only
      split
      · exact set_sound h fun hEntered => absurd hEntered hFresh
      · exact set_sound h fun hEntered => absurd hEntered hFresh
  | checked => exact h
  | waiting => exact h
  | expired => exact h
  | returned => exact h

/-- The expiry of a call keeps the table sound. -/
theorem expire_sound (h : Sound state) (number : Nat) (call : Call) :
    Sound (expire state number call) := by
  unfold expire
  cases call.phase with
  | waiting => exact set_sound h fun _ => rfl
  | started => exact h
  | checked => exact h
  | expired => exact h
  | returned => exact h

/-- Taking a sender keeps the table sound. -/
theorem get_sound (h : Sound state) (number : Nat) (eui : Eui) :
    Sound (state.access number (state.table.get eui)) where
  table slot owner hSlot := h.table slot owner ((state.table.get_data eui slot owner).mp hSlot).2
  taken := h.taken
  apart slot uplink owner hSlot :=
    h.apart slot uplink owner ((state.table.get_data eui slot owner).mp hSlot).2

/-- Clearing up after a call keeps the table sound. -/
theorem clean_sound (h : Sound state) (number : Nat) (call : Call) :
    Sound (cleanUp state number call) := by
  unfold cleanUp
  cases call.phase with
  | expired => exact set_sound (get_sound h number call.eui) fun _ => rfl
  | started => exact h
  | checked => exact h
  | waiting => exact h
  | returned => exact h

/-- A call is entered with its insertion, and stood nowhere before. -/
theorem insert_sound (h : Sound state) (hCall : state.calls number = some call) :
    Sound (insertAdd state number call) := by
  unfold insertAdd
  cases hPhase : call.phase with
  | checked =>
      have hFresh : ¬Entered state.calls number := by
        rw [entered_iff hCall, hPhase]
        decide
      have hNow : ∀ phase : CallPhase, phase.entered = true → ∀ owner,
          (owner = number ∨ Entered state.calls owner) →
            Entered (state.set number { call with phase := phase }).calls owner := by
        intro phase hEntered owner hOwner
        rcases hOwner with rfl | hBefore
        · exact entered_set.mpr (.inl ⟨rfl, hEntered⟩)
        · exact entered_set.mpr (.inr ⟨fun hEq => hFresh (hEq ▸ hBefore), hBefore⟩)
      have hSlots : ∀ slot owner, (state.table.insert call.eui number).2.data slot = some owner →
          owner = number ∨ state.table.data slot = some owner := by
        intro slot owner hSlot
        rcases (state.table.insert_data call.eui slot number owner).mp hSlot with hNew | hOld
        · exact .inl hNew.2
        · exact .inr hOld.2
      have hEntered : (if call.timeout > 60 then CallPhase.returned else .waiting).entered =
          true := by
        split
        · rfl
        · rfl
      refine ⟨fun slot owner hSlot => ?_, fun uplink owner hTaken => ?_,
        fun slot uplink owner hSlot hTaken => ?_⟩
      · exact hNow _ hEntered owner ((hSlots slot owner hSlot).imp_right (h.table slot owner))
      · exact hNow _ hEntered owner (.inr (h.taken uplink owner hTaken))
      · rcases hSlots slot owner hSlot with rfl | hBefore
        · exact hFresh (h.taken uplink owner hTaken)
        · exact h.apart slot uplink owner hBefore hTaken
  | started => exact h
  | waiting => exact h
  | expired => exact h
  | returned => exact h

/-- A sender leaves the table when an uplink takes it: its call stands under one device. -/
theorem take_sound (h : Sound state) (hBacked : Backed state.table.data (Pending state.calls))
    (uplink : Nat) (eui : Eui) : Sound (takeSender state uplink eui) := by
  unfold takeSender
  cases hFree : state.taken uplink with
  | some _ => exact h
  | none =>
      have hTaken : ∀ other owner,
          Function.update state.taken uplink (state.table.get eui).1 other = some owner →
            state.table.data eui = some owner ∨ state.taken other = some owner := by
        intro other owner hOther
        by_cases hUplink : other = uplink
        · rw [hUplink, Function.update_self] at hOther
          exact .inl hOther
        · rw [Function.update_of_ne hUplink] at hOther
          exact .inr hOther
      refine ⟨fun slot owner hSlot => ?_, fun other owner hOther => ?_,
        fun slot other owner hSlot hOther => ?_⟩
      · exact h.table slot owner ((state.table.get_data eui slot owner).mp hSlot).2
      · rcases hTaken other owner hOther with hEntry | hBefore
        · exact h.table eui owner hEntry
        · exact h.taken other owner hBefore
      · obtain ⟨hSlot', hBefore⟩ := (state.table.get_data eui slot owner).mp hSlot
        rcases hTaken other owner hOther with hEntry | hHeld
        · obtain ⟨call, hCall, _, hEui⟩ := hBacked eui owner hEntry
          have hSame := ((pending_iff hCall).mp (hBacked slot owner hBefore)).2
          exact hSlot' (hSame.symm.trans hEui)
        · exact h.apart slot other owner hBefore hHeld

/-- Sending to a taken call keeps the table sound. -/
theorem send_sound (h : Sound state) (uplink : Nat) : Sound (sendTaken state uplink) := by
  unfold sendTaken
  cases state.taken uplink with
  | none => exact h
  | some number =>
      have hTaken : ∀ other owner, Function.update state.taken uplink none other = some owner →
          state.taken other = some owner := by
        intro other owner hOther
        by_cases hUplink : other = uplink
        · rw [hUplink, Function.update_self] at hOther
          cases hOther
        · rwa [Function.update_of_ne hUplink] at hOther
      have hNext : Sound { state with taken := Function.update state.taken uplink none } :=
        ⟨h.table, fun other owner hOther => h.taken other owner (hTaken other owner hOther),
          fun slot other owner hSlot hOther =>
            h.apart slot other owner hSlot (hTaken other owner hOther)⟩
      dsimp only
      unfold onCall
      cases state.calls number with
      | none => exact hNext
      | some call =>
          dsimp only
          unfold answer
          cases call.phase with
          | waiting => exact set_sound hNext fun _ => rfl
          | started => exact hNext
          | checked => exact hNext
          | expired => exact hNext
          | returned => exact hNext

/-- Every event keeps the table sound while its entries are backed by calls that wait.
-/
theorem forwardStep_sound (event : ForwardEvent) (h : Sound state)
    (hBacked : Backed state.table.data (Pending state.calls)) :
    Sound (forwardStep state event) := by
  cases event with
  | start number eui timeout => exact start_sound h number eui timeout
  | check number => exact onCall_keeps h fun _ hCall => check_sound h hCall
  | insert number => exact onCall_keeps h fun _ hCall => insert_sound h hCall
  | expire number => exact onCall_keeps h fun call _ => expire_sound h number call
  | clean number => exact onCall_keeps h fun call _ => clean_sound h number call
  | take uplink eui => exact take_sound h hBacked uplink eui
  | send uplink => exact send_sound h uplink

/-- The empty table is sound. -/
theorem initial_sound : Sound ForwardState.initial where
  table eui owner hSlot := by cases hSlot
  taken uplink owner hTaken := by cases hTaken
  apart eui uplink owner hSlot := by cases hSlot

end SnapEmu.Mqtt
