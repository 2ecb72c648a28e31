import SnapEmu.Mqtt.Senders

/-! One call waits for the next uplink of a device: what an insertion must
find so that each entry keeps belonging to the one call that waits for it. -/
namespace SnapEmu.Mqtt

open Device Semantics Registry

variable {state : ForwardState} {number other uplink : Nat} {call : Call} {eui : Eui}

/-- Entries belong to waiting calls, at most one call waits for a device, no
call drops the sender of another, and a call for a device that none waits for
gets its entry. -/
structure Exclusive (state : ForwardState) : Prop where
  backed : Backed state.table.data (Pending state.calls)
  single : ∀ eui first second, Pending state.calls first eui → Pending state.calls second eui →
    first = second
  own : ∀ drop ∈ state.dropped, drop.1 = drop.2
  free : ∀ number call, state.calls number = some call → call.phase = .started →
    (∀ other, ¬Pending state.calls other call.eui) →
      (run forwardStep state [.check number, .insert number]).table.data call.eui = some number

/-- An insertion finds that no call waits for its device, and its call goes on to wait. -/
def Alone (state : ForwardState) : ForwardEvent → Prop
  | .insert number => ∀ call, state.calls number = some call → call.phase = .checked →
      call.timeout ≤ 60 ∧ ∀ other, ¬Pending state.calls other call.eui
  | _ => True

/-- A call that finds its device free adds its sender. -/
theorem add_of_free (hCall : state.calls number = some call) (hPhase : call.phase = .started)
    (hFree : state.table.data call.eui = none) :
    (run forwardStep state [.check number, .insert number]).table.data call.eui = some number := by
  have hHas : state.table.has call.eui = false := by rw [DownloadResponse.has, hFree]; rfl
  have hCheck : forwardStep state (.check number) =
      state.set number { call with phase := .checked } := by
    rw [forwardStep, onCall, hCall]
    dsimp only
    rw [checkAdd, hPhase, hHas]
    rfl
  have hNext : (state.set number { call with phase := .checked }).calls number =
      some { call with phase := .checked } := Function.update_self _ _ _
  rw [run_cons, run_cons, run_nil, hCheck, forwardStep, onCall, hNext]
  exact Function.update_self _ _ _

/-- The last part of `Exclusive` follows from the first. -/
theorem Exclusive.of_backed (hBacked : Backed state.table.data (Pending state.calls))
    (hSingle : ∀ eui first second, Pending state.calls first eui →
      Pending state.calls second eui → first = second)
    (hOwn : ∀ drop ∈ state.dropped, drop.1 = drop.2) : Exclusive state where
  backed := hBacked
  single := hSingle
  own := hOwn
  free _ _ hCall hPhase hNone := add_of_free hCall hPhase (hBacked.free hNone)

/-- A call may change its phase if it does not begin to wait, and its entry
has gone if it ends to. -/
theorem set_exclusive (h : Exclusive state)
    (hMore : call.phase.pending = true → Pending state.calls number call.eui)
    (hGone : ∀ eui, state.table.data eui = some number →
      call.phase.pending = true ∧ call.eui = eui) : Exclusive (state.set number call) := by
  have hBefore : ∀ other eui, Pending (state.set number call).calls other eui →
      Pending state.calls other eui := by
    intro other eui hPending
    rcases pending_set.mp hPending with ⟨rfl, hPhase, rfl⟩ | ⟨_, hOther⟩
    · exact hMore hPhase
    · exact hOther
  refine Exclusive.of_backed (h.backed.shrink fun eui owner hSlot => ⟨hSlot, fun hPending => ?_⟩)
    (fun eui first second hFirst hSecond =>
      h.single eui first second (hBefore _ _ hFirst) (hBefore _ _ hSecond)) h.own
  by_cases hSame : owner = number
  · exact pending_set.mpr (.inl ⟨hSame, hGone eui (hSame ▸ hSlot)⟩)
  · exact pending_set.mpr (.inr ⟨hSame, hPending⟩)

/-- A call that does not wait yet has no entry. -/
theorem not_entry (h : Exclusive state) (hIdle : ∀ eui, ¬Pending state.calls number eui)
    (eui : Eui) : state.table.data eui ≠ some number :=
  fun hSlot => hIdle eui (h.backed eui number hSlot)

/-- Starting a call waits for nothing yet. -/
theorem start_exclusive (h : Exclusive state) (number : Nat) (eui : Eui) (timeout : UInt32) :
    Exclusive (startCall state number eui timeout) := by
  unfold startCall
  cases hCall : state.calls number with
  | some _ => exact h
  | none =>
      have hIdle : ∀ eui, ¬Pending state.calls number eui := by
        intro eui hPending
        obtain ⟨call, hSome, _⟩ := hPending
        rw [hCall] at hSome
        cases hSome
      exact set_exclusive h (fun hPhase => by cases hPhase)
        fun eui hSlot => absurd hSlot (not_entry h hIdle eui)

/-- Looking the node up waits for nothing yet. -/
theorem check_exclusive (h : Exclusive state) (hCall : state.calls number = some call) :
    Exclusive (checkAdd state number call) := by
  unfold checkAdd
  cases hPhase : call.phase with
  | started =>
      have hIdle : ∀ eui, ¬Pending state.calls number eui := by
        intro eui hPending
        rw [pending_iff hCall, hPhase] at hPending
        cases hPending.1
      dsimp only
      split
      · exact set_exclusive h (fun hPhase => by cases hPhase)
          fun eui hSlot => absurd hSlot (not_entry h hIdle eui)
      · exact set_exclusive h (fun hPhase => by cases hPhase)
          fun eui hSlot => absurd hSlot (not_entry h hIdle eui)
  | checked => exact h
  | waiting => exact h
  | expired => exact h
  | returned => exact h

/-- An expired call waits no longer. -/
theorem expire_exclusive (h : Exclusive state) (hCall : state.calls number = some call) :
    Exclusive (expire state number call) := by
  unfold expire
  cases hPhase : call.phase with
  | waiting =>
      refine set_exclusive h (fun _ => (pending_iff hCall).mpr ⟨by rw [hPhase]; rfl, rfl⟩) ?_
      intro eui hSlot
      exact ⟨rfl, ((pending_iff hCall).mp (h.backed eui number hSlot)).2⟩
  | started => exact h
  | checked => exact h
  | expired => exact h
  | returned => exact h

/-- The sender that a timed-out call removes is its own. -/
theorem clean_exclusive (h : Exclusive state) (hCall : state.calls number = some call) :
    Exclusive (cleanUp state number call) := by
  unfold cleanUp
  cases hPhase : call.phase with
  | expired =>
      have hPending : Pending state.calls number call.eui :=
        (pending_iff hCall).mpr ⟨by rw [hPhase]; rfl, rfl⟩
      have hNext : Exclusive (state.access number (state.table.get call.eui)) := by
        refine Exclusive.of_backed
          (h.backed.shrink fun eui owner hSlot =>
          ⟨((state.table.get_data call.eui eui owner).mp hSlot).2, id⟩) h.single ?_
        intro drop hDrop
        rcases List.mem_append.mp hDrop with hNew | hOld
        · obtain ⟨owner, hOwner, rfl⟩ := List.mem_map.mp hNew
          have hSlot : state.table.data call.eui = some owner := Option.mem_toList.mp hOwner
          exact h.single call.eui number owner hPending (h.backed call.eui owner hSlot)
        · exact h.own drop hOld
      refine set_exclusive hNext (fun hPhase => by cases hPhase) ?_
      intro eui hSlot
      obtain ⟨hEui, hBefore⟩ := (state.table.get_data call.eui eui number).mp hSlot
      exact absurd ((pending_iff hCall).mp (h.backed eui number hBefore)).2.symm hEui
  | started => exact h
  | checked => exact h
  | waiting => exact h
  | returned => exact h

/-- A taken call is the one that waited. -/
theorem take_exclusive (h : Exclusive state) (uplink : Nat) (eui : Eui) :
    Exclusive (takeSender state uplink eui) := by
  unfold takeSender
  cases state.taken uplink with
  | some _ => exact h
  | none =>
      exact Exclusive.of_backed (h.backed.shrink fun slot owner hSlot =>
        ⟨((state.table.get_data eui slot owner).mp hSlot).2, id⟩) h.single h.own

/-- A call that gets its answer has no entry any more. -/
theorem send_exclusive (h : Exclusive state) (hSound : Sound state) (uplink : Nat) :
    Exclusive (sendTaken state uplink) := by
  unfold sendTaken
  cases hTaken : state.taken uplink with
  | none => exact h
  | some number =>
      have hNext : Exclusive { state with taken := Function.update state.taken uplink none } :=
        Exclusive.of_backed h.backed h.single h.own
      dsimp only
      unfold onCall
      cases state.calls number with
      | none => exact hNext
      | some call =>
          dsimp only
          unfold answer
          cases call.phase with
          | waiting =>
              exact set_exclusive hNext (fun hPhase => by cases hPhase)
                fun eui hSlot => absurd hTaken (hSound.apart eui uplink number hSlot)
          | started => exact hNext
          | checked => exact hNext
          | expired => exact hNext
          | returned => exact hNext

theorem not_pending (hCall : state.calls number = some call) (hPhase : call.phase.pending = false)
    (eui : Eui) : ¬Pending state.calls number eui := by
  rw [pending_iff hCall, hPhase]
  intro hPending
  cases hPending.1

/-- An insertion is alone when no other call waits for the same node. -/
theorem alone_insert (hCall : state.calls number = some call) (hPhase : call.phase = .checked) :
    Alone state (.insert number) ↔
      call.timeout ≤ 60 ∧ ∀ other, ¬Pending state.calls other call.eui := by
  constructor
  · intro hAll
    exact hAll call hCall hPhase
  · intro hOne found hFound _
    rw [hCall, Option.some.injEq] at hFound
    exact hFound ▸ hOne

/-- A call that goes on to wait alone keeps the table exclusive. -/
theorem insert_exclusive (h : Exclusive state) (hIdle : ∀ eui, ¬Pending state.calls number eui)
    (hNone : ∀ other, ¬Pending state.calls other call.eui) :
    Exclusive ((state.access number (state.table.insert call.eui number)).set number
      { call with phase := .waiting }) := by
  have hOther : ∀ other eui, Pending state.calls other eui → other ≠ number :=
    fun other eui hPending hEq => hIdle eui (hEq ▸ hPending)
  refine Exclusive.of_backed (h.backed.enter (pending_set.mpr (.inl ⟨rfl, rfl, rfl⟩))
    fun other slot hPending => pending_set.mpr (.inr ⟨hOther other slot hPending, hPending⟩)) ?_ ?_
  · intro eui first second hFirst hSecond
    rcases pending_set.mp hFirst with ⟨rfl, _, rfl⟩ | ⟨_, hFirst⟩
    · rcases pending_set.mp hSecond with ⟨rfl, _, _⟩ | ⟨_, hSecond⟩
      · rfl
      · exact absurd hSecond (hNone second)
    · rcases pending_set.mp hSecond with ⟨rfl, _, rfl⟩ | ⟨_, hSecond⟩
      · exact absurd hFirst (hNone first)
      · exact h.single eui first second hFirst hSecond
  · intro drop hDrop
    rcases List.mem_append.mp hDrop with hNew | hOld
    · have hEmpty : (state.table.insert call.eui number).1 = none := h.backed.free hNone
      rw [hEmpty] at hNew
      cases hNew
    · exact h.own drop hOld

/-- An insertion that keeps the table exclusive belongs to a call that waits alone. -/
theorem alone_of_insert {phase : CallPhase} (hIdle : ∀ eui, ¬Pending state.calls number eui)
    (hNext : Exclusive ((state.access number (state.table.insert call.eui number)).set number
      { call with phase := phase })) :
    phase.pending = true ∧ ∀ other, ¬Pending state.calls other call.eui := by
  have hWaits := hNext.backed call.eui number (Function.update_self _ _ _)
  rcases pending_set.mp hWaits with ⟨_, hPending, _⟩ | ⟨hNumber, _⟩
  · refine ⟨hPending, fun other hOther => ?_⟩
    have hNumber : other ≠ number := fun hEq => hIdle call.eui (hEq ▸ hOther)
    exact hNumber (hNext.single call.eui other number
      (pending_set.mpr (.inr ⟨hNumber, hOther⟩)) hWaits)
  · exact absurd rfl hNumber

/-- An insertion keeps the waiters apart exactly when it is alone. -/
theorem insert_exclusive_iff (h : Exclusive state) (hCall : state.calls number = some call) :
    Exclusive (insertAdd state number call) ↔ Alone state (.insert number) := by
  by_cases hPhase : call.phase = .checked
  · have hIdle := not_pending hCall (by rw [hPhase]; rfl)
    rw [alone_insert hCall hPhase, insertAdd, hPhase]
    dsimp only
    constructor
    · intro hNext
      obtain ⟨hPending, hNone⟩ := alone_of_insert hIdle hNext
      refine ⟨?_, hNone⟩
      by_contra hTimeout
      rw [if_pos (UInt32.not_le.mp hTimeout)] at hPending
      cases hPending
    · intro hOne
      obtain ⟨hTimeout, hNone⟩ := hOne
      rw [if_neg (UInt32.not_lt.mpr hTimeout)]
      exact insert_exclusive h hIdle hNone
  · have hSame : insertAdd state number call = state := by
      unfold insertAdd
      cases hCase : call.phase with
      | checked => exact absurd hCase hPhase
      | started => rfl
      | waiting => rfl
      | expired => rfl
      | returned => rfl
    rw [hSame]
    refine iff_of_true h fun found hFound hChecked => ?_
    rw [hCall, Option.some.injEq] at hFound
    exact absurd (hFound ▸ hChecked) hPhase

/-- Every event keeps the waiters apart exactly when it is alone. -/
theorem forwardStep_exclusive_iff (event : ForwardEvent) (h : Exclusive state)
    (hSound : Sound state) : Exclusive (forwardStep state event) ↔ Alone state event := by
  cases event with
  | start number eui timeout => exact iff_of_true (start_exclusive h number eui timeout) trivial
  | check number =>
      exact iff_of_true (onCall_keeps h fun _ hCall => check_exclusive h hCall) trivial
  | insert number =>
      rw [forwardStep, onCall]
      cases hCall : state.calls number with
      | none =>
          refine iff_of_true h fun call hFound => ?_
          rw [hCall] at hFound
          cases hFound
      | some call => exact insert_exclusive_iff h hCall
  | expire number =>
      exact iff_of_true (onCall_keeps h fun _ hCall => expire_exclusive h hCall) trivial
  | clean number =>
      exact iff_of_true (onCall_keeps h fun _ hCall => clean_exclusive h hCall) trivial
  | take uplink eui => exact iff_of_true (take_exclusive h uplink eui) trivial
  | send uplink => exact iff_of_true (send_exclusive h hSound uplink) trivial

/-- At the start nobody waits. -/
theorem initial_exclusive : Exclusive ForwardState.initial :=
  Exclusive.of_backed (fun eui owner hSlot => by cases hSlot)
    (fun eui first second hFirst _ => by obtain ⟨call, hCall, _⟩ := hFirst; cases hCall)
    fun drop hDrop => by cases hDrop

/-- The table stays exclusive throughout a run exactly if every insertion is
made by a call that goes on to wait alone. -/
theorem exclusive_iff_alone (events : List ForwardEvent) :
    Along forwardStep Exclusive ForwardState.initial events ↔
      Meets forwardStep Alone ForwardState.initial events :=
  along_iff_meets (fun _ event hSound h _ => forwardStep_sound event hSound h.backed)
    (fun _ event hSound h => forwardStep_exclusive_iff event h hSound) _ events initial_sound
    initial_exclusive

/-- A call with a time over 60 returns and leaves its entry. -/
def staleEntry : List ForwardEvent := [.start 0 ⟨5⟩ 61, .check 0, .insert 0]

theorem entry_outlives_call : ¬∀ events : List ForwardEvent,
    Along forwardStep Exclusive ForwardState.initial events := by
  intro h
  obtain ⟨call, hCall, hPending, _⟩ := (h staleEntry 3).backed ⟨5⟩ 0 (by decide)
  have hReturned : (run forwardStep ForwardState.initial (staleEntry.take 3)).calls 0 =
      some { eui := ⟨5⟩, timeout := 61, phase := .returned } := by decide
  rw [hReturned, Option.some.injEq] at hCall
  rw [← hCall] at hPending
  cases hPending

end SnapEmu.Mqtt
