import Mathlib.Logic.Function.Basic
import SnapEmu.Device.Types
import SnapEmu.Semantics.Pacing

/-! The slots in which messages to class C devices are sent by a gateway. -/
namespace SnapEmu.Gateway

open Device Semantics

/-- The next free instant of each gateway that has sent something. -/
structure GatewayTimeline where
  map : Eui → Option Nat

namespace GatewayTimeline

def empty : GatewayTimeline := ⟨fun _ => none⟩

/-- `TIME_DURATION`, in microseconds. -/
def timeDuration : Nat := 2000000

def insert (timeline : GatewayTimeline) (gateway : Eui) (instant : Nat) : GatewayTimeline :=
  ⟨Function.update timeline.map gateway (some instant)⟩

/-- `get_time`, with the clock as it is read under the lock. -/
def getTime (timeline : GatewayTimeline) (gateway : Eui) (now : Nat) : GatewayTimeline × Nat :=
  match timeline.map gateway with
  | none => (timeline.insert gateway (now + timeDuration), 0)
  | some pre =>
      if pre < now then (timeline.insert gateway (now + timeDuration), 0)
      else (timeline.insert gateway (pre + timeDuration), pre - now)

end GatewayTimeline

structure TimeCall where
  gateway : Eui
  now : Nat
  deriving DecidableEq

/-- A call and the wait it was given. -/
structure Slot where
  call : TimeCall
  wait : Nat
  deriving DecidableEq

def Slot.instant (slot : Slot) : Nat := slot.call.now + slot.wait

namespace GatewayTimeline

/-- The slots of a sequence of calls. -/
def slots : GatewayTimeline → List TimeCall → List Slot
  | _, [] => []
  | timeline, call :: calls =>
      ⟨call, (timeline.getTime call.gateway call.now).2⟩ ::
        slots (timeline.getTime call.gateway call.now).1 calls

end GatewayTimeline

def readings (gateway : Eui) (calls : List TimeCall) : List Nat :=
  (calls.filter (·.gateway = gateway)).map TimeCall.now

def instants (gateway : Eui) (slots : List Slot) : List Nat :=
  (slots.filter (·.call.gateway = gateway)).map Slot.instant

namespace GatewayTimeline

/-- What the map says about the last instant granted to a gateway. -/
def Follows (timeline : GatewayTimeline) (gateway : Eui) (last : Option Nat) : Prop :=
  timeline.map gateway = last.map (· + timeDuration)

variable {timeline : GatewayTimeline} {gateway : Eui} {last : Option Nat}

/-- A reservation is what later calls of the same gateway follow. -/
theorem follows_insert (instant : Nat) :
    (timeline.insert gateway (instant + timeDuration)).Follows gateway (some instant) := by
  simp [Follows, insert]

/-- A reservation of another gateway does not disturb it. -/
theorem follows_insert_other {other : Eui} (instant : Nat) (hOther : gateway ≠ other)
    (h : timeline.Follows gateway last) : (timeline.insert other instant).Follows gateway last := by
  change Function.update timeline.map other (some instant) gateway = last.map (· + timeDuration)
  rw [Function.update_of_ne hOther]
  exact h

/-- A call grants the next paced instant, and the map follows it. -/
theorem getTime_grant (now : Nat) (h : timeline.Follows gateway last) :
    now + (timeline.getTime gateway now).2 = Pacing.grant timeDuration last now ∧
      (timeline.getTime gateway now).1.Follows gateway
        (some (Pacing.grant timeDuration last now)) := by
  cases last with
  | none =>
      have hMissing : timeline.map gateway = none := h
      simp only [getTime, hMissing, Pacing.grant]
      exact ⟨Nat.add_zero now, follows_insert now⟩
  | some last =>
      have hStored : timeline.map gateway = some (last + timeDuration) := h
      simp only [getTime, hStored, Pacing.grant]
      by_cases hFree : last + timeDuration < now
      · rw [if_pos hFree, Nat.max_eq_left (Nat.le_of_lt hFree)]
        exact ⟨Nat.add_zero now, follows_insert now⟩
      · -- at a tie the wait is zero and both branches would store the same
        rw [if_neg hFree, Nat.max_eq_right (Nat.le_of_not_lt hFree)]
        exact ⟨Nat.add_sub_of_le (Nat.le_of_not_lt hFree), follows_insert _⟩

/-- A slot given to another gateway does not disturb it. -/
theorem getTime_other {other : Eui} (now : Nat) (hOther : gateway ≠ other)
    (h : timeline.Follows gateway last) : (timeline.getTime other now).1.Follows gateway last := by
  rw [getTime]
  split
  · exact follows_insert_other _ hOther h
  · split
    · exact follows_insert_other _ hOther h
    · exact follows_insert_other _ hOther h

/-- The instants of one gateway are paced by its own calls only. -/
theorem instants_slots (calls : List TimeCall) (h : timeline.Follows gateway last) :
    instants gateway (timeline.slots calls) =
      Pacing.grants timeDuration last (readings gateway calls) := by
  induction calls generalizing timeline last with
  | nil => rfl
  | cons call calls ih =>
      by_cases hSame : call.gateway = gateway
      · subst hSame
        have hGrant := getTime_grant call.now h
        have hRest := ih hGrant.2
        simp only [slots, instants, readings, List.filter_cons, decide_true, if_true,
          List.map_cons, Pacing.grants, Slot.instant] at hRest ⊢
        rw [hGrant.1, hRest]
      · have hRest := ih (getTime_other call.now (Ne.symm hSame) h)
        simpa [slots, instants, readings, List.filter_cons, hSame] using hRest

/-- At the start nothing is reserved. -/
theorem follows_empty (gateway : Eui) : empty.Follows gateway none := rfl

/-- The instants of a gateway, over any calls for any gateways: each is the
call's own time or a slot after the last instant, so they keep the distance
in the order of the calls, and calls for other gateways do not matter. -/
theorem slots_paced (calls : List TimeCall) (gateway : Eui) :
    instants gateway (empty.slots calls) =
        Pacing.grants timeDuration none (readings gateway calls) ∧
      (instants gateway (empty.slots calls)).Pairwise
        (fun earlier later => earlier + timeDuration ≤ later) ∧
      List.Forall₂ (· ≤ ·) (readings gateway calls) (instants gateway (empty.slots calls)) ∧
      ∀ others, readings gateway others = readings gateway calls →
        instants gateway (empty.slots others) = instants gateway (empty.slots calls) := by
  have hPaced := fun calls => instants_slots calls (follows_empty gateway)
  refine ⟨hPaced calls, ?_, ?_, fun others hSame => ?_⟩
  · rw [hPaced]
    exact Pacing.grants_spaced none _
  · rw [hPaced]
    exact Pacing.grants_after none _
  · rw [hPaced, hPaced, hSame]

end GatewayTimeline
end SnapEmu.Gateway
