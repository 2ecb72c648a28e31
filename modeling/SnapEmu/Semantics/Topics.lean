import Mathlib.Data.List.Basic
import Mathlib.Logic.Function.Basic
import Mathlib.Tactic.SplitIfs

/-! Channels by topic. A channel is opened by the first subscription of a
topic and given up when something is published on it that nobody receives. -/
namespace Semantics.Topics

structure Receiver (κ : Type) where
  number : Nat
  topic : κ
  channel : Nat
  deriving DecidableEq

/-- The channel stored for each topic, the receivers that are not dropped,
and what was delivered to which receiver, in order. -/
structure State (κ ε : Type) where
  stored : κ → Option Nat
  receivers : List (Receiver κ)
  nextChannel : Nat
  nextReceiver : Nat
  delivered : List (Nat × ε)

variable {κ ε : Type}

namespace State

def empty : State κ ε := ⟨fun _ => none, [], 0, 0, []⟩

def join (state : State κ ε) (topic : κ) (channel : Nat) : State κ ε :=
  { state with
    receivers := state.receivers ++ [⟨state.nextReceiver, topic, channel⟩]
    nextReceiver := state.nextReceiver + 1 }

def drop (state : State κ ε) (number : Nat) : State κ ε :=
  { state with receivers := state.receivers.filter (·.number ≠ number) }

/-- The receivers a channel has. -/
def listeners (state : State κ ε) (channel : Nat) : List (Receiver κ) :=
  state.receivers.filter (·.channel = channel)

def deliver (state : State κ ε) (receivers : List (Receiver κ)) (event : ε) : State κ ε :=
  { state with
    delivered := state.delivered ++ receivers.map fun receiver => (receiver.number, event) }

/-- Receivers have numbers of their own and are on the channel stored for
their topic, and no channel is stored twice. -/
structure Attached (state : State κ ε) : Prop where
  current : ∀ receiver ∈ state.receivers, state.stored receiver.topic = some receiver.channel
  known : ∀ topic channel, state.stored topic = some channel → channel < state.nextChannel
  distinct : ∀ first second channel, state.stored first = some channel →
    state.stored second = some channel → first = second
  numbered : ∀ receiver ∈ state.receivers, receiver.number < state.nextReceiver
  single : (state.receivers.map Receiver.number).Nodup

variable {state : State κ ε} {topic : κ}

/-- At the start nobody is subscribed. -/
theorem attached_empty : (empty : State κ ε).Attached where
  current _ h := by simp [empty] at h
  known _ _ h := by simp [empty] at h
  distinct _ _ _ h := by simp [empty] at h
  numbered _ h := by simp [empty] at h
  single := .nil

/-- A receiver joins the channel that is stored. -/
theorem Attached.join (h : state.Attached) {channel : Nat}
    (hStored : state.stored topic = some channel) : (state.join topic channel).Attached where
  current receiver hReceiver := by
    rcases List.mem_append.mp hReceiver with hOld | hNew
    · exact h.current receiver hOld
    · obtain rfl := List.mem_singleton.mp hNew
      exact hStored
  known := h.known
  distinct := h.distinct
  numbered receiver hReceiver := by
    rcases List.mem_append.mp hReceiver with hOld | hNew
    · exact Nat.lt_succ_of_lt (h.numbered receiver hOld)
    · obtain rfl := List.mem_singleton.mp hNew
      exact Nat.lt_succ_self _
  single := by
    simp only [State.join, List.map_append, List.map_cons, List.map_nil]
    refine List.nodup_append.mpr ⟨h.single, by simp, ?_⟩
    intro number hOld other hNew
    obtain ⟨receiver, hReceiver, rfl⟩ := List.mem_map.mp hOld
    obtain rfl := List.mem_singleton.mp hNew
    exact Nat.ne_of_lt (h.numbered receiver hReceiver)

/-- Dropping a receiver keeps the others attached. -/
theorem Attached.drop (h : state.Attached) (number : Nat) : (state.drop number).Attached where
  current receiver hReceiver := h.current receiver (List.mem_of_mem_filter hReceiver)
  known := h.known
  distinct := h.distinct
  numbered receiver hReceiver := h.numbered receiver (List.mem_of_mem_filter hReceiver)
  single := h.single.sublist (List.filter_sublist.map _)

section

variable [DecidableEq κ]

def addChannel (state : State κ ε) (topic : κ) : State κ ε :=
  { state with
    stored := Function.update state.stored topic (some state.nextChannel)
    nextChannel := state.nextChannel + 1 }

def subscribe (state : State κ ε) (topic : κ) : State κ ε :=
  match state.stored topic with
  | none => (state.addChannel topic).join topic state.nextChannel
  | some channel => state.join topic channel

/-- The receivers that were obtained for a topic. -/
def subscribers (state : State κ ε) (topic : κ) : List (Receiver κ) :=
  state.receivers.filter (·.topic = topic)

def remove (state : State κ ε) (topic : κ) : State κ ε :=
  { state with stored := Function.update state.stored topic none }

def publish (state : State κ ε) (topic : κ) (event : ε) : State κ ε :=
  match state.stored topic with
  | none => state
  | some channel =>
      if state.listeners channel = [] then state.remove topic
      else state.deliver (state.listeners channel) event

/-- A channel is added where none is stored. -/
theorem Attached.addChannel (h : state.Attached) (hMissing : state.stored topic = none) :
    (state.addChannel topic).Attached where
  current receiver hReceiver := by
    have hCurrent := h.current receiver hReceiver
    have hOther : receiver.topic ≠ topic := by
      rintro rfl
      rw [hMissing] at hCurrent
      cases hCurrent
    exact (Function.update_of_ne hOther _ _).trans hCurrent
  known other channel hStored := by
    simp only [State.addChannel, Function.update_apply] at hStored ⊢
    split_ifs at hStored
    · cases hStored
      exact Nat.lt_succ_self _
    · exact Nat.lt_succ_of_lt (h.known other channel hStored)
  distinct first second channel hFirst hSecond := by
    simp only [State.addChannel, Function.update_apply] at hFirst hSecond
    split_ifs at hFirst hSecond with hOne hTwo hTwo
    · exact hOne.trans hTwo.symm
    · -- the new channel is not one that was stored before
      cases hFirst
      exact absurd (h.known second _ hSecond) (Nat.lt_irrefl _)
    · cases hSecond
      exact absurd (h.known first _ hFirst) (Nat.lt_irrefl _)
    · exact h.distinct first second channel hFirst hSecond
  numbered := h.numbered
  single := h.single

/-- Subscribing finds or adds the channel, and joins it. -/
theorem Attached.subscribe (h : state.Attached) (topic : κ) : (state.subscribe topic).Attached := by
  rw [State.subscribe]
  cases hStored : state.stored topic with
  | none => exact (h.addChannel hStored).join (Function.update_self topic _ _)
  | some channel => exact h.join hStored

/-- The listeners of a stored channel are the subscribers of its topic. -/
theorem Attached.listeners_eq (h : state.Attached) {channel : Nat}
    (hStored : state.stored topic = some channel) :
    state.listeners channel = state.subscribers topic := by
  apply List.filter_congr
  intro receiver hReceiver
  have hCurrent := h.current receiver hReceiver
  apply decide_eq_decide.mpr
  constructor
  · rintro rfl
    exact h.distinct _ _ _ hCurrent hStored
  · rintro rfl
    exact Option.some.inj (hCurrent.symm.trans hStored)

/-- A topic without a channel has no subscribers. -/
theorem Attached.subscribers_nil (h : state.Attached) (hMissing : state.stored topic = none) :
    state.subscribers topic = [] := by
  apply List.filter_eq_nil_iff.mpr
  intro receiver hReceiver hTopic
  have hCurrent := h.current receiver hReceiver
  rw [of_decide_eq_true hTopic, hMissing] at hCurrent
  cases hCurrent

/-- A channel without subscribers may be removed. -/
theorem Attached.remove (h : state.Attached) (hNobody : state.subscribers topic = []) :
    (state.remove topic).Attached where
  current receiver hReceiver := by
    have hOther : receiver.topic ≠ topic := fun hTopic =>
      List.filter_eq_nil_iff.mp hNobody receiver hReceiver (decide_eq_true hTopic)
    exact (Function.update_of_ne hOther _ _).trans (h.current receiver hReceiver)
  known other channel hStored := by
    simp only [State.remove, Function.update_apply] at hStored
    split_ifs at hStored
    exact h.known other channel hStored
  distinct first second channel hFirst hSecond := by
    simp only [State.remove, Function.update_apply] at hFirst hSecond
    split_ifs at hFirst hSecond
    exact h.distinct first second channel hFirst hSecond
  numbered := h.numbered
  single := h.single

/-- What is published is delivered once to each subscriber of its topic. -/
theorem Attached.publish_delivered (h : state.Attached) (topic : κ) (event : ε) :
    (state.publish topic event).delivered =
      state.delivered ++
        (state.subscribers topic).map fun receiver => (receiver.number, event) := by
  rw [publish]
  cases hStored : state.stored topic with
  | none => simp [h.subscribers_nil hStored]
  | some channel =>
      dsimp only
      rw [h.listeners_eq hStored]
      split_ifs with hNobody
      · rw [hNobody, List.map_nil, List.append_nil]
        rfl
      · rfl

/-- A topic that nobody listens to has no channel afterwards. -/
theorem Attached.publish_removed (h : state.Attached) (event : ε)
    (hNobody : state.subscribers topic = []) : (state.publish topic event).stored topic = none := by
  rw [publish]
  cases hStored : state.stored topic with
  | none => exact hStored
  | some channel =>
      dsimp only
      rw [h.listeners_eq hStored, if_pos hNobody]
      exact Function.update_self topic _ _

/-- Publishing keeps every receiver attached. -/
theorem Attached.publish (h : state.Attached) (topic : κ) (event : ε) :
    (state.publish topic event).Attached := by
  rw [State.publish]
  cases hStored : state.stored topic with
  | none => exact h
  | some channel =>
      dsimp only
      rw [h.listeners_eq hStored]
      split_ifs with hNobody
      · exact h.remove hNobody
      · exact ⟨h.current, h.known, h.distinct, h.numbered, h.single⟩

end

end State
end Semantics.Topics
