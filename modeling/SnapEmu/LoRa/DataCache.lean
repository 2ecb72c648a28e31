import Mathlib.Data.Prod.Lex
import SnapEmu.Device.NodeStore
import SnapEmu.Semantics.DedupCache

/-! Received uplinks and the two de-duplication caches of their path: decoded
frames by device address, and join requests by application and device EUI.
Decryption with its integrity check belongs to the frame parser and is a
function of the two session keys and the full counter. -/
namespace SnapEmu.LoRa

open Device Semantics

/-- The packet report, as far as uplink processing compares it. -/
structure RXPK where
  rssi : Int32
  deriving DecidableEq

structure PushData where
  pk : RXPK
  deriving DecidableEq

structure LoRaPayload (Plain : Type) where
  devAddr : LoRaAddr
  fcnt : UInt16
  fPort : Option UInt8
  isConfirmed : Bool
  decryptMic : Key → Key → UInt32 → Option Plain

/-- The frame was made under these keys with this counter: the wire carries
the low half of it, and the check passes for no other counter. -/
structure LoRaPayload.MadeWith {Plain : Type} (payload : LoRaPayload Plain) (nwkSkey appSkey : Key)
    (counter : UInt32) : Prop where
  fcnt : payload.fcnt = counter.toUInt16
  accepts : ∀ other, (payload.decryptMic nwkSkey appSkey other).isSome ↔ other = counter

variable {Plain : Type}

structure DataItem (Plain : Type) where
  push : PushData
  payload : LoRaPayload Plain
  data : Plain

structure RequestJoin where
  appEui : Eui
  devEui : Eui
  devNonce : UInt16
  deriving DecidableEq

/-- `tokio::time::sleep` of the winner, in milliseconds. -/
def window : Nat := 200

/-- `tokio::time::sleep` of the removal started by each insertion. -/
def lifetime : Nat := 10 * 1000

namespace DataCache

abbrev Map (Plain : Type) := LoRaAddr → Option (DataItem Plain)

/-- A later frame replaces the entry, an equal one only with better signal. -/
def replaces (queue item : DataItem Plain) : Bool :=
  queue.payload.fcnt < item.payload.fcnt ||
    (queue.payload.fcnt == item.payload.fcnt && item.push.pk.rssi > queue.push.pk.rssi)

def insert (map : Map Plain) (addr : LoRaAddr) (push : PushData) (payload : LoRaPayload Plain)
    (data : Plain) : Map Plain × Bool :=
  DedupCache.insert replaces map addr ⟨push, payload, data⟩

def get (map : Map Plain) (addr : LoRaAddr) : Map Plain × Option (DataItem Plain) :=
  (DedupCache.remove map addr, map addr)

abbrev State (Plain : Type) := DedupCache.State LoRaAddr (DataItem Plain)

abbrev Event (Plain : Type) := DedupCache.Event LoRaAddr (DataItem Plain)

def step : State Plain → Event Plain → State Plain := DedupCache.step replaces window lifetime

/-- Frames are ranked by counter, then by signal. -/
def rank (item : DataItem Plain) : ℕ ×ₗ ℤ :=
  toLex (item.payload.fcnt.toNat, item.push.pk.rssi.toInt)

/-- A copy replaces the queued one when its signal is better. -/
theorem replaces_iff (queue item : DataItem Plain) :
    replaces queue item ↔ rank queue < rank item := by
  simp only [replaces, rank, Prod.Lex.toLex_lt_toLex, Bool.or_eq_true, decide_eq_true_eq,
    Bool.and_eq_true, beq_iff_eq, UInt16.lt_iff_toNat_lt, gt_iff_lt, Int32.lt_iff_toInt_lt,
    UInt16.toNat_inj]

/-- What a winner is owed: an item with a counter at least its own, of the
greatest counter seen since, and of the best signal among those with that
counter. -/
def Delivered (taken : DedupCache.Taken LoRaAddr (DataItem Plain)) : Prop :=
  ∃ item, taken.item = some item ∧ taken.winner.item.payload.fcnt ≤ item.payload.fcnt ∧
    item ∈ taken.winner.since ∧
    ∀ other ∈ taken.winner.since, other.payload.fcnt ≤ item.payload.fcnt ∧
      (other.payload.fcnt = item.payload.fcnt → other.push.pk.rssi ≤ item.push.pk.rssi)

/-- The copy taken is delivered when it is the best of its group. -/
theorem delivered_of_best {taken : DedupCache.Taken LoRaAddr (DataItem Plain)}
    {item : DataItem Plain} (hItem : taken.item = some item)
    (hBest : taken.winner.Best rank item) : Delivered taken := by
  have hSince : ∀ other ∈ taken.winner.since, other.payload.fcnt ≤ item.payload.fcnt ∧
      (other.payload.fcnt = item.payload.fcnt → other.push.pk.rssi ≤ item.push.pk.rssi) := by
    intro other hOther
    have hRank := hBest.greatest other hOther
    simp only [rank, Prod.Lex.toLex_le_toLex] at hRank
    rw [UInt16.le_iff_toNat_le, Int32.le_iff_toInt_le]
    rcases hRank with hLess | ⟨hSame, hSignal⟩
    · refine ⟨hLess.le, fun hEqual => ?_⟩
      rw [hEqual] at hLess
      exact (lt_irrefl _ hLess).elim
    · exact ⟨hSame.le, fun _ => hSignal⟩
  exact ⟨item, hItem, (hSince _ hBest.own).1, hBest.mem, hSince⟩

/-- The winners still waiting, as if they took their entries now. -/
def pending (state : State Plain) : List (DedupCache.Taken LoRaAddr (DataItem Plain)) :=
  state.winners.map fun winner => ⟨winner, state.map winner.key⟩

/-- In every run in which each timer finds its address without an entry,
every winner is delivered what it is owed, and no timer removes an entry
opened after the insertion that started it. -/
theorem serves_winners (events : List (Event Plain))
    (hQuiet : Meets step DedupCache.QuietTimer DedupCache.init events) :
    let state := run step DedupCache.init events
    (∀ taken ∈ state.taken, Delivered taken) ∧ (∀ taken ∈ pending state, Delivered taken) ∧
      ∀ removal ∈ state.removals, removal.entry ≤ removal.timer := by
  intro state
  have hServed : DedupCache.Served rank state :=
    DedupCache.served_run replaces_iff events hQuiet
  refine ⟨?_, ?_, ?_⟩
  · intro taken hTaken
    obtain ⟨item, hItem, hBest⟩ := hServed.taken taken hTaken
    exact delivered_of_best hItem hBest
  · intro taken hTaken
    obtain ⟨winner, hWinner, rfl⟩ := List.mem_map.mp hTaken
    obtain ⟨item, hItem, hBest⟩ := hServed.entry winner hWinner
    exact delivered_of_best hItem hBest
  · simp [hServed.removals]

/-- A frame with the given counter and signal. -/
def sampleItem (fcnt : UInt16) (rssi : Int32) : DataItem Unit :=
  ⟨⟨⟨rssi⟩⟩, ⟨⟨1⟩, fcnt, none, false, fun _ _ _ => some ()⟩, ()⟩

/-- Three receptions of one frame, the strongest last, and its window. -/
theorem serves_winners_sample :
    let events : List (Event Unit) := [.insert ⟨1⟩ (sampleItem 7 (-90)),
      .insert ⟨1⟩ (sampleItem 7 (-60)), .wait 200, .get 0, .wait 9800, .expire 0, .expire 1]
    (run step DedupCache.init events).taken.length = 1 ∧
      ∀ taken ∈ (run step DedupCache.init events).taken, Delivered taken :=
  ⟨by decide, (serves_winners _ (by decide)).1⟩

/-- The timer of a first frame fires within the window of a second one, whose
winner then finds nothing. -/
theorem timer_removes_later_entry :
    ¬ ∀ events : List (Event Unit), let state := run step DedupCache.init events
      ∀ taken ∈ state.taken, Delivered taken := by
  intro h
  have hSome : ∀ taken ∈ (run step DedupCache.init [.insert ⟨1⟩ (sampleItem 7 (-90)), .wait 200,
      .get 0, .wait 9700, .insert ⟨1⟩ (sampleItem 8 (-90)), .wait 100, .expire 0, .wait 100,
      .get 1]).taken, taken.item.isSome := by
    intro taken hTaken
    obtain ⟨item, hItem, _⟩ := h _ taken hTaken
    simp [hItem]
  exact absurd hSome (by decide)

end DataCache

namespace RequestCache

abbrev Key := Eui × Eui

abbrev Map := Key → Option (PushData × RequestJoin)

/-- A repeated request replaces the entry with better signal. -/
def replaces (queue item : PushData × RequestJoin) : Bool := item.1.pk.rssi > queue.1.pk.rssi

def insert (map : Map) (push : PushData) (req : RequestJoin) : Map × Bool :=
  DedupCache.insert replaces map (req.appEui, req.devEui) (push, req)

def get (map : Map) (appEui devEui : Eui) : Map × Option (PushData × RequestJoin) :=
  (DedupCache.remove map (appEui, devEui), map (appEui, devEui))

def step : DedupCache.State Key (PushData × RequestJoin) →
    DedupCache.Event Key (PushData × RequestJoin) →
    DedupCache.State Key (PushData × RequestJoin) :=
  DedupCache.step replaces window lifetime

/-- With quiet timers the winner of a join request takes the one with the
best signal among those seen since. -/
theorem takes_strongest (events : List (DedupCache.Event Key (PushData × RequestJoin)))
    (hQuiet : Meets step DedupCache.QuietTimer DedupCache.init events) :
    ∀ taken ∈ (run step DedupCache.init events).taken, ∃ item, taken.item = some item ∧
      ∀ other ∈ taken.winner.since, other.1.pk.rssi ≤ item.1.pk.rssi := by
  have hReplaces : ∀ queue item, replaces queue item ↔
      queue.1.pk.rssi.toInt < item.1.pk.rssi.toInt := by
    simp [replaces, Int32.lt_iff_toInt_lt]
  intro taken hTaken
  obtain ⟨item, hItem, hBest⟩ := (DedupCache.served_run hReplaces events hQuiet).taken taken hTaken
  exact ⟨item, hItem, fun other hOther => Int32.le_iff_toInt_le.mpr (hBest.greatest other hOther)⟩

end RequestCache
end SnapEmu.LoRa
