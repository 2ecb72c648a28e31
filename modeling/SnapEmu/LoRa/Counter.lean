import SnapEmu.LoRa.Uplink

/-! Reconstruction of the 32-bit frame counter from its low half. -/
namespace SnapEmu.LoRa

open Device Semantics

variable {Plain : Type} {store : NodeStore} {node : LoRaNode} {payload : LoRaPayload Plain}
  {counter : UInt32}

/-- The guessed counter as a number. -/
theorem newUpCount_toNat (upCount : UInt32) (current : UInt16) :
    (newUpCount upCount current).toNat =
      let diff := (2 ^ 16 - upCount.toNat % 2 ^ 16 + current.toNat) % 2 ^ 16
      if diff < 2 ^ 15 then (upCount.toNat + diff) % 2 ^ 32
      else (upCount.toNat + 0x10000 + diff) % 2 ^ 32 := by
  have hDiff : (current - upCount.toUInt16).toUInt32.toNat =
      (2 ^ 16 - upCount.toNat % 2 ^ 16 + current.toNat) % 2 ^ 16 := by
    rw [UInt16.toNat_toUInt32, UInt16.toNat_sub, UInt32.toNat_toUInt16]
  have hBound : (current - upCount.toUInt16).toUInt32 < (1 : UInt32) <<< 15 ↔
      (2 ^ 16 - upCount.toNat % 2 ^ 16 + current.toNat) % 2 ^ 16 < 2 ^ 15 := by
    rw [UInt32.lt_iff_toNat_lt, hDiff]
    rfl
  unfold newUpCount
  dsimp only
  rw [apply_ite UInt32.toNat, if_congr hBound rfl rfl, UInt32.toNat_add, UInt32.toNat_add,
    UInt32.toNat_add, hDiff, show (0x10000 : UInt32).toNat = 0x10000 by rfl, Nat.mod_add_mod]

/-- The guess is right exactly when it should be: within half the range of
the wire counter ahead of the stored one, up to wrapping at `2 ^ 32`. -/
theorem newUpCount_ahead {upCount : UInt32} (hAhead : upCount < counter)
    (hGap : counter.toNat < upCount.toNat + 2 ^ 16) :
    newUpCount upCount counter.toUInt16 = counter ↔ counter.toNat < upCount.toNat + 2 ^ 15 := by
  have hCounter := counter.toNat_lt
  rw [UInt32.lt_iff_toNat_lt] at hAhead
  rw [← UInt32.toNat_inj, newUpCount_toNat, UInt32.toNat_toUInt16]
  dsimp only
  split_ifs with hDiff <;> omega

/-- How a frame made with a counter fares against the stored counter. -/
inductive Admission where
  | ahead
  | restart
  | refused
  deriving DecidableEq

def admission (upCount counter : UInt32) : Admission :=
  if newUpCount upCount counter.toUInt16 = counter then .ahead
  else if counter < 0x10000 then .restart
  else .refused

/-- The counter on the wire is the whole counter exactly below 2^16. -/
theorem wire_eq_iff : counter.toUInt16.toUInt32 = counter ↔ counter < 0x10000 := by
  rw [← UInt32.toNat_inj, UInt16.toNat_toUInt32, UInt32.toNat_toUInt16, UInt32.lt_iff_toNat_lt,
    show (0x10000 : UInt32).toNat = 2 ^ 16 by rfl]
  omega

/-- A genuine frame is accepted by the guess, else by its wire counter, else
not at all. -/
theorem payloadDecode_admission (store : NodeStore)
    (hMade : payload.MadeWith node.info.nwkSkey node.info.appSkey counter) :
    ∃ plain, payload.decryptMic node.info.nwkSkey node.info.appSkey counter = some plain ∧
      payloadDecode store node payload payload.fcnt =
        match admission node.info.upCount counter with
        | .ahead => .ok (plain, node.updateUpCount store counter, node)
        | .restart =>
            let (store, node) := node.resetDownCount (node.updateUpCount store counter)
            .ok (plain, store, node)
        | .refused => .error .lorawan := by
  obtain ⟨plain, hPlain⟩ := Option.isSome_iff_exists.mp ((hMade.accepts counter).mpr rfl)
  have hRefuse : ∀ other, other ≠ counter →
      payload.decryptMic node.info.nwkSkey node.info.appSkey other = none := by
    intro other hOther
    rw [← Option.not_isSome_iff_eq_none, hMade.accepts]
    exact hOther
  refine ⟨plain, hPlain, ?_⟩
  unfold payloadDecode admission
  rw [hMade.fcnt]
  by_cases hGuess : newUpCount node.info.upCount counter.toUInt16 = counter
  · simp only [hGuess, hPlain, if_true]
  · by_cases hWire : counter < 0x10000
    · simp only [hRefuse _ hGuess, wire_eq_iff.mpr hWire, hPlain, hGuess, hWire, if_true, if_false]
    · simp only [hRefuse _ hGuess, hRefuse _ (fun h => hWire (wire_eq_iff.mp h)), hGuess, hWire,
        if_false]

/-- The counter stored is the one loaded next. -/
theorem load_updateUpCount (node : LoRaNode) (counter : UInt32) {info : NodeInfo}
    (hLoad : (store.node node.info.devAddr).load = .ok (some info)) :
    ((node.updateUpCount store counter).node node.info.devAddr).load =
      .ok (some { info with upCount := counter }) := by
  rw [LoRaNode.updateUpCount, NodeInfo.updateByAddr, NodeStore.setHash_self,
    NodeHash.load_set hLoad .upCount counter rfl, NodeInfo.set_upCount]

/-- A reset stores zero and nothing else. -/
theorem load_resetDownCount {info : NodeInfo}
    (hLoad : (store.node node.info.devAddr).load = .ok (some info)) :
    ((node.resetDownCount store).1.node node.info.devAddr).load =
      .ok (some { info with downCount := 0 }) := by
  have hZero : ((store.node node.info.devAddr).set .downCount (0 : UInt32)).load =
      .ok (some (info.set .downCount (0 : UInt32))) := NodeHash.load_set hLoad .downCount 0 rfl
  rw [LoRaNode.resetDownCount, NodeInfo.updateByAddr, NodeStore.setHash_self, hZero,
    NodeInfo.set_downCount]

/-- A frame is no repetition when its counter differs, or is 0 or 1. -/
theorem isRepetition_eq_false {upCount : UInt16} :
    isRepetition node upCount = false ↔
      node.info.upCount.toUInt16 ≠ upCount ∨ upCount = 0 ∨ upCount = 1 := by
  simp only [isRepetition, Bool.and_eq_false_iff, beq_eq_false_iff_ne, Bool.not_eq_false',
    Bool.or_eq_true, beq_iff_eq]
  constructor
  · rintro (hOther | hZero | hOne)
    · exact Or.inl hOther
    · exact Or.inr (Or.inl hZero)
    · by_cases hSame : node.info.upCount.toUInt16 = upCount
      · exact Or.inr (Or.inr (hSame ▸ hOne))
      · exact Or.inl hSame
  · rintro (hOther | hZero | hOne)
    · exact Or.inl hOther
    · exact Or.inr (Or.inl hZero)
    · by_cases hSame : node.info.upCount.toUInt16 = upCount
      · exact Or.inr (Or.inr (hSame.trans hOne))
      · exact Or.inl hSame

/-- A frame ahead of the stored counter by less than the wire range differs
from it on the wire. -/
theorem isRepetition_ahead (hMade : payload.MadeWith node.info.nwkSkey node.info.appSkey counter)
    (hAhead : node.info.upCount < counter)
    (hGap : counter.toNat < node.info.upCount.toNat + 2 ^ 16) :
    isRepetition node payload.fcnt = false := by
  rw [isRepetition_eq_false, hMade.fcnt]
  left
  rw [UInt32.lt_iff_toNat_lt] at hAhead
  rw [ne_eq, ← UInt16.toNat_inj, UInt32.toNat_toUInt16, UInt32.toNat_toUInt16]
  omega

/-- The frame is accepted, its counter is stored, and nothing else changes:
neither the rest of the cached record nor the down counter of the copy. -/
def Follows (store : NodeStore) (node : LoRaNode) (payload : LoRaPayload Plain)
    (counter : UInt32) : Prop :=
  ∃ plain store' node', payloadDecode store node payload payload.fcnt = .ok (plain, store', node') ∧
    (store'.node node.info.devAddr).load = .ok (some { node.info with upCount := counter }) ∧
    node'.info.downCount = node.info.downCount

/-- A frame ahead by less than 2^16 follows exactly under the stated condition. -/
theorem follows_iff (hLoad : (store.node node.info.devAddr).load = .ok (some node.info))
    (hMade : payload.MadeWith node.info.nwkSkey node.info.appSkey counter)
    (hAhead : node.info.upCount < counter)
    (hGap : counter.toNat < node.info.upCount.toNat + 2 ^ 16) :
    Follows store node payload counter ↔
      counter.toNat < node.info.upCount.toNat + 2 ^ 15 ∨
        (counter < 0x10000 ∧ node.info.downCount = 0) := by
  obtain ⟨plain, _, hDecode⟩ := payloadDecode_admission store hMade
  unfold Follows
  rw [hDecode, admission, if_congr (newUpCount_ahead hAhead hGap) rfl rfl]
  have hStored : ((node.updateUpCount store counter).node node.info.devAddr).load =
      .ok (some { node.info with upCount := counter }) := load_updateUpCount _ _ hLoad
  split_ifs with hNear hSmall
  · simp only [hNear, true_or, iff_true]
    exact ⟨_, _, _, rfl, hStored, rfl⟩
  · simp only [hNear, hSmall, true_and, false_or]
    constructor
    · rintro ⟨_, _, _, hOk, _, hDown⟩
      simp only [Except.ok.injEq, Prod.mk.injEq] at hOk
      rw [← hDown, ← hOk.2.2]
      rfl
    · intro hZero
      have hReset := load_resetDownCount hStored
      have hSame : { { node.info with upCount := counter } with downCount := 0 } =
          { node.info with upCount := counter } := NodeInfo.downCount_self hZero
      exact ⟨_, _, _, rfl, hReset.trans (congrArg (fun info => Except.ok (some info)) hSame),
        hZero.symm⟩
  · refine iff_of_false ?_ (not_or.mpr ⟨hNear, fun hRestart => hSmall hRestart.1⟩)
    rintro ⟨_, _, _, hError, _⟩
    cases hError

/-- What a frame does to the cache through one copy of its node, and whether
it is accepted. -/
def receive (store : NodeStore) (node : LoRaNode) (payload : LoRaPayload Plain) :
    NodeStore × Bool :=
  if isRepetition node payload.fcnt then (store, false)
  else
    match payloadDecode store node payload payload.fcnt with
    | .ok (_, store, _) => (store, true)
    | .error _ => (store, false)

/-- Of the whole decoding only the reception writes the store. -/
theorem decodeNodePayload_store (world : World Plain) (data : PushData) :
    (decodeNodePayload world payload node payload.fcnt data).1.store =
      (receive world.store node payload).1 := by
  unfold decodeNodePayload receive
  split_ifs with hRepetition
  · rfl
  · cases hDecode : payloadDecode world.store node payload payload.fcnt with
    | error error => rfl
    | ok result =>
        obtain ⟨plain, decoded, copy⟩ := result
        dsimp only
        split_ifs
        · split <;> rfl
        · rfl

/-- A frame through a copy loaded for it. -/
def receiveAt (addr : LoRaAddr) (store : NodeStore) (payload : LoRaPayload Plain) : NodeStore :=
  match NodeInfo.loadByAddr store addr with
  | .ok (some info) => (receive store ⟨info⟩ payload).1
  | _ => store

/-- A counter that follows another by less than half the wire range. -/
def Near (previous next : UInt32) : Prop :=
  previous < next ∧ next.toNat < previous.toNat + 2 ^ 15

/-- A frame that is near the stored counter advances it. -/
theorem receive_near
    (hLoad : NodeInfo.loadByAddr store node.info.devAddr = .ok (some node.info))
    (hMade : payload.MadeWith node.info.nwkSkey node.info.appSkey counter)
    (hNear : Near node.info.upCount counter) :
    NodeInfo.loadByAddr (receive store node payload).1 node.info.devAddr =
      .ok (some { node.info with upCount := counter }) := by
  have hGap : counter.toNat < node.info.upCount.toNat + 2 ^ 16 := by
    have hHalf := hNear.2
    omega
  obtain ⟨plain, decoded, copy, hDecode, hStored, _⟩ :=
    (follows_iff hLoad hMade hNear.1 hGap).mpr (Or.inl hNear.2)
  rw [receive, isRepetition_ahead hMade hNear.1 hGap, if_neg Bool.false_ne_true, hDecode]
  exact hStored

/-- A near frame through its own copy changes nothing but the counter. -/
theorem receiveAt_near {info : NodeInfo} {current : UInt32}
    (hLoad : NodeInfo.loadByAddr store info.devAddr = .ok (some { info with upCount := current }))
    (hMade : payload.MadeWith info.nwkSkey info.appSkey counter) (hNear : Near current counter) :
    NodeInfo.loadByAddr (receiveAt info.devAddr store payload) info.devAddr =
      .ok (some { info with upCount := counter }) := by
  rw [receiveAt, hLoad]
  let copy : LoRaNode := ⟨{ info with upCount := current }⟩
  have hCopy : NodeInfo.loadByAddr store copy.info.devAddr = .ok (some copy.info) := hLoad
  have hFrame : payload.MadeWith copy.info.nwkSkey copy.info.appSkey counter := hMade
  exact receive_near hCopy hFrame hNear

/-- Along frames with near counters the cached counter is that of the last. -/
theorem run_receiveAt {payloads : List (LoRaPayload Plain)} {counters : List UInt32}
    {info : NodeInfo} {current : UInt32}
    (hLoad : NodeInfo.loadByAddr store info.devAddr = .ok (some { info with upCount := current }))
    (hMade : List.Forall₂ (fun payload counter =>
      payload.MadeWith info.nwkSkey info.appSkey counter) payloads counters)
    (hChain : List.IsChain Near (current :: counters)) :
    NodeInfo.loadByAddr (run (receiveAt info.devAddr) store payloads) info.devAddr =
      .ok (some { info with upCount := counters.getLastD current }) := by
  induction hMade generalizing store current with
  | nil => exact hLoad
  | @cons payload counter payloads counters hFrame hRest ih =>
      rw [List.isChain_cons_cons] at hChain
      rw [run_cons, ih (receiveAt_near hLoad hFrame hChain.1) hChain.2]
      cases counters <;> rfl

/-- A frame within the wire range of the stored counter is never taken for a
repetition. It is followed exactly when its counter is within half the range,
or is a wire counter while the down counter stands at zero; and frames within
half the range keep the stored counter equal to theirs. -/
theorem payloadDecode_follows
    (hLoad : NodeInfo.loadByAddr store node.info.devAddr = .ok (some node.info))
    (hMade : payload.MadeWith node.info.nwkSkey node.info.appSkey counter)
    (hAhead : node.info.upCount < counter)
    (hGap : counter.toNat < node.info.upCount.toNat + 2 ^ 16) :
    (isRepetition node payload.fcnt = false ∧ Follows store node payload counter ↔
      counter.toNat < node.info.upCount.toNat + 2 ^ 15 ∨
        (counter < 0x10000 ∧ node.info.downCount = 0)) ∧
    ∀ (payloads : List (LoRaPayload Plain)) (counters : List UInt32),
      List.Forall₂ (fun payload counter =>
        payload.MadeWith node.info.nwkSkey node.info.appSkey counter) payloads counters →
      List.IsChain Near (node.info.upCount :: counters) →
      NodeInfo.loadByAddr (run (receiveAt node.info.devAddr) store payloads) node.info.devAddr =
        .ok (some { node.info with upCount := counters.getLastD node.info.upCount }) := by
  have hStart : NodeInfo.loadByAddr store node.info.devAddr =
      .ok (some { node.info with upCount := node.info.upCount }) := hLoad
  refine ⟨?_, fun payloads counters hFrames hChain => run_receiveAt hStart hFrames hChain⟩
  rw [isRepetition_ahead hMade hAhead hGap, follows_iff hLoad hMade hAhead hGap]
  simp only [true_and]

/-- A frame whose check passes for its own counter only. -/
def sampleFrame (counter : UInt32) : LoRaPayload Unit :=
  ⟨default, counter.toUInt16, none, false,
    fun _ _ other => if other = counter then some () else none⟩

theorem sampleFrame_madeWith (nwkSkey appSkey : Key) (counter : UInt32) :
    (sampleFrame counter).MadeWith nwkSkey appSkey counter where
  fcnt := rfl
  accepts other := by simp [sampleFrame]

/-- A cache with one node. -/
def sampleStore (info : NodeInfo) : NodeStore :=
  NodeStore.empty.setHash info.devAddr (NodeHash.empty.write info)

theorem loadByAddr_sampleStore (info : NodeInfo) :
    NodeInfo.loadByAddr (sampleStore info) info.devAddr = .ok (some info) := by
  rw [NodeInfo.loadByAddr, sampleStore, NodeStore.setHash_self, NodeHash.load_write_empty]

/-- A node in use, with the given stored counters. -/
def sampleInfo (upCount downCount : UInt32) : NodeInfo :=
  { (default : NodeInfo) with upCount := upCount, downCount := downCount }

/-- One lost frame across a 16-bit roll-over. -/
theorem payloadDecode_follows_sample :
    Follows (sampleStore (sampleInfo 65535 3)) ⟨sampleInfo 65535 3⟩ (sampleFrame 65537) 65537 :=
  ((payloadDecode_follows (loadByAddr_sampleStore (sampleInfo 65535 3))
    (sampleFrame_madeWith _ _ 65537) (by decide) (by decide)).1.mpr (Or.inl (by decide))).2

/-- After 40000 frames the next one is refused. -/
theorem payloadDecode_long_gap :
    ¬ ∀ (store : NodeStore) (node : LoRaNode) (payload : LoRaPayload Unit) (counter : UInt32),
      NodeInfo.loadByAddr store node.info.devAddr = .ok (some node.info) →
      payload.MadeWith node.info.nwkSkey node.info.appSkey counter →
      node.info.upCount < counter → counter.toNat < node.info.upCount.toNat + 2 ^ 16 →
      Follows store node payload counter := by
  intro h
  have hLoad := loadByAddr_sampleStore (sampleInfo 100000 3)
  have hMade := sampleFrame_madeWith (sampleInfo 100000 3).nwkSkey (sampleInfo 100000 3).appSkey
    140000
  have hFollows := h _ ⟨sampleInfo 100000 3⟩ _ _ hLoad hMade (by decide) (by decide)
  have hIff : Follows (sampleStore (sampleInfo 100000 3)) ⟨sampleInfo 100000 3⟩
      (sampleFrame 140000) 140000 ↔ _ := follows_iff hLoad hMade (by decide) (by decide)
  exact absurd (hIff.mp hFollows) (by decide)

end SnapEmu.LoRa
