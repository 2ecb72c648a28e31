import SnapEmu.LoRa.Counter

/-! The switch of a node to the session of a pending join, on the first frame
made with the keys of that session. -/
namespace SnapEmu.LoRa

open Device Semantics

variable {Plain : Type} {world : World Plain} {payload : LoRaPayload Plain} {data : PushData}
  {devAddr : LoRaAddr} {upCount : UInt16} {now : Timestamp} {otaaInfo : LoRaOTAANodeInfo}

/-- The node found for an address is the one cached there from then on. -/
theorem getNodeWithGateway_ok {found : World Plain} {node : LoRaNode}
    (hNode : getNodeWithGateway world devAddr = (found, .ok node)) :
    NodeInfo.loadByAddr found.store devAddr = .ok (some node.info) ∧ found.otaa = world.otaa ∧
      found.loraNodes = world.loraNodes ∧ found.queue = world.queue := by
  unfold getNodeWithGateway at hNode
  split at hNode
  · simp at hNode
  · rename_i info hLoad
    simp only [Prod.mk.injEq, Except.ok.injEq] at hNode
    obtain ⟨rfl, rfl⟩ := hNode
    exact ⟨hLoad, rfl, rfl, rfl⟩
  · rename_i hLoad
    split at hNode
    · simp at hNode
    · rename_i row hRow
      split at hNode
      · simp at hNode
      · simp only [Prod.mk.injEq, Except.ok.injEq] at hNode
        obtain ⟨rfl, rfl⟩ := hNode
        have hAddr : row.devAddr = devAddr := by simpa using List.find?_some hRow
        refine ⟨?_, rfl, rfl, rfl⟩
        simp only [NodeInfo.registerToRedis, NodeInfo.register, NodeInfo.loadByAddr, hAddr,
          Function.update_self, NodeHash.load_eq_none hLoad, NodeHash.load_write_empty]

/-- The keys and counters of a record. -/
structure SameSession (first second : NodeInfo) : Prop where
  nwkSkey : first.nwkSkey = second.nwkSkey
  appSkey : first.appSkey = second.appSkey
  upCount : first.upCount = second.upCount
  downCount : first.downCount = second.downCount

/-- The hash on a switch: the session of the switched copy, but both counters
are that of the first frame. -/
theorem load_activateHash {hash : NodeHash} {node : LoRaNode}
    (hLoad : hash.load = .ok (some node.info)) :
    ∃ stored, (activateHash hash (node.activate otaaInfo).info upCount).load = .ok (some stored) ∧
      SameSession stored { (node.activate otaaInfo).info with
        upCount := upCount.toUInt32, downCount := upCount.toUInt32 } := by
  have hNwkSkey := NodeHash.load_set hLoad .nwkSkey otaaInfo.nwkSkey rfl
  have hAppSkey := NodeHash.load_set hNwkSkey .appSkey otaaInfo.appSkey rfl
  have hDevNon := NodeHash.load_set hAppSkey .devNon otaaInfo.devNonce.toUInt32.toInt32 rfl
  have hNetId := NodeHash.load_set hDevNon .netId otaaInfo.netId.toInt32 rfl
  have hAppNon := NodeHash.load_set hNetId .appNon otaaInfo.appNonce.toInt32 rfl
  have hUpCount := NodeHash.load_set hAppNon .upCount upCount.toUInt32 rfl
  have hDownCount := NodeHash.load_set hUpCount .downCount upCount.toUInt32 rfl
  exact ⟨_, hDownCount, rfl, rfl, rfl, rfl⟩

/-- A frame with a pending join is processed as one of its session, in a
cache that holds the switched record. -/
theorem decodeEncPayload_pending (data : PushData) (now : Timestamp) {found : World Plain}
    {node : LoRaNode}
    (hNode : getNodeWithGateway world devAddr = (found, .ok node))
    (hAddr : node.info.devAddr = devAddr) (hPending : world.otaa devAddr = some otaaInfo)
    (hFirst : upCount < 5)
    (hMade : payload.MadeWith otaaInfo.nwkSkey otaaInfo.appSkey upCount.toUInt32)
    {row : DeviceLoraNodeModel} (hRow : row ∈ world.loraNodes)
    (hDevice : row.deviceId = node.info.deviceId) :
    ∃ switched : World Plain, switched.queue = world.queue ∧
      (∃ stored, NodeInfo.loadByAddr switched.store devAddr = .ok (some stored) ∧
        SameSession stored { (node.activate otaaInfo).info with
          upCount := upCount.toUInt32, downCount := upCount.toUInt32 }) ∧
      (decodeEncPayload world payload devAddr upCount data now).2 =
        (decodeNodePayload switched payload (node.activate otaaInfo) upCount data).2 := by
  obtain ⟨hLoad, hOtaa, hRows, hQueue⟩ := getNodeWithGateway_ok hNode
  obtain ⟨plain, hPlain⟩ := Option.isSome_iff_exists.mp ((hMade.accepts _).mpr rfl)
  obtain ⟨dbInfo, hDbInfo⟩ : ∃ dbInfo,
      world.loraNodes.find? (fun row => row.deviceId = node.info.deviceId) = some dbInfo := by
    rw [← Option.isSome_iff_exists, List.find?_isSome]
    exact ⟨row, hRow, by simpa using hDevice⟩
  rw [← hOtaa] at hPending
  rw [← hRows] at hDbInfo
  simp only [decodeEncPayload, hNode, hFirst, if_true, getOtaaInfo, hAddr, hPending, hPlain,
    switchSession, hDbInfo]
  refine ⟨_, ?_, ?_, rfl⟩
  · exact hQueue
  · rw [NodeInfo.loadByAddr, NodeStore.setHash_self]
    exact load_activateHash hLoad

/-- Without a row of the device the switch fails. -/
theorem decodeEncPayload_deleted {found : World Plain} {node : LoRaNode}
    (hNode : getNodeWithGateway world devAddr = (found, .ok node))
    (hAddr : node.info.devAddr = devAddr) (hPending : world.otaa devAddr = some otaaInfo)
    (hFirst : upCount < 5)
    (hMade : payload.MadeWith otaaInfo.nwkSkey otaaInfo.appSkey upCount.toUInt32)
    (hRow : ∀ row ∈ world.loraNodes, row.deviceId ≠ node.info.deviceId) :
    (decodeEncPayload world payload devAddr upCount data now).2 = .error .empty := by
  obtain ⟨_, hOtaa, hRows, _⟩ := getNodeWithGateway_ok hNode
  obtain ⟨plain, hPlain⟩ := Option.isSome_iff_exists.mp ((hMade.accepts _).mpr rfl)
  have hDbInfo : found.loraNodes.find? (fun row => row.deviceId = node.info.deviceId) = none := by
    rw [List.find?_eq_none, hRows]
    exact fun row hMem => by simpa using hRow row hMem
  rw [← hOtaa] at hPending
  simp only [decodeEncPayload, hNode, hFirst, if_true, getOtaaInfo, hAddr, hPending, hPlain,
    switchSession, hDbInfo]

/-- A decoded frame is handed over when the queue has no entry of its node. -/
theorem decodeNodePayload_ok {node decoded : LoRaNode} {store : NodeStore} {plain : Plain}
    (hNew : isRepetition node upCount = false)
    (hDecode : payloadDecode world.store node payload upCount = .ok (plain, store, decoded)) :
    (decodeNodePayload world payload node upCount data).2 =
      if (world.queue decoded.info.devAddr).isNone then
        .ok [⟨⟨data, payload, plain⟩, decoded, store⟩]
      else .ok [] := by
  unfold decodeNodePayload
  rw [if_neg (by rw [hNew]; exact Bool.false_ne_true), hDecode]
  cases hQueue : world.queue decoded.info.devAddr with
  | none => simp [DataCache.insert, DedupCache.insert, DataCache.get, hQueue]
  | some queue =>
      simp only [DataCache.insert, DedupCache.insert, hQueue]
      split_ifs <;> simp_all

/-- The first frame of a pending session is handed over once, by the counter
guessed for it, with the node copy as the new session is stored. -/
def Switches (world : World Plain) (payload : LoRaPayload Plain) (devAddr : LoRaAddr)
    (upCount : UInt16) (data : PushData) (now : Timestamp) (otaaInfo : LoRaOTAANodeInfo) : Prop :=
  ∃ delivery, (decodeEncPayload world payload devAddr upCount data now).2 = .ok [delivery] ∧
    delivery.item.payload = payload ∧
    newUpCount delivery.node.info.upCount upCount = upCount.toUInt32 ∧
    delivery.node.info.nwkSkey = otaaInfo.nwkSkey ∧ delivery.node.info.appSkey = otaaInfo.appSkey ∧
    ∃ stored, NodeInfo.loadByAddr delivery.store devAddr = .ok (some stored) ∧
      SameSession delivery.node.info stored

/-- The stored counter is its own reconstruction. -/
theorem newUpCount_self (upCount : UInt16) :
    newUpCount upCount.toUInt32 upCount = upCount.toUInt32 := by
  have hRange : ¬(1 : UInt32) <<< 15 = 0 := by decide
  simpa [newUpCount] using hRange

variable {found : World Plain} {node : LoRaNode}

/-- How the first frame fares against the counter of the copy. -/
theorem payloadDecode_first (store : NodeStore) (node : LoRaNode)
    (hMade : payload.MadeWith node.info.nwkSkey node.info.appSkey upCount.toUInt32) :
    ∃ plain, payloadDecode store node payload upCount =
      if newUpCount node.info.upCount upCount = upCount.toUInt32 then
        .ok (plain, node.updateUpCount store upCount.toUInt32, node)
      else
        let (store, node) := node.resetDownCount (node.updateUpCount store upCount.toUInt32)
        .ok (plain, store, node) := by
  obtain ⟨plain, _, hDecode⟩ := payloadDecode_admission store hMade
  have hWire : payload.fcnt = upCount := by rw [hMade.fcnt, UInt16.toUInt16_toUInt32]
  have hSmall : upCount.toUInt32 < 0x10000 := wire_eq_iff.mp (by rw [UInt16.toUInt16_toUInt32])
  refine ⟨plain, ?_⟩
  rw [← hWire, hDecode, hWire, admission, UInt16.toUInt16_toUInt32]
  split_ifs <;> rfl

/-- After the first frame the new session is stored with that counter. -/
theorem load_first {store : NodeStore} {stored : NodeInfo} (hAddr : node.info.devAddr = devAddr)
    (hStored : NodeInfo.loadByAddr store devAddr = .ok (some stored)) :
    (((node.activate otaaInfo).updateUpCount store upCount.toUInt32).node devAddr).load =
      .ok (some { stored with upCount := upCount.toUInt32 }) := by
  subst hAddr
  exact load_updateUpCount (node.activate otaaInfo) _ hStored

/-- A first frame whose counter stands stored already is no repetition if it
is 0 or 1. -/
theorem isRepetition_first (node : LoRaNode) (hUpCount : node.info.upCount = upCount.toUInt32) :
    isRepetition node upCount = false ↔ upCount ≤ 1 := by
  rw [isRepetition_eq_false, hUpCount, UInt16.toUInt16_toUInt32, ← UInt16.toNat_inj,
    ← UInt16.toNat_inj, UInt16.le_iff_toNat_le, show (0 : UInt16).toNat = 0 by rfl,
    show (1 : UInt16).toNat = 1 by rfl]
  simp only [ne_eq, not_true_eq_false, false_or]
  omega

/-- What it takes for the switch to succeed: the row of the device is there,
no other frame of the node is queued, and both counters of the old session
happen to equal that of the first frame, which is 0 or 1. -/
theorem Switches.counters (h : Switches world payload devAddr upCount data now otaaInfo)
    (hNode : getNodeWithGateway world devAddr = (found, .ok node))
    (hAddr : node.info.devAddr = devAddr) (hPending : world.otaa devAddr = some otaaInfo)
    (hFirst : upCount < 5)
    (hMade : payload.MadeWith otaaInfo.nwkSkey otaaInfo.appSkey upCount.toUInt32) :
    (∃ row ∈ world.loraNodes, row.deviceId = node.info.deviceId) ∧ world.queue devAddr = none ∧
      node.info.upCount = upCount.toUInt32 ∧ node.info.downCount = upCount.toUInt32 ∧
      upCount ≤ 1 := by
  obtain ⟨delivery, hResult, _, hGuess, _, _, record, hRecord, hSame⟩ := h
  have hRow : ∃ row ∈ world.loraNodes, row.deviceId = node.info.deviceId := by
    by_contra hNone
    push Not at hNone
    rw [decodeEncPayload_deleted hNode hAddr hPending hFirst hMade hNone] at hResult
    cases hResult
  refine ⟨hRow, ?_⟩
  obtain ⟨row, hMem, hDevice⟩ := hRow
  obtain ⟨switched, hQueue, ⟨stored, hStored, hSession⟩, hEq⟩ :=
    decodeEncPayload_pending data now hNode hAddr hPending hFirst hMade hMem hDevice
  rw [hEq] at hResult
  have hNew : isRepetition (node.activate otaaInfo) upCount = false := by
    by_contra hOld
    rw [decodeNodePayload, if_pos (Bool.of_not_eq_false hOld)] at hResult
    simp at hResult
  obtain ⟨plain, hDecode⟩ := payloadDecode_first switched.store (node.activate otaaInfo) hMade
  split_ifs at hDecode with hGuessed
  · rw [decodeNodePayload_ok hNew hDecode] at hResult
    split_ifs at hResult with hFree
    · simp only [Except.ok.injEq, List.cons.injEq, and_true] at hResult
      subst hResult
      rw [NodeInfo.loadByAddr, load_first hAddr hStored, Except.ok.injEq, Option.some.injEq]
        at hRecord
      subst hRecord
      have hUpCount : node.info.upCount = upCount.toUInt32 := hSame.upCount
      have hDownCount : node.info.downCount = upCount.toUInt32 :=
        hSame.downCount.trans hSession.downCount
      refine ⟨?_, hUpCount, hDownCount, ?_⟩
      · rw [← hQueue, ← hAddr]
        exact Option.isNone_iff_eq_none.mp hFree
      · exact (isRepetition_first (node.activate otaaInfo) hUpCount).mp hNew
    · simp at hResult
  · rw [decodeNodePayload_ok hNew hDecode] at hResult
    split_ifs at hResult
    · simp only [Except.ok.injEq, List.cons.injEq, and_true] at hResult
      subst hResult
      exact absurd hGuess hGuessed
    · simp at hResult

/-- The switch succeeds exactly then. -/
theorem decodeEncPayload_switches
    (hNode : getNodeWithGateway world devAddr = (found, .ok node))
    (hAddr : node.info.devAddr = devAddr) (hPending : world.otaa devAddr = some otaaInfo)
    (hFirst : upCount < 5)
    (hMade : payload.MadeWith otaaInfo.nwkSkey otaaInfo.appSkey upCount.toUInt32) :
    Switches world payload devAddr upCount data now otaaInfo ↔
      (∃ row ∈ world.loraNodes, row.deviceId = node.info.deviceId) ∧ world.queue devAddr = none ∧
        node.info.upCount = upCount.toUInt32 ∧ node.info.downCount = upCount.toUInt32 ∧
        upCount ≤ 1 := by
  refine ⟨fun h => h.counters hNode hAddr hPending hFirst hMade, ?_⟩
  rintro ⟨⟨row, hMem, hDevice⟩, hFree, hUpCount, hDownCount, hSmall⟩
  obtain ⟨switched, hQueue, ⟨stored, hStored, hSession⟩, hEq⟩ :=
    decodeEncPayload_pending data now hNode hAddr hPending hFirst hMade hMem
      hDevice
  have hNew : isRepetition (node.activate otaaInfo) upCount = false :=
    (isRepetition_first (node.activate otaaInfo) hUpCount).mpr hSmall
  have hGuess : newUpCount (node.activate otaaInfo).info.upCount upCount = upCount.toUInt32 := by
    rw [show (node.activate otaaInfo).info.upCount = upCount.toUInt32 from hUpCount,
      newUpCount_self]
  obtain ⟨plain, hDecode⟩ := payloadDecode_first switched.store (node.activate otaaInfo) hMade
  rw [if_pos hGuess] at hDecode
  have hNone : (switched.queue (node.activate otaaInfo).info.devAddr).isNone := by
    rw [show (node.activate otaaInfo).info.devAddr = devAddr from hAddr, hQueue, hFree]
    rfl
  refine ⟨⟨⟨data, payload, plain⟩, node.activate otaaInfo,
    (node.activate otaaInfo).updateUpCount switched.store upCount.toUInt32⟩, ?_, rfl, hGuess, rfl,
    rfl, _, load_first hAddr hStored, ?_⟩
  · rw [hEq, decodeNodePayload_ok hNew hDecode, if_pos hNone]
  · exact ⟨hSession.nwkSkey.symm, hSession.appSkey.symm, hUpCount,
      hDownCount.trans hSession.downCount.symm⟩

/-- A cached node of which a join is pending. -/
def sampleWorld (info : NodeInfo) : World Unit where
  store := sampleStore info
  otaa := fun _ => some ⟨default, default, 7, 8, 9⟩
  loraNodes := [{ (default : DeviceLoraNodeModel) with deviceId := info.deviceId }]
  devices := []
  queue := fun _ => none

theorem getNodeWithGateway_sampleWorld (info : NodeInfo) :
    getNodeWithGateway (sampleWorld info) info.devAddr = (sampleWorld info, .ok ⟨info⟩) := by
  have hLoad : NodeInfo.loadByAddr (sampleWorld info).store info.devAddr = .ok (some info) :=
    loadByAddr_sampleStore info
  rw [getNodeWithGateway, hLoad]

/-- A fresh node and a first frame with counter 0. -/
theorem decodeEncPayload_switches_sample :
    Switches (sampleWorld (sampleInfo 0 0)) (sampleFrame 0) (sampleInfo 0 0).devAddr 0 ⟨⟨-60⟩⟩ ⟨0⟩
      ⟨default, default, 7, 8, 9⟩ := by
  have hNode := getNodeWithGateway_sampleWorld (sampleInfo 0 0)
  have hMade := sampleFrame_madeWith default default (0 : UInt16).toUInt32
  exact (decodeEncPayload_switches hNode rfl rfl (by decide) hMade).mpr
    ⟨⟨_, List.mem_singleton_self _, rfl⟩, rfl, rfl, rfl, by decide⟩

/-- The old session stood at counter 3, and so does the first frame. -/
theorem first_frame_dropped :
    ¬ ∀ (world found : World Unit) (payload : LoRaPayload Unit) (devAddr : LoRaAddr)
        (upCount : UInt16) (data : PushData) (now : Timestamp) (otaaInfo : LoRaOTAANodeInfo)
        (node : LoRaNode),
      getNodeWithGateway world devAddr = (found, .ok node) → node.info.devAddr = devAddr →
      world.otaa devAddr = some otaaInfo → upCount < 5 →
      payload.MadeWith otaaInfo.nwkSkey otaaInfo.appSkey upCount.toUInt32 →
      Switches world payload devAddr upCount data now otaaInfo := by
  intro h
  have hNode := getNodeWithGateway_sampleWorld (sampleInfo 3 3)
  have hMade := sampleFrame_madeWith default default (3 : UInt16).toUInt32
  have hSwitches := h _ _ _ _ 3 ⟨⟨-60⟩⟩ ⟨0⟩ ⟨default, default, 7, 8, 9⟩ _ hNode rfl rfl (by decide)
    hMade
  obtain ⟨_, _, _, _, hSmall⟩ := hSwitches.counters hNode rfl rfl (by decide) hMade
  exact absurd hSmall (by decide)

end SnapEmu.LoRa
