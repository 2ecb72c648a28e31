import SnapEmu.Mqtt.Process

/-! Users apart: what a client of one user publishes does not reach the
filters of another, and is taken for a message of its own user. -/
namespace SnapEmu.Mqtt

open Device Semantics Exec Text TopicFilter Network

variable {u v : Id}

/-- The text in front of the topics of a user, with its levels. -/
theorem topicPrefix_append (id : Id) (text : Str) :
    (setMqttAuth id).topicPrefix ++ text = ascii "user" ++ 47 :: (Id.toText id ++ text) := by
  rw [setMqttAuth, List.append_assoc]
  rfl

/-- A publish that packs keeps its payload and gets the prefix of its user. -/
theorem packed_topic {publish packed : Publish} {properties properties' : Option PublishProperties}
    (h : (setMqttAuth u).packTopic (.Publish publish properties) =
      ok (.Publish packed properties')) :
    packed = { publish with topic := (setMqttAuth u).topicPrefix ++ publish.topic } := by
  rw [packTopic, ok.injEq, Packet.Publish.injEq] at h
  exact h.1.symm

/-- Accepted filters start with a slash. -/
theorem packed_filter {subscribe packed : Subscribe}
    (h : (setMqttAuth v).packTopic (.Subscribe subscribe) = ok (.Subscribe packed)) :
    (∀ filter ∈ subscribe.filters, ∃ rest, filter.path = 47 :: rest) ∧
      packed.filters = subscribe.filters.map fun filter =>
        { filter with path := (setMqttAuth v).topicPrefix ++ filter.path } := by
  rw [packTopic] at h
  split_ifs at h with hSlash
  rw [ok.injEq, Packet.Subscribe.injEq] at h
  refine ⟨fun filter hMem => ?_, by rw [← h]⟩
  have hHead := List.all_eq_true.mp hSlash filter hMem
  rw [decide_eq_true_eq] at hHead
  exact List.head?_eq_some_iff.mp hHead

/-- The levels of a packed topic: the second starts with the text of the user,
whether or not the topic starts with a slash. -/
theorem levels_packed (id : Id) (topic : Str) :
    ∃ piece rest, levels ((setMqttAuth id).topicPrefix ++ topic) =
      ascii "user" :: (Id.toText id ++ piece) :: rest := by
  obtain ⟨piece, rest, _, hLevels⟩ := splitOn_append (slash_notMem_hexText id.value) topic
  refine ⟨piece, rest, ?_⟩
  rw [topicPrefix_append, levels_append (by decide)]
  exact congrArg _ hLevels

/-- The first two levels of a packed filter are the user's. -/
theorem levels_packed_filter (id : Id) (rest : Str) :
    levels ((setMqttAuth id).topicPrefix ++ 47 :: rest) =
      ascii "user" :: Id.toText id :: levels rest := by
  have hSlash : 47 ∉ Id.toText id := slash_notMem_hexText id.value
  rw [topicPrefix_append, levels_append (by decide), levels_append hSlash]

/-- The text of one user does not continue that of another. -/
theorem toText_ne (h : u ≠ v) (piece : Str) : Id.toText v ≠ Id.toText u ++ piece := by
  intro hText
  have hLength := congrArg List.length hText
  rw [List.length_append, Id.toText, Id.toText, hexText_length, hexText_length] at hLength
  have hEmpty : piece = [] := List.length_eq_zero_iff.mp (by omega)
  rw [hEmpty, List.append_nil] at hText
  exact h (congrArg Id.mk (hexText_injective hText)).symm

/-- A literal level of a filter that differs from the topic stops the router. -/
theorem matchFrom_literal {filter topic : Str} {filters topics : List Str}
    (hFilter : filter.length ≠ 1) (hTopic : filter ≠ topic) :
    matchFrom (filter :: filters) (topic :: topics) = false := by
  have hHash : filter ≠ [35] := fun hEq => hFilter (by rw [hEq]; rfl)
  have hPlus : filter ≠ [43] := fun hEq => hFilter (by rw [hEq]; rfl)
  rw [matchFrom, if_neg hHash, if_neg hPlus, if_pos hTopic, ite_self]

theorem matchFrom_user (filters topics : List Str) :
    matchFrom (ascii "user" :: filters) (ascii "user" :: topics) = matchFrom filters topics := rfl

/-- No message of one user matches a filter of another. -/
def Separated (u v : Id) : Prop :=
  u ≠ v → ∀ publish properties packed properties' subscribe packedSubscribe,
    (setMqttAuth u).packTopic (.Publish publish properties) = ok (.Publish packed properties') →
    (setMqttAuth v).packTopic (.Subscribe subscribe) = ok (.Subscribe packedSubscribe) →
    ∀ filter ∈ packedSubscribe.filters,
      ¬Matches filter.path packed.topic ∧ topicMatches packed.topic filter.path = ok false

/-- No filter of one user matches a topic of another. -/
theorem separated (u v : Id) : Separated u v := by
  intro hNe publish properties packed properties' subscribe packedSubscribe hPublish hSubscribe
    filter hMem
  obtain ⟨hSlash, hFilters⟩ := packed_filter hSubscribe
  rw [hFilters] at hMem
  obtain ⟨original, hOriginal, rfl⟩ := List.mem_map.mp hMem
  obtain ⟨rest, hRest⟩ := hSlash original hOriginal
  obtain ⟨piece, topics, hTopic⟩ := levels_packed u publish.topic
  have hLength : (Id.toText v).length ≠ 1 := by
    rw [Id.toText, hexText_length]
    decide
  rw [packed_topic hPublish, hRest]
  refine ⟨fun hMatches => ?_, ?_⟩
  · have hLevels := hMatches.1
    rw [levels_packed_filter, hTopic] at hLevels
    obtain ⟨_, hUsers⟩ := matchLevels_literal (by decide) hLevels
    exact toText_ne hNe piece (matchLevels_literal hLength hUsers).1
  · have hRouter : matchFrom (levels ((setMqttAuth v).topicPrefix ++ 47 :: rest))
        (levels ((setMqttAuth u).topicPrefix ++ publish.topic)) = false := by
      rw [levels_packed_filter, hTopic, matchFrom_user]
      exact matchFrom_literal hLength (toText_ne hNe piece)
    exact congrArg ok hRouter

/-- A message is handled for the user of its connection, if at all. -/
def Attributed (u : Id) : Prop :=
  ∀ (Config : Type) (services : Services Config) (state : State) publish properties packed
    properties',
    (setMqttAuth u).packTopic (.Publish publish properties) = ok (.Publish packed properties') →
    let message : MqttMessage := { topic := packed.topic, payload := packed.payload }
    (∃ error, processMqtt services state message = fail error) ∨
      processMqtt services state message = done [] ∨
      processMqtt services state message = processGateway services state u message ∨
      processMqtt services state message = processDownlink services state u message

/-- A user is read back from the text of its number. -/
theorem fromStr_toText (id : Id) : Id.fromStr (Id.toText id) = .ok id := by
  rw [Id.fromStr, Id.toText, hexValue_hexText]
  rfl

/-- A text that continues that of a user is refused. -/
theorem fromStr_longer (id : Id) {piece : Str} (h : piece ≠ []) :
    ∃ error, Id.fromStr (Id.toText id ++ piece) = .error error := by
  have hLength := List.length_pos_iff.mpr h
  refine ⟨.len (ascii "id is error: " ++ (Id.toText id ++ piece)), ?_⟩
  rw [Id.fromStr, hexValue, if_pos]
  · rfl
  · rw [List.length_append, Id.toText, hexText_length]
    omega

/-- The second piece of a packed topic is a text that continues that of the user. -/
theorem splitN_packed (id : Id) (topic : Str) :
    ∃ piece rest, splitN 47 3 ((setMqttAuth id).topicPrefix ++ topic) =
      ascii "user" :: (Id.toText id ++ piece) :: rest := by
  rw [topicPrefix_append, splitN_append (by decide)]
  by_cases hSlash : 47 ∈ topic
  · obtain ⟨piece, rest, rfl, hPiece⟩ := List.eq_append_cons_of_mem hSlash
    refine ⟨piece, splitN 47 1 rest, ?_⟩
    have hNot : 47 ∉ Id.toText id ++ piece := by
      rw [List.mem_append, not_or]
      exact ⟨slash_notMem_hexText id.value, hPiece⟩
    rw [← List.append_assoc, splitN_append hNot]
  · refine ⟨topic, [], ?_⟩
    have hNot : 47 ∉ Id.toText id ++ topic := by
      rw [List.mem_append, not_or]
      exact ⟨slash_notMem_hexText id.value, hSlash⟩
    rw [splitN_notMem hNot]

/-- Every packed topic names its user. -/
theorem attributed (u : Id) : Attributed u := by
  intro Config services state publish properties packed properties' hPublish message
  obtain ⟨piece, rest, hSplit⟩ := splitN_packed u publish.topic
  have hTopic : splitN 47 3 message.topic = ascii "user" :: (Id.toText u ++ piece) :: rest := by
    rw [← hSplit, show message.topic = packed.topic from rfl, packed_topic hPublish]
  unfold processMqtt
  rw [hTopic]
  by_cases hPiece : piece = []
  · rw [hPiece, List.append_nil]
    simp only [List.getElem?_cons_succ, List.getElem?_cons_zero, fromStr_toText]
    cases rest[0]? with
    | none => exact .inl ⟨_, rfl⟩
    | some topic =>
        dsimp only
        split_ifs
        · exact .inr (.inr (.inl rfl))
        · exact .inr (.inr (.inr rfl))
        · exact .inr (.inl rfl)
  · obtain ⟨error, hError⟩ := fromStr_longer u hPiece
    simp only [List.getElem?_cons_succ, List.getElem?_cons_zero, hError]
    exact .inl ⟨_, rfl⟩

/-- No two users share a client identifier. -/
def DistinctClients (u v : Id) : Prop :=
  u ≠ v → ∀ clientId clientId', effectiveClientId u clientId ≠ effectiveClientId v clientId'

/-- Client identifiers of two users never coincide. -/
theorem distinctClients (u v : Id) : DistinctClients u v := by
  intro hNe clientId clientId' hEq
  rw [effectiveClientId, effectiveClientId, List.append_assoc, List.append_assoc] at hEq
  obtain ⟨hDigits, _⟩ := append_cons_inj (dot_notMem_decimal _) (dot_notMem_decimal _) hEq
  exact hNe (congrArg Id.mk (UInt64.toNat_inj.mp (decimal_injective hDigits)))

/-- What is sent back to a client is what it was before. Filters of a packet
that ends a subscription are strings of any kind. -/
structure Restored (u : Id) : Prop where
  publish : ∀ publish properties packet, publish.topic ≠ [] →
    (setMqttAuth u).packTopic (.Publish publish properties) = ok packet →
    (setMqttAuth u).unpackTopic packet = ok (.Publish publish properties)
  subscribe : ∀ subscribe packet, (setMqttAuth u).packTopic (.Subscribe subscribe) = ok packet →
    (setMqttAuth u).unpackTopic packet = ok (.Subscribe subscribe)
  unsubscribe : ∀ pkid (texts : List String) packet, (∀ text ∈ texts, text ≠ "") →
    (setMqttAuth u).packTopic (.Unsubscribe { pkid := pkid, filters := texts.map utf8 }) =
      ok packet →
    (setMqttAuth u).unpackTopic packet =
      ok (.Unsubscribe { pkid := pkid, filters := texts.map utf8 })

/-- Unpacking undoes packing for a filter that begins with a whole character. -/
theorem unpackFilter_packed {network : Network} {byte : UInt8} {rest : Str}
    (h : byte < 128 ∨ 192 ≤ byte) :
    network.unpackFilter (network.topicPrefix ++ byte :: rest) = ok (byte :: rest) := by
  have hLength : network.topicPrefix.length < (network.topicPrefix ++ byte :: rest).length := by
    simp
  have hBoundary : isCharBoundary (network.topicPrefix ++ byte :: rest)
      network.topicPrefix.length = true := by
    rw [isCharBoundary, List.getElem?_append_right (Nat.le_refl _), Nat.sub_self,
      List.getElem?_cons_zero, Option.any_some, Bool.or_eq_true, Bool.or_eq_true (decide _),
      decide_eq_true_eq, decide_eq_true_eq]
    exact .inr h
  rw [unpackFilter, if_pos hLength, strSlice_end, if_pos ⟨hLength.le, hBoundary⟩, List.drop_left]

/-- The same for a list of filters. -/
theorem unpackFilters_packed {network : Network} {filters : List Str}
    (h : ∀ filter ∈ filters, ∃ byte rest, filter = byte :: rest ∧ (byte < 128 ∨ 192 ≤ byte)) :
    network.unpackFilters (filters.map fun filter => network.topicPrefix ++ filter) =
      ok filters := by
  induction filters with
  | nil => rfl
  | cons filter filters ih =>
      obtain ⟨byte, rest, rfl, hByte⟩ := h filter List.mem_cons_self
      rw [List.map_cons, unpackFilters, unpackFilter_packed hByte, ok_bind,
        ih fun other hMem => h other (List.mem_cons_of_mem _ hMem), ok_bind]

/-- Each filter of a packet has its own text back. -/
theorem zipWith_path (filters : List Filter) (pack : Str → Str) :
    List.zipWith (fun (filter : Filter) path => { filter with path := path })
      (filters.map fun filter => { filter with path := pack filter.path })
      (filters.map Filter.path) = filters := by
  induction filters with
  | nil => rfl
  | cons filter filters ih =>
      rw [List.map_cons, List.map_cons, List.zipWith_cons_cons, ih]

/-- What a user sends and receives is named without the prefix. -/
theorem restored (u : Id) : Restored u where
  publish := by
    intro publish properties packet hTopic hPack
    rw [packTopic, ok.injEq] at hPack
    subst hPack
    have hLength := List.length_pos_iff.mpr hTopic
    rw [unpackTopic, if_pos (by rw [List.length_append]; omega)]
    simp only [List.drop_left]
  subscribe := by
    intro subscribe packet hPack
    rw [packTopic] at hPack
    split_ifs at hPack with hSlash
    rw [ok.injEq] at hPack
    subst hPack
    have hPaths : ∀ path ∈ subscribe.filters.map Filter.path,
        ∃ byte rest, path = byte :: rest ∧ (byte < 128 ∨ 192 ≤ byte) := by
      intro path hMem
      obtain ⟨filter, hFilter, rfl⟩ := List.mem_map.mp hMem
      have hHead := List.all_eq_true.mp hSlash filter hFilter
      rw [decide_eq_true_eq] at hHead
      obtain ⟨rest, hRest⟩ := List.head?_eq_some_iff.mp hHead
      exact ⟨47, rest, hRest, .inl (by decide)⟩
    have hPacked : (subscribe.filters.map fun filter : Filter =>
          { filter with path := (setMqttAuth u).topicPrefix ++ filter.path }).map Filter.path =
        (subscribe.filters.map Filter.path).map
          fun path => (setMqttAuth u).topicPrefix ++ path := by
      rw [List.map_map, List.map_map]
      rfl
    rw [unpackTopic]
    dsimp only
    rw [hPacked, unpackFilters_packed hPaths, ok_bind, zipWith_path]
  unsubscribe := by
    intro pkid texts packet hTexts hPack
    rw [packTopic, ok.injEq] at hPack
    subst hPack
    rw [unpackTopic]
    dsimp only
    rw [unpackFilters_packed, ok_bind]
    intro filter hMem
    obtain ⟨text, hText, rfl⟩ := List.mem_map.mp hMem
    exact utf8_head (hTexts text hText)

/-- The users of a server are isolated from each other. -/
theorem tenant_isolation (u v : Id) :
    Separated u v ∧ Attributed u ∧ DistinctClients u v ∧ Restored u :=
  ⟨separated u v, attributed u, distinctClients u v, restored u⟩

end SnapEmu.Mqtt
