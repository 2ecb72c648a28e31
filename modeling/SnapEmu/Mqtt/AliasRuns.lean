import Mathlib.Data.List.Forall2
import SnapEmu.Mqtt.Alias

/-! Runs of a connection against what its packets mean. They part where a
packet leaves its topic to an alias: by then the topic is not empty. -/
namespace SnapEmu.Mqtt

open Device Semantics Exec Text Network

variable {network : Network} {publish : Publish} {properties : Option PublishProperties}
  {session : Session} {expected : Expected}

/-- The message leaves its topic to an alias. -/
def UsesAlias (publish : Publish) (properties : Option PublishProperties) : Prop :=
  publish.topic = [] ∧ hasSubscriptionIdentifiers properties = false ∧
    ∃ topicAlias, properties.bind PublishProperties.topicAlias = some topicAlias ∧
      ¬(topicAlias = 0 ∨ topicAliasMax < topicAlias)

def packed (network : Network) (publish : Publish) : Publish :=
  { publish with topic := network.topicPrefix ++ publish.topic }

theorem hasSubscriptionIdentifiers_map (properties : Option PublishProperties) :
    hasSubscriptionIdentifiers
      (properties.map fun properties => { properties with topicAlias := none }) =
        hasSubscriptionIdentifiers properties := by
  cases properties with
  | none => rfl
  | some properties => rfl

/-- A packed topic is never empty, so every alias is bound to it. -/
theorem validate_packed (hText : network.topicPrefix ≠ []) (topicAliases : Aliases)
    {topicAlias : UInt16} (hRange : ¬(topicAlias = 0 ∨ topicAliasMax < topicAlias)) :
    validateAndSetTopicAlias (packed network publish) topicAliases topicAlias =
      if isUtf8 (packed network publish).topic then
        .ok (packed network publish,
          Function.update topicAliases topicAlias (some (packed network publish).topic))
      else .error .nonUtf8Topic := by
  have hTopic : (packed network publish).topic ≠ [] := by
    intro hEmpty
    exact hText (List.append_eq_nil_iff.mp hEmpty).1
  rw [validateAndSetTopicAlias, if_neg hRange, if_neg hTopic]

/-- What the router does with a packed message does not depend on the aliases. -/
theorem append_packed (hText : network.topicPrefix ≠ []) (topicAliases : Aliases) :
    (appendToCommitlog topicAliases (packed network publish) properties).map Prod.snd =
      if hasSubscriptionIdentifiers properties then .error (.disconnect .MalformedPacket)
      else match properties.bind PublishProperties.topicAlias with
        | none => (deliver network topicAliases publish properties publish.topic).map Prod.snd
        | some topicAlias =>
            if topicAlias = 0 ∨ topicAliasMax < topicAlias then
              .error (.disconnect .TopicAliasInvalid)
            else (deliver network topicAliases publish properties publish.topic).map Prod.snd := by
  rw [appendToCommitlog]
  dsimp only
  rw [hasSubscriptionIdentifiers_map]
  by_cases hIds : hasSubscriptionIdentifiers properties = true
  · rw [if_pos hIds, if_pos hIds]
    rfl
  · rw [if_neg hIds, if_neg hIds]
    have hTopic : (packed network publish).topic = network.topicPrefix ++ publish.topic := rfl
    cases hAlias : properties.bind PublishProperties.topicAlias with
    | none =>
        by_cases hUtf8 : isUtf8 (network.topicPrefix ++ publish.topic) = true
        · simp [deliver, hUtf8, Except.map, packed, bind, Except.bind]
        · simp [deliver, hUtf8, hTopic, Except.map, bind, Except.bind]
    | some topicAlias =>
        by_cases hRange : topicAlias = 0 ∨ topicAliasMax < topicAlias
        · simp only [validateAndSetTopicAlias, if_pos hRange]
          rfl
        · simp only [validate_packed hText topicAliases hRange, if_neg hRange]
          by_cases hUtf8 : isUtf8 (network.topicPrefix ++ publish.topic) = true
          · simp [deliver, hUtf8, Except.map, packed, bind, Except.bind]
          · simp [deliver, hUtf8, hTopic, Except.map, bind, Except.bind]

/-- The message delivered does not depend on the bound aliases. -/
theorem deliver_snd (bound bound' : Aliases) (topic : Str) :
    (deliver network bound publish properties topic).map Prod.snd =
      (deliver network bound' publish properties topic).map Prod.snd := by
  unfold deliver
  split_ifs
  · rfl
  · rfl

/-- A message that does not use an alias is appended as it should be. -/
theorem append_eq_named (hText : network.topicPrefix ≠ []) (hNot : ¬UsesAlias publish properties)
    (topicAliases bound : Aliases) :
    (appendToCommitlog topicAliases (packed network publish) properties).map Prod.snd =
      (named network bound publish properties).map Prod.snd := by
  rw [append_packed hText, named]
  by_cases hIds : hasSubscriptionIdentifiers properties = true
  · rw [if_pos hIds, if_pos hIds]
    rfl
  · rw [if_neg hIds, if_neg hIds]
    cases hAlias : properties.bind PublishProperties.topicAlias with
    | none => exact deliver_snd _ _ _
    | some topicAlias =>
        dsimp only
        by_cases hRange : topicAlias = 0 ∨ topicAliasMax < topicAlias
        · rw [if_pos hRange, if_pos hRange]
          rfl
        · have hTopic : publish.topic ≠ [] := by
            intro hEmpty
            exact hNot ⟨hEmpty, Bool.eq_false_iff.mpr hIds, topicAlias, hAlias, hRange⟩
          rw [if_neg hRange, if_neg hRange, if_neg hTopic]
          exact deliver_snd _ _ _

/-- A message that uses an alias is appended under the text of the user alone. -/
theorem append_usesAlias (hText : network.topicPrefix ≠ [])
    (hUtf8 : isUtf8 network.topicPrefix = true) (hUses : UsesAlias publish properties)
    (topicAliases : Aliases) :
    ∃ message, (appendToCommitlog topicAliases (packed network publish) properties).map Prod.snd =
      .ok message ∧ message.1.topic = network.topicPrefix := by
  obtain ⟨hTopic, hIds, topicAlias, hAlias, hRange⟩ := hUses
  rw [append_packed hText, if_neg (by rw [hIds]; decide), hAlias]
  dsimp only
  rw [if_neg hRange, deliver, if_pos (by rw [hTopic, List.append_nil]; exact hUtf8)]
  exact ⟨_, rfl, by rw [hTopic, List.append_nil]⟩

/-- All bound topics are topics of their own. -/
def NonemptyTopics (bound : Aliases) : Prop :=
  ∀ topicAlias topic, bound topicAlias = some topic → topic ≠ []

/-- A delivery binds nothing, and names the prefixed topic. -/
theorem deliver_eq_ok {bound bound' : Aliases} {topic : Str} {message : Message}
    (h : deliver network bound publish properties topic = .ok (bound', message)) :
    bound' = bound ∧ message.1.topic = network.topicPrefix ++ topic := by
  unfold deliver at h
  split_ifs at h
  rw [Except.ok.injEq, Prod.mk.injEq] at h
  obtain ⟨rfl, rfl⟩ := h
  exact ⟨rfl, rfl⟩

/-- What a message that uses an alias names is a topic of its own. -/
theorem named_usesAlias {bound bound' : Aliases} {message : Message} (hBound : NonemptyTopics bound)
    (hUses : UsesAlias publish properties)
    (h : named network bound publish properties = .ok (bound', message)) :
    message.1.topic ≠ network.topicPrefix := by
  obtain ⟨hTopic, hIds, topicAlias, hAlias, hRange⟩ := hUses
  rw [named, if_neg (by rw [hIds]; decide), hAlias] at h
  dsimp only at h
  rw [if_neg hRange, if_pos hTopic] at h
  cases hNamed : bound topicAlias with
  | none => simp [hNamed] at h
  | some topic =>
      rw [hNamed] at h
      obtain ⟨_, hMessage⟩ := deliver_eq_ok h
      intro hSame
      rw [hMessage] at hSame
      exact hBound topicAlias topic hNamed (List.append_right_eq_self.mp hSame)

/-- Aliases stay bound to topics with text in them. -/
theorem named_nonempty {bound bound' : Aliases} {message : Message} (hBound : NonemptyTopics bound)
    (h : named network bound publish properties = .ok (bound', message)) :
    NonemptyTopics bound' := by
  by_cases hIds : hasSubscriptionIdentifiers properties = true
  · rw [named, if_pos hIds] at h
    cases h
  · rw [named, if_neg hIds] at h
    cases hAlias : properties.bind PublishProperties.topicAlias with
    | none =>
        rw [hAlias] at h
        rw [(deliver_eq_ok h).1]
        exact hBound
    | some topicAlias =>
        rw [hAlias] at h
        dsimp only at h
        split_ifs at h with hRange hTopic
        · cases hNamed : bound topicAlias with
          | none => simp [hNamed] at h
          | some topic =>
              rw [hNamed] at h
              rw [(deliver_eq_ok h).1]
              exact hBound
        · rw [(deliver_eq_ok h).1]
          intro other topic hOther
          by_cases hSame : other = topicAlias
          · subst hSame
            rw [Function.update_self, Option.some.injEq] at hOther
            rw [← hOther]
            exact hTopic
          · rw [Function.update_of_ne hSame] at hOther
            exact hBound other topic hOther

/-- A recorded message, and what it was to be appended as. -/
def Recorded (network : Network) (message : Message) (result : Except RouterError Message) : Prop :=
  ∃ publish properties bound, NonemptyTopics bound ∧
    message = (packed network publish, properties) ∧
      result = (named network bound publish properties).map Prod.snd

structure Corresponds (network : Network) (pair : Session × Expected) : Prop where
  nonempty : NonemptyTopics pair.2.bound
  recorded : List.Forall₂ (Recorded network) pair.1.recorded pair.2.recorded

/-- The same messages have been appended, and both are connected or neither. -/
def Agree (pair : Session × Expected) : Prop :=
  pair.1.connected = pair.2.connected ∧ pair.1.appended = pair.2.appended

def pairStep (network : Network) (pair : Session × Expected) (packet : Packet) :
    Session × Expected :=
  (pair.1.step network packet, pair.2.step network packet)

/-- No message that uses an alias is appended. -/
def NamesItself (network : Network) (pair : Session × Expected) (packet : Packet) : Prop :=
  pair.1.connected = true →
    match packet with
    | .Publish publish properties => publish.qos ≠ .ExactlyOnce → ¬UsesAlias publish properties
    | .PubRel _ => ∀ message rest, pair.1.recorded = message :: rest →
        ¬UsesAlias
          { message.1 with topic := message.1.topic.drop network.topicPrefix.length } message.2
    | _ => True

theorem Session.append_recorded (session : Session) (publish : Publish)
    (properties : Option PublishProperties) :
    (session.append publish properties).recorded = session.recorded := by
  unfold Session.append
  split
  · rfl
  · rfl

theorem Expected.append_recorded (expected : Expected) (result : Except RouterError Message) :
    (expected.append result).recorded = expected.recorded ∧
      (expected.append result).bound = expected.bound := by
  cases result with
  | error error => exact ⟨rfl, rfl⟩
  | ok message => exact ⟨rfl, rfl⟩

/-- Where they agree, they go on to agree exactly if the message does not use
an alias. -/
theorem append_agree (hText : network.topicPrefix ≠ [])
    (hUtf8 : isUtf8 network.topicPrefix = true) {bound : Aliases} (hBound : NonemptyTopics bound)
    (hConnected : session.connected = true) (hAgree : Agree (session, expected)) :
    Agree (session.append (packed network publish) properties,
        expected.append ((named network bound publish properties).map Prod.snd)) ↔
      ¬UsesAlias publish properties := by
  obtain ⟨hSame, hAppended⟩ := hAgree
  dsimp only at hSame hAppended
  by_cases hUses : UsesAlias publish properties
  · refine iff_of_false ?_ (not_not.mpr hUses)
    obtain ⟨message, hMessage, hTopic⟩ :=
      append_usesAlias hText hUtf8 hUses session.topicAliases
    rw [Session.append]
    cases hResult : appendToCommitlog session.topicAliases (packed network publish) properties with
    | error error =>
        rw [hResult] at hMessage
        cases hMessage
    | ok result =>
        rw [hResult] at hMessage
        cases hMessage
        intro hNext
        cases hNamed : named network bound publish properties with
        | error error =>
            rw [hNamed] at hNext
            have hLost : true = false := hConnected.symm.trans hNext.1
            cases hLost
        | ok expectedResult =>
            rw [hNamed] at hNext
            have hLast : session.appended ++ [result.2] = expected.appended ++ [expectedResult.2] :=
              hNext.2
            rw [hAppended, List.append_cancel_left_eq, List.singleton_inj] at hLast
            have hOther : expectedResult.2.1.topic ≠ network.topicPrefix :=
              named_usesAlias hBound hUses hNamed
            rw [← hLast] at hOther
            exact hOther hTopic
  · refine iff_of_true ?_ hUses
    have hResult := append_eq_named hText hUses session.topicAliases bound
    rw [← hResult, Session.append]
    cases appendToCommitlog session.topicAliases (packed network publish) properties with
    | error error => exact ⟨rfl, hAppended⟩
    | ok result => exact ⟨hSame, congrArg (· ++ [result.2]) hAppended⟩

/-- A released message was packed when it was recorded. -/
theorem drop_packed (publish : Publish) :
    { packed network publish with
      topic := (packed network publish).topic.drop network.topicPrefix.length } = publish := by
  rw [packed, List.drop_left]

theorem Expected.bind_same (expected : Expected)
    (result : Except RouterError (Aliases × Message)) :
    (expected.bind result).connected = expected.connected ∧
      (expected.bind result).appended = expected.appended ∧
        (expected.bind result).recorded = expected.recorded := by
  cases result with
  | error error => exact ⟨rfl, rfl, rfl⟩
  | ok result => exact ⟨rfl, rfl, rfl⟩

/-- A publish that is appended at once. -/
theorem publish_agree_iff (hText : network.topicPrefix ≠ [])
    (hUtf8 : isUtf8 network.topicPrefix = true) (hConnected : session.connected = true)
    (hBound : NonemptyTopics expected.bound) (hAgree : Agree (session, expected)) :
    Agree (session.append (packed network publish) properties,
        (expected.bind (named network expected.bound publish properties)).append
          ((named network expected.bound publish properties).map Prod.snd)) ↔
      ¬UsesAlias publish properties := by
  obtain ⟨hSame, hAppended, _⟩ :=
    expected.bind_same (named network expected.bound publish properties)
  refine append_agree hText hUtf8 hBound hConnected ⟨?_, ?_⟩
  · exact hAgree.1.trans hSame.symm
  · exact hAgree.2.trans hAppended.symm

/-- A packet that packs is handled as the packed packet. -/
theorem session_step {packet packet' : Packet} (hConnected : session.connected = true)
    (hPack : network.packTopic packet = ok packet') :
    session.step network packet = session.handleDevicePayload packet' := by
  rw [Session.step, if_pos hConnected, hPack]

/-- A publish below level 2 is appended as packed. -/
theorem session_publish (hConnected : session.connected = true)
    (hQos : publish.qos ≠ .ExactlyOnce) :
    session.step network (.Publish publish properties) =
      session.append (packed network publish) properties := by
  have hPack : network.packTopic (.Publish publish properties) =
      ok (.Publish (packed network publish) properties) := rfl
  have hSame : (packed network publish).qos = publish.qos := rfl
  rw [session_step hConnected hPack, Session.handleDevicePayload, hSame]
  cases hCase : publish.qos with
  | ExactlyOnce => exact absurd hCase hQos
  | AtMostOnce => rfl
  | AtLeastOnce => rfl

/-- A publish at level 2 is recorded as packed, to be appended on release. -/
theorem session_record (hConnected : session.connected = true)
    (hQos : publish.qos = .ExactlyOnce) :
    session.step network (.Publish publish properties) =
      { session with recorded := session.recorded ++ [(packed network publish, properties)] } := by
  have hPack : network.packTopic (.Publish publish properties) =
      ok (.Publish (packed network publish) properties) := rfl
  have hSame : (packed network publish).qos = publish.qos := rfl
  rw [session_step hConnected hPack, Session.handleDevicePayload, hSame, hQos]

theorem expected_publish (hConnected : expected.connected = true)
    (hQos : publish.qos ≠ .ExactlyOnce) :
    expected.step network (.Publish publish properties) =
      (expected.bind (named network expected.bound publish properties)).append
        ((named network expected.bound publish properties).map Prod.snd) := by
  rw [Expected.step, if_pos hConnected]
  dsimp only
  cases hCase : publish.qos with
  | ExactlyOnce => exact absurd hCase hQos
  | AtMostOnce => rfl
  | AtLeastOnce => rfl

theorem expected_record (hConnected : expected.connected = true)
    (hQos : publish.qos = .ExactlyOnce) :
    expected.step network (.Publish publish properties) =
      { expected.bind (named network expected.bound publish properties) with
        recorded :=
          (expected.bind (named network expected.bound publish properties)).recorded ++
            [(named network expected.bound publish properties).map Prod.snd] } := by
  rw [Expected.step, if_pos hConnected]
  dsimp only
  rw [hQos]

/-- A publish keeps the agreement exactly when it is appended later or uses no alias. -/
theorem publish_step_iff (hText : network.topicPrefix ≠ [])
    (hUtf8 : isUtf8 network.topicPrefix = true) (hConnected : session.connected = true)
    (hBound : NonemptyTopics expected.bound) (hAgree : Agree (session, expected)) :
    Agree (pairStep network (session, expected) (.Publish publish properties)) ↔
      (publish.qos ≠ .ExactlyOnce → ¬UsesAlias publish properties) := by
  have hOther : expected.connected = true := hAgree.1 ▸ hConnected
  by_cases hQos : publish.qos = .ExactlyOnce
  · obtain ⟨hBind, hAppended, _⟩ :=
      expected.bind_same (named network expected.bound publish properties)
    rw [pairStep, session_record hConnected hQos, expected_record hOther hQos]
    refine iff_of_true ⟨?_, ?_⟩ (fun hNot => absurd hQos hNot)
    · exact Eq.trans hAgree.1 hBind.symm
    · exact Eq.trans hAgree.2 hAppended.symm
  · rw [pairStep, session_publish hConnected hQos, expected_publish hOther hQos,
      publish_agree_iff hText hUtf8 hConnected hBound hAgree]
    exact ⟨fun hNot _ => hNot, fun hNot => hNot hQos⟩

/-- A release appends the message that was recorded first. -/
theorem session_release {rest : List Message} {pkid : UInt16}
    (hConnected : session.connected = true)
    (hRecorded : session.recorded = (publish, properties) :: rest) :
    session.step network (.PubRel pkid) =
      { session with recorded := rest }.append publish properties := by
  rw [session_step hConnected rfl, Session.handleDevicePayload, hRecorded]

theorem expected_release {result : Except RouterError Message}
    {results : List (Except RouterError Message)} {pkid : UInt16}
    (hConnected : expected.connected = true) (hRecorded : expected.recorded = result :: results) :
    expected.step network (.PubRel pkid) = { expected with recorded := results }.append result := by
  rw [Expected.step, if_pos hConnected, hRecorded]

theorem release_nil {pkid : UInt16} (hConnected : session.connected = true)
    (hOther : expected.connected = true) (hLeft : session.recorded = [])
    (hRight : expected.recorded = []) :
    pairStep network (session, expected) (.PubRel pkid) =
      (session.disconnect, expected.disconnect) := by
  rw [pairStep, session_step hConnected rfl, Session.handleDevicePayload, hLeft, Expected.step,
    if_pos hOther, hRight]

/-- A release keeps the agreement exactly when the message it releases uses no alias. -/
theorem pubRel_step_iff (hText : network.topicPrefix ≠ [])
    (hUtf8 : isUtf8 network.topicPrefix = true) (hConnected : session.connected = true)
    (hRecorded : List.Forall₂ (Recorded network) session.recorded expected.recorded)
    (hAgree : Agree (session, expected)) (pkid : UInt16) :
    Agree (pairStep network (session, expected) (.PubRel pkid)) ↔
      ∀ message rest, session.recorded = message :: rest →
        ¬UsesAlias
          { message.1 with topic := message.1.topic.drop network.topicPrefix.length }
          message.2 := by
  have hOther : expected.connected = true := hAgree.1 ▸ hConnected
  cases hLeft : session.recorded with
  | nil =>
      rw [hLeft, List.forall₂_nil_left_iff] at hRecorded
      rw [release_nil hConnected hOther hLeft hRecorded]
      exact iff_of_true ⟨rfl, hAgree.2⟩ (by simp)
  | cons message rest =>
      rw [hLeft, List.forall₂_cons_left_iff] at hRecorded
      obtain ⟨result, results, ⟨publish, properties, bound, hBound, rfl, rfl⟩, _, hRight⟩ :=
        hRecorded
      have hAgree' : Agree ({ session with recorded := rest },
          { expected with recorded := results }) := hAgree
      have hConnected' : ({ session with recorded := rest } : Session).connected = true :=
        hConnected
      rw [pairStep, session_release hConnected hLeft, expected_release hOther hRight,
        append_agree hText hUtf8 hBound hConnected' hAgree']
      constructor
      · intro hNot other others hEq
        rw [List.cons.injEq] at hEq
        obtain ⟨rfl, _⟩ := hEq
        rw [drop_packed]
        exact hNot
      · intro hAll
        have hNot := hAll _ _ rfl
        rw [drop_packed] at hNot
        exact hNot

/-- A subscription keeps the agreement. -/
theorem subscribe_step (hAgree : Agree (session, expected)) (hConnected : session.connected = true)
    (subscribe : Subscribe) :
    Agree (pairStep network (session, expected) (.Subscribe subscribe)) := by
  have hOther : expected.connected = true := hAgree.1 ▸ hConnected
  rw [pairStep, Session.step, if_pos hConnected, Expected.step, if_pos hOther, packTopic]
  dsimp only
  split_ifs
  · exact hAgree
  · exact ⟨rfl, hAgree.2⟩

/-- The other packets have no part in it. -/
theorem pairStep_idle {packet : Packet} (hConnected : session.connected = true)
    (hOther : expected.connected = true)
    (hPacket : (∃ unsubscribe, packet = .Unsubscribe unsubscribe) ∨ packet = .other) :
    pairStep network (session, expected) packet = (session, expected) := by
  rcases hPacket with ⟨unsubscribe, rfl⟩ | rfl
  · simp [pairStep, Session.step, packTopic, Session.handleDevicePayload, Expected.step, hConnected,
      hOther]
  · simp [pairStep, Session.step, packTopic, Session.handleDevicePayload, Expected.step, hConnected,
      hOther]

/-- A lost connection reads no packets. -/
theorem pairStep_lost {packet : Packet} (hConnected : ¬session.connected = true)
    (hOther : ¬expected.connected = true) :
    pairStep network (session, expected) packet = (session, expected) := by
  unfold pairStep Session.step Expected.step
  rw [if_neg hConnected, if_neg hOther]

/-- Each packet keeps the agreement exactly when it names its topic itself. -/
theorem pairStep_agree_iff (hText : network.topicPrefix ≠ [])
    (hUtf8 : isUtf8 network.topicPrefix = true) (pair : Session × Expected) (packet : Packet)
    (hPair : Corresponds network pair) (hAgree : Agree pair) :
    Agree (pairStep network pair packet) ↔ NamesItself network pair packet := by
  obtain ⟨session, expected⟩ := pair
  by_cases hConnected : session.connected = true
  · have hOther : expected.connected = true := hAgree.1 ▸ hConnected
    cases packet with
    | Publish publish properties =>
        rw [publish_step_iff hText hUtf8 hConnected hPair.nonempty hAgree]
        exact ⟨fun h _ => h, fun h => h hConnected⟩
    | PubRel pkid =>
        rw [pubRel_step_iff hText hUtf8 hConnected hPair.recorded hAgree]
        exact ⟨fun h _ => h, fun h => h hConnected⟩
    | Subscribe subscribe =>
        exact iff_of_true (subscribe_step hAgree hConnected subscribe) fun _ => trivial
    | Unsubscribe unsubscribe =>
        rw [pairStep_idle hConnected hOther (.inl ⟨unsubscribe, rfl⟩)]
        exact iff_of_true hAgree fun _ => trivial
    | other =>
        rw [pairStep_idle hConnected hOther (.inr rfl)]
        exact iff_of_true hAgree fun _ => trivial
  · have hOther : ¬expected.connected = true := hAgree.1 ▸ hConnected
    rw [pairStep_lost hConnected hOther]
    exact iff_of_true hAgree fun h => absurd h hConnected

theorem bind_nonempty (hBound : NonemptyTopics expected.bound) :
    NonemptyTopics (expected.bind (named network expected.bound publish properties)).bound := by
  cases hNamed : named network expected.bound publish properties with
  | error error => exact hBound
  | ok result => exact named_nonempty hBound hNamed

/-- What both sides recorded corresponds after a publish. -/
theorem publish_corresponds (hConnected : session.connected = true)
    (hOther : expected.connected = true) (hPair : Corresponds network (session, expected)) :
    Corresponds network (pairStep network (session, expected) (.Publish publish properties)) := by
  obtain ⟨hBound, hRecorded⟩ := hPair
  obtain ⟨_, _, hSame⟩ :=
    expected.bind_same (named network expected.bound publish properties)
  by_cases hQos : publish.qos = .ExactlyOnce
  · rw [pairStep, session_record hConnected hQos, expected_record hOther hQos]
    refine ⟨bind_nonempty hBound, ?_⟩
    dsimp only
    rw [hSame]
    exact List.rel_append hRecorded (.cons ⟨publish, properties, _, hBound, rfl, rfl⟩ .nil)
  · rw [pairStep, session_publish hConnected hQos, expected_publish hOther hQos]
    obtain ⟨hLeft, hRight⟩ :=
      (expected.bind (named network expected.bound publish properties)).append_recorded
        ((named network expected.bound publish properties).map Prod.snd)
    constructor
    · dsimp only
      rw [hRight]
      exact bind_nonempty hBound
    · dsimp only
      rw [Session.append_recorded, hLeft, hSame]
      exact hRecorded

/-- What both sides recorded corresponds after a release. -/
theorem release_corresponds {pkid : UInt16} (hConnected : session.connected = true)
    (hOther : expected.connected = true) (hPair : Corresponds network (session, expected)) :
    Corresponds network (pairStep network (session, expected) (.PubRel pkid)) := by
  obtain ⟨hBound, hRecorded⟩ := hPair
  cases hLeft : session.recorded with
  | nil =>
      rw [hLeft, List.forall₂_nil_left_iff] at hRecorded
      rw [release_nil hConnected hOther hLeft hRecorded]
      refine ⟨hBound, ?_⟩
      change List.Forall₂ (Recorded network) session.recorded expected.recorded
      rw [hLeft, hRecorded]
      exact .nil
  | cons message rest =>
      rw [hLeft, List.forall₂_cons_left_iff] at hRecorded
      obtain ⟨result, results, _, hRest, hRight⟩ := hRecorded
      rw [pairStep, session_release hConnected hLeft, expected_release hOther hRight]
      obtain ⟨hTail, hBound'⟩ :=
        { expected with recorded := results }.append_recorded result
      constructor
      · dsimp only
        rw [hBound']
        exact hBound
      · dsimp only
        rw [Session.append_recorded, hTail]
        exact hRest

/-- Recorded messages stay in correspondence. -/
theorem pairStep_corresponds (pair : Session × Expected) (packet : Packet)
    (hPair : Corresponds network pair) (hAgree : Agree pair) :
    Corresponds network (pairStep network pair packet) := by
  obtain ⟨session, expected⟩ := pair
  have ⟨hBound, hRecorded⟩ := hPair
  by_cases hConnected : session.connected = true
  · have hOther : expected.connected = true := hAgree.1 ▸ hConnected
    cases packet with
    | Publish publish properties => exact publish_corresponds hConnected hOther hPair
    | PubRel pkid => exact release_corresponds hConnected hOther hPair
    | Subscribe subscribe =>
        rw [pairStep, Session.step, if_pos hConnected, Expected.step, if_pos hOther, packTopic]
        dsimp only
        split_ifs
        · exact ⟨hBound, hRecorded⟩
        · exact ⟨hBound, hRecorded⟩
    | Unsubscribe unsubscribe =>
        rw [pairStep_idle hConnected hOther (.inl ⟨unsubscribe, rfl⟩)]
        exact ⟨hBound, hRecorded⟩
    | other =>
        rw [pairStep_idle hConnected hOther (.inr rfl)]
        exact ⟨hBound, hRecorded⟩
  · have hOther : ¬expected.connected = true := hAgree.1 ▸ hConnected
    rw [pairStep_lost hConnected hOther]
    exact ⟨hBound, hRecorded⟩

theorem topicPrefix_ne_nil (u : Id) : (setMqttAuth u).topicPrefix ≠ [] := by
  rw [setMqttAuth]
  exact List.append_ne_nil_of_left_ne_nil (by decide) _

theorem topicPrefix_utf8 (u : Id) : isUtf8 (setMqttAuth u).topicPrefix = true := by
  refine isUtf8_ascii fun byte hMem => ?_
  rw [setMqttAuth, List.mem_append] at hMem
  rcases hMem with hUser | hText
  · have hAscii : (ascii "user/").all (· < 128) = true := by decide
    exact of_decide_eq_true (List.all_eq_true.mp hAscii byte hUser)
  · exact hexEncode_lt hText

/-- A connection appends what its packets mean, all along, exactly if no
message that uses an alias is appended. -/
theorem aliases_survive_iff (u : Id) (packets : List Packet) :
    Along (pairStep (setMqttAuth u)) Agree (Session.new, Expected.new) packets ↔
      Meets (pairStep (setMqttAuth u)) (NamesItself (setMqttAuth u)) (Session.new, Expected.new)
        packets := by
  have hText := topicPrefix_ne_nil u
  have hUtf8 := topicPrefix_utf8 u
  have hStart : Corresponds (setMqttAuth u) (Session.new, Expected.new) :=
    ⟨fun _ _ h => absurd h (by simp [Expected.new]), .nil⟩
  exact along_iff_meets
    (fun pair packet hPair hAgree _ => pairStep_corresponds pair packet hPair hAgree)
    (fun pair packet hPair hAgree => pairStep_agree_iff hText hUtf8 pair packet hPair hAgree)
    _ packets hStart ⟨rfl, rfl⟩

/-- A topic is bound to an alias, and used once by the alias alone. -/
def boundThenUsed : List Packet :=
  [.Publish { qos := .AtMostOnce, pkid := 0, retain := false, topic := ascii "/a", payload := [] }
      (some { topicAlias := some 1, subscriptionIdentifiers := [] }),
    .Publish { qos := .AtMostOnce, pkid := 0, retain := false, topic := [], payload := [] }
      (some { topicAlias := some 1, subscriptionIdentifiers := [] })]

theorem alias_lost : ¬∀ u packets,
    Along (pairStep (setMqttAuth u)) Agree (Session.new, Expected.new) packets := by
  intro h
  have hAppended := (h ⟨1⟩ boundThenUsed 2).2
  exact absurd hAppended (by decide +kernel)

end SnapEmu.Mqtt
