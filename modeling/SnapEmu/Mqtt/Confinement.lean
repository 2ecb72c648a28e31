import SnapEmu.Mqtt.Process

/-! Which devices a message can act on: nodes of the user of its topic, but
gateways of any user. -/
namespace SnapEmu.Mqtt

open Device Semantics Text

variable {Config : Type} {services : Services Config} {state : State} {message : MqttMessage}
  {u : Id} {effect : Effect Config}

/-- The message came on a topic of the user. -/
def Sender (message : MqttMessage) (u : Id) : Prop :=
  ∃ text, (splitN 47 3 message.topic)[1]? = some text ∧ Id.fromStr text = .ok u

/-- The topic names the device. -/
def Names (message : MqttMessage) (eui : Eui) : Prop :=
  ∃ text, (message.topic.splitOn 47)[3]? = some text ∧ Eui.fromStr text = .ok eui

def OwnsNode (state : State) (u : Id) (eui : Eui) : Prop :=
  ∃ node, state.getNodeByEui eui = .ok (some node) ∧ node.userId = some u

def OwnsGate (state : State) (u : Id) (eui : Eui) (deviceId : Id) : Prop :=
  ∃ gate, state.findGate eui = .ok (some gate) ∧ gate.deviceId = deviceId ∧
    state.creator deviceId = some u

/-- The message is the answer of a gateway to a pending request. -/
structure Answers (services : Services Config) (state : State) (message : MqttMessage)
    (deviceId : Id) (key : UInt32) (config : Config) : Prop where
  route : ∃ tail, (splitN 47 3 message.topic)[2]? = some tail ∧ (ascii "gw").isPrefixOf tail
  action : (message.topic.splitOn 47)[4]? = some (ascii "up")
  gate : ∃ eui gate, Names message eui ∧ state.findGate eui = .ok (some gate) ∧
    gate.deviceId = deviceId
  response : services.readResponse message.payload = .ok (.Config ⟨key, config⟩) ∨
    services.readResponse message.payload = .ok (.UpdateConfig ⟨key, config⟩)
  pending : (state.pending deviceId key).isSome

/-- The effect is about a node. -/
def AboutNode (eui : Eui) : Effect Config → Prop
  | .send message => message.eui = eui
  | .register other => other = eui
  | .deregister other => other = eui
  | .publish _ _ => True
  | .complete _ _ _ => False

/-- Forwarding a payload touches only the node it is forwarded to. -/
theorem forward_effects {eui : Eui} {data : ForwardPayload}
    (h : effect ∈ (forward services state u eui data).1) : AboutNode eui effect := by
  unfold forward at h
  dsimp only at h
  split_ifs at h
  · cases List.mem_singleton.mp h
    rfl
  · rcases List.mem_cons.mp h with rfl | hRest
    · rfl
    · cases List.mem_singleton.mp hRest
      trivial
  · rcases List.mem_cons.mp h with rfl | hRest
    · rfl
    · cases List.mem_singleton.mp hRest
      rfl
  · cases hAnswer : services.answer eui with
    | none =>
        rw [hAnswer] at h
        simp only [done, List.mem_cons, List.not_mem_nil, or_false] at h
        rcases h with rfl | rfl | rfl <;> rfl
    | some answer =>
        rw [hAnswer] at h
        simp only [done, List.mem_cons, List.not_mem_nil, or_false] at h
        rcases h with rfl | rfl | rfl
        · rfl
        · rfl
        · trivial

/-- A downlink acts on a node of the user only. -/
theorem processDownlink_effects (h : effect ∈ (processDownlink services state u message).1) :
    ∃ eui, Names message eui ∧ OwnsNode state u eui ∧ AboutNode eui effect := by
  -- every other way through the function ends without an effect
  unfold processDownlink at h
  split at h
  · exact absurd h List.not_mem_nil
  rename_i text hText
  split at h
  · exact absurd h List.not_mem_nil
  split at h
  · exact absurd h List.not_mem_nil
  rename_i eui hEui
  split at h
  · split at h
    · exact absurd h List.not_mem_nil
    · exact absurd h List.not_mem_nil
    rename_i node hNode
    split at h
    · rename_i hUser
      split at h
      · exact absurd h List.not_mem_nil
      · exact ⟨eui, ⟨text, hText, hEui⟩, ⟨node, hNode, hUser⟩, forward_effects h⟩
    · exact absurd h List.not_mem_nil
  · exact absurd h List.not_mem_nil

/-- An answer completes the request that waits for it, and no other. -/
theorem answerRequest_effects {deviceId : Id} {wrapper : DataWrapper Config} :
    effect ∈ (answerRequest state deviceId wrapper).1 ↔
      (state.pending deviceId wrapper.id).isSome ∧
        effect = .complete deviceId wrapper.id wrapper.data := by
  unfold answerRequest
  cases state.pending deviceId wrapper.id with
  | none => simp [done]
  | some requester => simp [done]

/-- A gateway's message completes what it answers, whoever sent it. -/
theorem processGateway_effects
    (hRoute : ∃ tail, (splitN 47 3 message.topic)[2]? = some tail ∧ (ascii "gw").isPrefixOf tail) :
    effect ∈ (processGateway services state u message).1 ↔
      ∃ deviceId key config, effect = .complete deviceId key config ∧
        Answers services state message deviceId key config := by
  constructor
  · intro h
    unfold processGateway at h
    split at h
    · exact absurd h List.not_mem_nil
    rename_i text hText
    split at h
    · exact absurd h List.not_mem_nil
    rename_i action hAction
    split at h
    · rename_i hUp
      split at h
      · exact absurd h List.not_mem_nil
      rename_i cmd hCmd
      split at h
      · exact absurd h List.not_mem_nil
      rename_i eui hEui
      split at h
      · exact absurd h List.not_mem_nil
      · exact absurd h List.not_mem_nil
      rename_i gate hGate
      have hFound : ∃ eui' gate', Names message eui' ∧ state.findGate eui' = .ok (some gate') ∧
          gate'.deviceId = gate.deviceId := ⟨eui, gate, ⟨text, hText, hEui⟩, hGate, rfl⟩
      cases cmd with
      | ShellCmd => exact absurd h List.not_mem_nil
      | Config wrapper =>
          obtain ⟨hPending, rfl⟩ := answerRequest_effects.mp h
          exact ⟨_, _, _, rfl, hRoute, by rw [hAction, hUp], hFound, .inl hCmd, hPending⟩
      | UpdateConfig wrapper =>
          obtain ⟨hPending, rfl⟩ := answerRequest_effects.mp h
          exact ⟨_, _, _, rfl, hRoute, by rw [hAction, hUp], hFound, .inr hCmd, hPending⟩
    · exact absurd h List.not_mem_nil
  · intro h
    obtain ⟨deviceId, key, config, rfl, hAnswers⟩ := h
    obtain ⟨eui, gate, ⟨text, hText, hEui⟩, hGate, rfl⟩ := hAnswers.gate
    have hRequest : .complete gate.deviceId key config ∈
        (answerRequest state gate.deviceId ⟨key, config⟩).1 :=
      answerRequest_effects.mpr ⟨hAnswers.pending, rfl⟩
    rcases hAnswers.response with hCmd | hCmd
    · simpa only [processGateway, hText, hAnswers.action, hCmd, hEui, hGate, if_true] using hRequest
    · simpa only [processGateway, hText, hAnswers.action, hCmd, hEui, hGate, if_true] using hRequest

/-- What a message does, it does as a message of its sender: on a node of that
user, or on any gateway. -/
theorem processMqtt_effects (h : effect ∈ (processMqtt services state message).1) :
    ∃ u, Sender message u ∧
      ((∃ eui, Names message eui ∧ OwnsNode state u eui ∧ AboutNode eui effect) ∨
        ∃ deviceId key config, effect = .complete deviceId key config ∧
          Answers services state message deviceId key config) := by
  unfold processMqtt at h
  split at h
  · exact absurd h List.not_mem_nil
  rename_i text hText
  split at h
  · exact absurd h List.not_mem_nil
  rename_i id hId
  split at h
  · exact absurd h List.not_mem_nil
  rename_i tail hTail
  refine ⟨id, ⟨text, hText, hId⟩, ?_⟩
  split_ifs at h with hGateway hDevice
  · exact .inr ((processGateway_effects ⟨tail, hTail, hGateway⟩).mp h)
  · exact .inl (processDownlink_effects h)
  · exact absurd h List.not_mem_nil

/-- A message has one sender. -/
theorem Sender.unique {u v : Id} (h : Sender message u) (h' : Sender message v) : u = v := by
  obtain ⟨text, hText, hId⟩ := h
  obtain ⟨text', hText', hId'⟩ := h'
  rw [hText, Option.some.injEq] at hText'
  subst hText'
  rw [hId, Except.ok.injEq] at hId'
  exact hId'

/-- An answer of any sender completes the request. -/
theorem processMqtt_completes {deviceId : Id} {key : UInt32} {config : Config}
    (hSender : Sender message u) (hAnswers : Answers services state message deviceId key config) :
    .complete deviceId key config ∈ (processMqtt services state message).1 := by
  obtain ⟨text, hText, hId⟩ := hSender
  obtain ⟨tail, hTail, hGateway⟩ := hAnswers.route
  have hEffect : .complete deviceId key config ∈ (processGateway services state u message).1 :=
    (processGateway_effects ⟨tail, hTail, hGateway⟩).mpr ⟨_, _, _, rfl, hAnswers⟩
  simpa only [processMqtt, hText, hId, hTail, hGateway, if_true] using hEffect

/-- The message acts on devices of its sender, and completes no request of
another user for that user's gateway. -/
structure Confined (services : Services Config) (state : State) (message : MqttMessage) :
    Prop where
  send : ∀ u down, Sender message u → .send down ∈ (processMqtt services state message).1 →
    Names message down.eui ∧ OwnsNode state u down.eui
  register : ∀ u eui, Sender message u → .register eui ∈ (processMqtt services state message).1 →
    Names message eui ∧ OwnsNode state u eui
  complete : ∀ u deviceId key config, Sender message u →
    .complete deviceId key config ∈ (processMqtt services state message).1 →
      ∃ eui, Names message eui ∧ OwnsGate state u eui deviceId
  request : ∀ u deviceId key config requester, Sender message u →
    .complete deviceId key config ∈ (processMqtt services state message).1 →
      state.pending deviceId key = some requester → state.creator deviceId = some requester →
        requester = u

/-- What is not an answer is about a node of the sender. -/
theorem node_owned {eui : Eui} (hSender : Sender message u)
    (hMem : effect ∈ (processMqtt services state message).1)
    (hAbout : ∀ other, AboutNode other effect → other = eui)
    (hOther : ∀ deviceId key config, effect ≠ .complete deviceId key config) :
    Names message eui ∧ OwnsNode state u eui := by
  obtain ⟨v, hSender', hEffect⟩ := processMqtt_effects hMem
  cases hSender.unique hSender'
  rcases hEffect with ⟨other, hNames, hOwns, hNode⟩ | ⟨_, _, _, hComplete, _⟩
  · cases hAbout other hNode
    exact ⟨hNames, hOwns⟩
  · exact absurd hComplete (hOther _ _ _)

/-- A completed request was answered by a message for its device and key. -/
theorem answers_of_complete {deviceId : Id} {key : UInt32} {config : Config}
    (hMem : .complete deviceId key config ∈ (processMqtt services state message).1) :
    Answers services state message deviceId key config := by
  obtain ⟨_, _, hEffect⟩ := processMqtt_effects hMem
  rcases hEffect with ⟨_, _, _, hAbout⟩ | ⟨_, _, _, hEq, hAnswers⟩
  · exact hAbout.elim
  · cases hEq
    exact hAnswers

/-- A message is confined exactly if the gateway whose pending request it
answers was created by its sender. -/
theorem processMqtt_confined_iff (services : Services Config) (state : State)
    (message : MqttMessage) :
    Confined services state message ↔
      ∀ u deviceId key config, Sender message u →
        Answers services state message deviceId key config → state.creator deviceId = some u := by
  constructor
  · intro h u deviceId key config hSender hAnswers
    obtain ⟨_, _, _, _, _, hCreator⟩ :=
      h.complete u deviceId key config hSender (processMqtt_completes hSender hAnswers)
    exact hCreator
  · intro h
    constructor
    · intro u down hSender hMem
      exact node_owned hSender hMem (fun _ hAbout => hAbout.symm) (by simp)
    · intro u eui hSender hMem
      exact node_owned hSender hMem (fun _ hAbout => hAbout.symm) (by simp)
    · intro u deviceId key config hSender hMem
      have hAnswers := answers_of_complete hMem
      obtain ⟨eui, gate, hNames, hGate, hDevice⟩ := hAnswers.gate
      exact ⟨eui, hNames, gate, hGate, hDevice, h u deviceId key config hSender hAnswers⟩
    · intro u deviceId key config requester hSender hMem _ hCreator
      have hUser := h u deviceId key config hSender (answers_of_complete hMem)
      rw [hCreator, Option.some.injEq] at hUser
      exact hUser

/-- The second user has asked the gateway 7, its device 5, for its
configuration. -/
def gatewayState : State where
  getNodeByEui := fun _ => .ok none
  findGate := fun eui => .ok (if eui = ⟨7⟩ then some ⟨⟨7⟩, ⟨5⟩⟩ else none)
  creator := fun deviceId => if deviceId = ⟨5⟩ then some ⟨2⟩ else none
  pending := fun deviceId key => if deviceId = ⟨5⟩ ∧ key = 0 then some ⟨2⟩ else none
  waiting := fun _ => false

def gatewayServices : Services Unit where
  readForward := fun _ => .error ""
  readResponse := fun _ => .ok (.Config ⟨0, ()⟩)
  answer := fun _ => none

/-- The first user answers for it. -/
def foreignAnswer : MqttMessage where
  topic := ascii "user/0000000000000001/gw/0000000000000007/up"
  payload := []

theorem foreignAnswer_completes :
    ¬∀ (services : Services Unit) state message, Confined services state message := by
  intro h
  have hSender : Sender foreignAnswer ⟨1⟩ := ⟨ascii "0000000000000001", by decide, by decide⟩
  have hMem : .complete ⟨5⟩ 0 () ∈ (processMqtt gatewayServices gatewayState foreignAnswer).1 := by
    decide
  exact absurd ((h gatewayServices gatewayState foreignAnswer).request ⟨1⟩ ⟨5⟩ 0 () ⟨2⟩ hSender hMem
    (by decide) (by decide)) (by decide)

end SnapEmu.Mqtt
