import SnapEmu.Mqtt.Network
import SnapEmu.Semantics.Base64

/-! What the server does on a message of a client: a downlink to a node, whose
answer is forwarded, or the answer of a gateway to a pending request. -/
namespace SnapEmu.Mqtt

open Device Semantics Text

inductive MqttError where
  | userNotFound
  | euiNotFound
  | topicNotFound
  | actionNotFound
  | dbErr (error : DbErr)
  | serdeError (text : String)
  | seaDb (text : String)
  | deviceError (text : String)
  deriving DecidableEq

structure MqttMessage where
  topic : Str
  payload : List UInt8
  deriving DecidableEq

structure ForwardPayload where
  port : UInt8
  payload : String
  timeout : UInt32
  deriving DecidableEq

structure ForwardResult where
  port : UInt8
  payload : String
  status : Int
  deriving DecidableEq

structure DownloadMessage where
  eui : Eui
  port : UInt8
  data : String
  deriving DecidableEq

structure DataWrapper (α : Type) where
  id : UInt32
  data : α
  deriving DecidableEq

inductive GwCmdResponse (Config : Type) where
  | ShellCmd
  | Config (wrapper : DataWrapper Config)
  | UpdateConfig (wrapper : DataWrapper Config)
  deriving DecidableEq

structure LoRaNode where
  userId : Option Id
  deriving DecidableEq

structure DeviceLoraGate where
  eui : Eui
  deviceId : Id
  deriving DecidableEq

/-- Reading of payloads, and what a waiter for an answer receives in time. -/
structure Services (Config : Type) where
  readForward : List UInt8 → Except String ForwardPayload
  readResponse : List UInt8 → Except String (GwCmdResponse Config)
  answer : Eui → Option (List UInt8 × UInt8)

/-- What a message is judged against: nodes with their users, gateways with
their devices, the users that created the devices, the users of pending
requests by device and key, and the devices with a waiter. -/
structure State where
  getNodeByEui : Eui → Except String (Option LoRaNode)
  findGate : Eui → Except String (Option DeviceLoraGate)
  creator : Id → Option Id
  pending : Id → UInt32 → Option Id
  waiting : Eui → Bool

inductive Effect (Config : Type) where
  | send (message : DownloadMessage)
  | register (eui : Eui)
  | deregister (eui : Eui)
  | publish (topic : Str) (result : ForwardResult)
  | complete (deviceId : Id) (key : UInt32) (config : Config)
  deriving DecidableEq

variable {Config : Type}

abbrev Outcome (Config : Type) := List (Effect Config) × Except MqttError Unit

def done (effects : List (Effect Config)) : Outcome Config := (effects, .ok ())

def fail (error : MqttError) : Outcome Config := ([], .error error)

def resultTopic (userId : Id) (eui : Eui) : Str :=
  ascii "user/" ++ Id.toText userId ++ ascii "/device/" ++ Eui.toText eui ++ ascii "/forward_result"

/-- The downlink of the owner of a node, and the wait for the answer. -/
def forward (services : Services Config) (state : State) (userId : Id) (eui : Eui)
    (data : ForwardPayload) : Outcome Config :=
  let down := .send { eui := eui, port := data.port, data := data.payload }
  if state.waiting eui then
    if 60 < data.timeout then done [down]
    else done [down, .publish (resultTopic userId eui) { port := 0, payload := "", status := -1 }]
  else if 60 < data.timeout then done [down, .register eui]
  else match services.answer eui with
    | some (bytes, port) =>
        done
          [down, .register eui,
            .publish (resultTopic userId eui)
              { port := port, payload := Base64.encode bytes, status := 0 }]
    | none => done [down, .register eui, .deregister eui]

def processDownlink (services : Services Config) (state : State) (userId : Id)
    (message : MqttMessage) : Outcome Config :=
  match (message.topic.splitOn 47)[3]? with
  | none => fail .euiNotFound
  | some euiText =>
      match (message.topic.splitOn 47)[4]? with
      | none => fail .actionNotFound
      | some action =>
          match Eui.fromStr euiText with
          | .error error => fail (.dbErr error)
          | .ok eui =>
              if action = ascii "forward" then
                match state.getNodeByEui eui with
                | .error error => fail (.deviceError error)
                | .ok none => done []
                | .ok (some node) =>
                    if node.userId = some userId then
                      match services.readForward message.payload with
                      | .error error => fail (.serdeError error)
                      | .ok data => forward services state userId eui data
                    else done []
              else done []

/-- The sender of a pending request is taken from the cache and used. -/
def answerRequest (state : State) (deviceId : Id) (wrapper : DataWrapper Config) :
    Outcome Config :=
  match state.pending deviceId wrapper.id with
  | none => done []
  | some _ => done [.complete deviceId wrapper.id wrapper.data]

/-- The user of the topic is not looked at. -/
def processGateway (services : Services Config) (state : State) (_userId : Id)
    (message : MqttMessage) : Outcome Config :=
  match (message.topic.splitOn 47)[3]? with
  | none => fail .euiNotFound
  | some euiText =>
      match (message.topic.splitOn 47)[4]? with
      | none => fail .actionNotFound
      | some action =>
          if action = ascii "up" then
            match services.readResponse message.payload with
            | .error error => fail (.serdeError error)
            | .ok cmd =>
                match Eui.fromStr euiText with
                | .error error => fail (.dbErr error)
                | .ok eui =>
                    match state.findGate eui with
                    | .error error => fail (.seaDb error)
                    | .ok none => done []
                    | .ok (some gate) =>
                        match cmd with
                        | .ShellCmd => done []
                        | .Config wrapper => answerRequest state gate.deviceId wrapper
                        | .UpdateConfig wrapper => answerRequest state gate.deviceId wrapper
          else done []

def processMqtt (services : Services Config) (state : State) (message : MqttMessage) :
    Outcome Config :=
  match (splitN 47 3 message.topic)[1]? with
  | none => done []
  | some userText =>
      match Id.fromStr userText with
      | .error error => fail (.dbErr error)
      | .ok id =>
          match (splitN 47 3 message.topic)[2]? with
          | none => fail .topicNotFound
          | some topic =>
              if (ascii "gw").isPrefixOf topic then processGateway services state id message
              else if (ascii "device").isPrefixOf topic then
                processDownlink services state id message
              else done []

end SnapEmu.Mqtt
