import SnapEmu.Management.Create
import SnapEmu.Semantics.ByteOrder
import SnapEmu.Semantics.Text

/-! The creation of a LoRa node from the join parameters of a request, and its
deletion. A service outside knows predefined devices by their identifiers. -/
namespace SnapEmu.Management

open Device User Semantics

structure JoinParam where
  appSkey : Option String
  nwkSkey : Option String
  devAddr : Option String
  appKey : Option String
  appEui : Option String
  devEui : Option String

structure ExtraParm where
  classB : Option Bool
  classC : Option Bool

/-- A request with the fields that only a creation without Bluetooth reads. -/
structure ReqJoinNode extends ReqLoraNode where
  joinType : LoRaJoinType
  joinParameter : JoinParam
  extraParm : Option ExtraParm

structure LoRaParameter where
  appSkey : String
  nwkSkey : String
  devAddr : String
  appKey : String
  appEui : String
  devEui : String
  adr : Bool
  rx1Delay : Int16
  rx1Dro : Int16
  rx2Dr : Int16
  rx2Freq : Int32

/-- A node as the service predefines it. -/
structure LoRaNode where
  joinType : LoRaJoinType
  blueName : Option String
  joinParameter : LoRaParameter

inductive DeviceParameter where
  | Device (node : LoRaNode)
  | Gate (region : LoRaRegion)

structure PredefineDeviceInfo where
  deviceType : DeviceType
  parameter : DeviceParameter

/-- `Checker::hex`. -/
def isHex (text : String) : Bool :=
  (Text.utf8 text).all fun char => (Text.digitValue char).isSome

/-- The bytes of a hexadecimal text of a fixed width. -/
def parseBytes (width : Nat) (text : String) : Option (List UInt8) :=
  (Text.hexDecode (Text.utf8 text)).filter fun bytes => bytes.length = width

def parseEui (text : String) : Option Eui :=
  (parseBytes 8 text).map fun bytes => ⟨UInt64.ofNat (LittleEndian.value bytes.reverse)⟩

def parseAddr (text : String) : Option LoRaAddr :=
  (parseBytes 4 text).map fun bytes => ⟨UInt32.ofNat (LittleEndian.value bytes.reverse)⟩

def parseKey (text : String) : Option Key :=
  (parseBytes 16 text).map fun bytes => ⟨Vector.ofFn fun index => bytes.getD index 0⟩

/-- An error about a parameter of LoRa nodes. -/
def loraError (name : String) : ApiError :=
  .user (.translated ("messages.device.lora." ++ name) [])

def required (name : String) (text : Option String) : Except ApiError String :=
  match text with
  | some text => .ok text
  | none => .error (loraError (name ++ "_missing"))

def checkDigits (name : String) (digits : Nat) (text : String) : Except ApiError Unit :=
  if text.utf8ByteSize = digits ∧ isHex text then .ok () else .error (loraError name)

def parsed {α : Type} (name : String) (value : Option α) : Except ApiError α :=
  match value with
  | some value => .ok value
  | none => .error (loraError name)

/-- The parameters of a predefined node; a text that does not parse leaves its
field. -/
def fillPredefine (this : LoraNodeDeviceDefault) (define : LoRaNode) : LoraNodeDeviceDefault :=
  let parameter := define.joinParameter
  { this with
    joinType := define.joinType
    blueName := define.blueName
    nwkSkey := (parseKey parameter.nwkSkey).getD this.nwkSkey
    appSkey := (parseKey parameter.appSkey).getD this.appSkey
    devAddr := (parseAddr parameter.devAddr).getD this.devAddr
    appKey := (parseKey parameter.appKey).getD this.appKey
    devEui := (parseEui parameter.devEui).getD this.devEui
    appEui := (parseEui parameter.appEui).getD this.appEui
    adr := parameter.adr
    rx2Freq := parameter.rx2Freq
    rx2Dr := parameter.rx2Dr
    rx1Delay := parameter.rx1Delay
    rx1Dro := parameter.rx1Dro
    desRx2Freq := parameter.rx2Freq
    desRx2Dr := parameter.rx2Dr
    desRx1Delay := parameter.rx1Delay
    desRx1Dro := parameter.rx1Dro }

/-- The frequency and the data rate of the second window. -/
def rx2Default : LoRaRegion → Int32 × Int16
  | .EU868 => (8695250, 0)
  | .US915 => (9233000, 8)
  | .CN779 => (7860000, 0)
  | .EU433 => (4346650, 0)
  | .AU915 => (9233000, 8)
  | .CN470 => (5053000, 0)
  | .AS923_1 => (9232000, 2)
  | .AS923_2 => (9232000, 2)
  | .AS923_3 => (9232000, 2)
  | .KR920 => (9219000, 0)
  | .IN865 => (8665500, 2)
  | .RU864 => (8691000, 0)

def defaultNode (req : ReqJoinNode) : LoraNodeDeviceDefault where
  name := req.name
  eui := req.eui
  description := req.description
  region := req.region
  joinType := req.joinType
  appEui := ⟨0⟩
  blueName := req.blueName
  devEui := ⟨0⟩
  appKey := ⟨Vector.replicate 16 0⟩
  devAddr := ⟨0⟩
  nwkSkey := ⟨Vector.replicate 16 0⟩
  appSkey := ⟨Vector.replicate 16 0⟩
  classB := (req.extraParm.bind fun parm => parm.classB).getD false
  classC := (req.extraParm.bind fun parm => parm.classC).getD false
  adr := true
  rx1Delay := 5
  desRx1Delay := 5
  rx1Dro := 0
  desRx1Dro := 0
  rx2Dr := (rx2Default req.region).2
  desRx2Dr := (rx2Default req.region).2
  rx2Freq := (rx2Default req.region).1
  desRx2Freq := (rx2Default req.region).1
  dRetry := 0
  cRetry := 0
  dutycyle := 30
  productType := .Monitor

section

-- the service of predefined devices
variable (queryEui : String → Except ApiError (Option PredefineDeviceInfo))

/-- Whether the service knows an identifier. -/
def predefined (text : String) : Except ApiError Bool :=
  (queryEui text).map Option.isSome

def abp (this : LoraNodeDeviceDefault) (param : JoinParam) :
    Except ApiError LoraNodeDeviceDefault := do
  let appSkey ← required "app_skey" param.appSkey
  let nwkSkey ← required "nwk_skey" param.nwkSkey
  let devAddr ← required "dev_addr" param.devAddr
  checkDigits "app_skey" 32 appSkey
  checkDigits "nwk_skey" 32 nwkSkey
  checkDigits "dev_addr" 8 devAddr
  match ← queryEui devAddr.toUpper with
  | some ⟨_, .Device node⟩ =>
      if node.joinParameter.appSkey = appSkey.toUpper ∧
          node.joinParameter.nwkSkey = nwkSkey.toUpper then
        .ok (fillPredefine this node)
      else .error (loraError "device_already")
  | some ⟨_, .Gate _⟩ => .error (loraError "dev_eui_match")
  | none =>
      let appSkey ← parsed "app_key" (parseKey appSkey.toUpper)
      let nwkSkey ← parsed "nwk_skey" (parseKey nwkSkey.toUpper)
      let devAddr ← parsed "dev_addr" (parseAddr devAddr.toUpper)
      return { this with appSkey, nwkSkey, devAddr }

def otaa (this : LoraNodeDeviceDefault) (param : JoinParam) :
    Except ApiError LoraNodeDeviceDefault := do
  let appKey ← required "app_key" param.appKey
  let appEui ← required "app_eui" param.appEui
  let devEui ← required "dev_eui" param.devEui
  checkDigits "app_key" 32 appKey
  checkDigits "app_eui" 16 appEui
  checkDigits "dev_eui" 16 devEui
  match ← queryEui devEui.toUpper with
  | some ⟨_, .Device node⟩ =>
      if node.joinParameter.appKey = appKey.toUpper ∧
          node.joinParameter.appEui = appEui.toUpper then
        .ok (fillPredefine this node)
      else .error (loraError "device_already")
  | some ⟨_, .Gate _⟩ => .error (loraError "dev_eui_match")
  | none =>
      let devEui ← parsed "dev_eui" (parseEui devEui.toUpper)
      let appEui ← parsed "app_eui" (parseEui appEui.toUpper)
      let appKey ← parsed "app_key" (parseKey appKey.toUpper)
      return { this with devEui, appEui, appKey }

/-- Addresses are drawn until one is not predefined; nothing is returned while
the draws given do not suffice. -/
def createAddr (state : State) : List LoRaAddr → Option (Except ApiError LoRaAddr)
  | [] => none
  | addr :: draws =>
      match validAddr (predefined queryEui) state addr with
      | .error error => some (.error error)
      | .ok true => createAddr state draws
      | .ok false => some (.ok addr)

/-- The same for EUIs of nodes. -/
def createDevEui (state : State) : List Eui → Option (Except ApiError Eui)
  | [] => none
  | eui :: draws =>
      match validDevEui (predefined queryEui) state eui with
      | .error error => some (.error error)
      | .ok true => createDevEui state draws
      | .ok false => some (.ok eui)

def withDefault (state : State) (req : ReqJoinNode) (draws : List LoRaAddr) :
    Option (Except ApiError LoraNodeDeviceDefault) :=
  match req.joinType with
  | .OTAA =>
      match otaa queryEui (defaultNode req) req.joinParameter with
      | .error error => some (.error error)
      | .ok this =>
          (createAddr queryEui state draws).map fun addr =>
            addr.map fun devAddr => { this with devAddr }
  | .ABP =>
      some ((abp queryEui (defaultNode req) req.joinParameter).map fun this =>
        { this with devEui := req.eui })

/-- Nothing is returned while an address is still being drawn. -/
def createNode (state : State) (userId : Id) (req : ReqJoinNode) (draws : List LoRaAddr)
    (assigned : Assigned) : Option (State × Except ApiError Id) :=
  if req.blueParm.isSome then
    some (updateBlue (predefined queryEui) state userId req.toReqLoraNode assigned)
  else
    (withDefault queryEui state req draws).map fun
      | .error error => (state, .error error)
      | .ok node => insertNode state node userId assigned

end

def State.removeNode (state : State) (node : DeviceLoraNodeModel) : State :=
  { state with loraNodes := state.loraNodes.filter fun row => row.id ≠ node.id }

def deleteNode (state : State) (deviceId : Id) : State × Except ApiError Unit :=
  match state.findNode deviceId with
  | none => (state, .error (.device deviceId.value.toNat
      (.translated "messages.device.lora.device_missing" [])))
  | some node =>
      let store := NodeInfo.unregister state.store node.devEui node.devAddr
      ({ state with store := store }.removeNode node, .ok ())

end SnapEmu.Management
