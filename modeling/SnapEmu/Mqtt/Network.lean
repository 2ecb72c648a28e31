import SnapEmu.Device.Types
import SnapEmu.Semantics.Exec
import SnapEmu.Semantics.ByteOrder
import SnapEmu.Semantics.Text

/-! The connection of a client: topics and filters of its packets are put under
the topics of its user, and taken out again on the way back. -/
namespace SnapEmu.Mqtt

open Device Semantics Exec Text

/-- The bytes of a string. -/
abbrev Str := List UInt8

inductive DbErr where
  | parse
  | len (text : Str)
  deriving DecidableEq

/-- `hex::encode_upper(self.0.to_be_bytes())`. -/
def hexText (value : UInt64) : Str := hexEncode (LittleEndian.encode 8 value.toNat).reverse

def hexValue (error : DbErr) (text : Str) : Except DbErr UInt64 :=
  if text.length ≠ 16 then .error error
  else match hexDecode text with
    | none => .error .parse
    | some bytes => .ok (UInt64.ofNat (LittleEndian.value bytes.reverse))

namespace Id

def toText (id : Id) : Str := hexText id.value

def fromStr (text : Str) : Except DbErr Id :=
  (hexValue (.len (ascii "id is error: " ++ text)) text).map Id.mk

end Id

namespace Eui

def toText (eui : Eui) : Str := hexText eui.value

def fromStr (text : Str) : Except DbErr Eui :=
  (hexValue (.len (ascii "Eui most 16 byte, found '" ++ text ++ ascii "'")) text).map Eui.mk

end Eui

@[simp] theorem hexText_length (value : UInt64) : (hexText value).length = 16 := by simp [hexText]

theorem slash_notMem_hexText (value : UInt64) : 47 ∉ hexText value := slash_notMem_hexEncode _

/-- The text of an identifier is read back. -/
theorem hexValue_hexText (error : DbErr) (value : UInt64) :
    hexValue error (hexText value) = .ok value := by
  have hRange : value.toNat < 256 ^ 8 := value.toNat_lt
  have hLength : ¬(hexText value).length ≠ 16 := not_not.mpr (hexText_length value)
  rw [hexValue, if_neg hLength, hexText, hexDecode_hexEncode]
  dsimp only
  rw [List.reverse_reverse, LittleEndian.value_encode hRange, UInt64.ofNat_toNat]

/-- Two numbers with the same hexadecimal text are equal. -/
theorem hexText_injective {value value' : UInt64} (h : hexText value = hexText value') :
    value = value' := by
  have hRead := hexValue_hexText .parse value
  rw [h, hexValue_hexText, Except.ok.injEq] at hRead
  exact hRead.symm

inductive QoS where
  | AtMostOnce | AtLeastOnce | ExactlyOnce
  deriving DecidableEq

structure Publish where
  qos : QoS
  pkid : UInt16
  retain : Bool
  topic : List UInt8
  payload : List UInt8
  deriving DecidableEq

structure PublishProperties where
  topicAlias : Option UInt16
  subscriptionIdentifiers : List Nat
  deriving DecidableEq

structure Filter where
  path : Str
  qos : QoS
  deriving DecidableEq

structure Subscribe where
  pkid : UInt16
  filters : List Filter
  deriving DecidableEq

structure Unsubscribe where
  pkid : UInt16
  filters : List Str
  deriving DecidableEq

inductive Packet where
  | Publish (publish : Publish) (properties : Option PublishProperties)
  | Subscribe (subscribe : Subscribe)
  | Unsubscribe (unsubscribe : Unsubscribe)
  | PubRel (pkid : UInt16)
  | other
  deriving DecidableEq

inductive Error where
  | topicStart
  deriving DecidableEq

structure Network where
  topicPrefix : Str

namespace Network

def setMqttAuth (id : Id) : Network where
  topicPrefix := ascii "user/" ++ Id.toText id

def packTopic (network : Network) : Packet → Exec Error Packet
  | .Publish publish properties =>
      ok (.Publish { publish with topic := network.topicPrefix ++ publish.topic } properties)
  | .Subscribe subscribe =>
      if subscribe.filters.all fun filter => filter.path.head? = some 47 then
        ok (.Subscribe
          { subscribe with
            filters := subscribe.filters.map fun filter =>
              { filter with path := network.topicPrefix ++ filter.path } })
      else err .topicStart
  | .Unsubscribe unsubscribe =>
      ok (.Unsubscribe
        { unsubscribe with
          filters := unsubscribe.filters.map fun filter => network.topicPrefix ++ filter })
  | packet => ok packet

/-- A filter without the text in front, if it is longer. -/
def unpackFilter (network : Network) (filter : Str) : Exec Error Str :=
  if network.topicPrefix.length < filter.length then
    strSlice filter network.topicPrefix.length filter.length
  else ok filter

def unpackFilters (network : Network) : List Str → Exec Error (List Str)
  | [] => ok []
  | filter :: filters => do
      let filter ← network.unpackFilter filter
      let filters ← network.unpackFilters filters
      ok (filter :: filters)

def unpackTopic (network : Network) : Packet → Exec Error Packet
  | .Publish publish properties =>
      if network.topicPrefix.length < publish.topic.length then
        ok (.Publish { publish with topic := publish.topic.drop network.topicPrefix.length }
          properties)
      else ok (.Publish publish properties)
  | .Subscribe subscribe => do
      let paths ← network.unpackFilters (subscribe.filters.map Filter.path)
      ok (.Subscribe
        { subscribe with
          filters := List.zipWith (fun filter path => { filter with path := path })
            subscribe.filters paths })
  | .Unsubscribe unsubscribe => do
      let filters ← network.unpackFilters unsubscribe.filters
      ok (.Unsubscribe { unsubscribe with filters := filters })
  | packet => ok packet

end Network

/-- `format!("{}.{}", network.mqtt_auth.id.0, connect.client_id)`. -/
def effectiveClientId (id : Id) (clientId : Str) : Str := decimal id.value.toNat ++ [46] ++ clientId

def matchFrom : List Str → List Str → Bool
  | [], topics => topics.isEmpty
  | filter :: filters, topics =>
      if filter = [35] then true
      else match topics with
        | [] => false
        | topic :: topics =>
            if topic = [35] then false
            else if filter = [43] then matchFrom filters topics
            else if filter ≠ topic then false
            else matchFrom filters topics

/-- The matching of the router. The first byte of the topic is cut off as a
string. -/
def topicMatches (topic filter : Str) : Exec Error Bool :=
  match topic with
  | [] => ok (matchFrom (filter.splitOn 47) (topic.splitOn 47))
  | first :: _ =>
      if !isCharBoundary topic 1 then panic
      else if first = 36 then ok false
      else ok (matchFrom (filter.splitOn 47) (topic.splitOn 47))

end SnapEmu.Mqtt
