import SnapEmu.Broker.Running

/-! What the links of users hand to the router: the topics and filters of their
packets are put under those of the user. -/
namespace SnapEmu.Broker

open Mqtt (Str Network)
open Semantics Exec

namespace Packet

/-- The fields of a packet that a link looks at. -/
def brief : Packet → Mqtt.Packet
  | .Publish publish properties =>
      .Publish
        { qos := publish.qos
          pkid := publish.pkid
          retain := publish.retain
          topic := publish.topic
          payload := publish.payload }
        (properties.map fun properties =>
          { topicAlias := properties.topicAlias
            subscriptionIdentifiers := properties.subscriptionIdentifiers })
  | .Subscribe subscribe _ =>
      .Subscribe
        { pkid := subscribe.pkid
          filters := subscribe.filters.map fun filter =>
            { path := filter.path, qos := filter.qos } }
  | .Unsubscribe unsubscribe =>
      .Unsubscribe { pkid := unsubscribe.pkid, filters := unsubscribe.filters }
  | .PubRel pubrel _ => .PubRel pubrel.pkid
  | _ => .other

end Packet

def packTopic (network : Network) : Packet → Exec Mqtt.Error Packet
  | .Publish publish properties =>
      ok (.Publish { publish with topic := network.topicPrefix ++ publish.topic } properties)
  | .Subscribe subscribe properties =>
      if subscribe.filters.all fun filter => filter.path.head? = some 47 then
        ok (.Subscribe
          { subscribe with
            filters := subscribe.filters.map fun filter =>
              { filter with path := network.topicPrefix ++ filter.path } }
          properties)
      else err .topicStart
  | .Unsubscribe unsubscribe =>
      ok (.Unsubscribe
        { unsubscribe with
          filters := unsubscribe.filters.map fun filter => network.topicPrefix ++ filter })
  | packet => ok packet

/-- A link that looks at fewer fields packs in the same way. -/
theorem brief_packTopic (network : Network) (packet : Packet) :
    (packTopic network packet >>= fun packed => ok packed.brief) =
      network.packTopic packet.brief := by
  cases packet with
  | Subscribe subscribe properties =>
      have hAll : (subscribe.filters.map fun filter =>
            ({ path := filter.path, qos := filter.qos } : Mqtt.Filter)).all
          (fun filter => filter.path.head? = some 47) =
          subscribe.filters.all fun filter => filter.path.head? = some 47 := List.all_map
      rw [packTopic, Packet.brief, Network.packTopic, hAll]
      split_ifs
      · rw [ok_bind, Packet.brief, List.map_map, List.map_map]
        rfl
      · rfl
  | _ => rfl

/-- What is put under the topics of a user can be matched, and is not a filter
of a group. -/
theorem plain_packed (id : Device.Id) (text : Str) :
    Router.Plain ((Network.setMqttAuth id).topicPrefix ++ text) := by
  refine ⟨.inr ?_, ?_⟩
  · rfl
  · rfl

/-- What the prefix of a tenant accepts is plain. -/
theorem packTopic_plain {id : Device.Id} {sent packet : Packet}
    (h : packTopic (Network.setMqttAuth id) sent = ok packet) : packet.Plain := by
  cases sent with
  | Publish publish properties =>
      cases h
      exact (plain_packed id publish.topic).cuttable
  | Subscribe subscribe properties =>
      rw [packTopic] at h
      split_ifs at h
      cases h
      intro filter hFilter
      obtain ⟨old, _, rfl⟩ := List.mem_map.mp hFilter
      exact plain_packed id old.path
  | _ =>
      cases h
      trivial

/-- All that a link hands on is plain. It packs packets as the link that only
looks at their topics and filters. -/
theorem links_plain (id : Device.Id) :
    (∀ sent : Packet, (packTopic (Network.setMqttAuth id) sent >>= fun packed => ok packed.brief) =
      (Network.setMqttAuth id).packTopic sent.brief) ∧
      ∀ connection packets,
        (∀ packet ∈ packets, ∃ sent, packTopic (Network.setMqttAuth id) sent = ok packet) →
          (Router.Input.deviceData connection packets).Plain := by
  refine ⟨brief_packTopic _, fun connection packets hPacked packet hPacket => ?_⟩
  obtain ⟨sent, hSent⟩ := hPacked packet hPacket
  exact packTopic_plain hSent

/-- A subscription to `/$share/g/a`. -/
def shared : Packet :=
  .Subscribe ⟨1, [⟨Text.ascii "/$share/g/a", .AtLeastOnce, false, false, .Never⟩]⟩ none

/-- A link hands it on as one of no group. -/
theorem links_plain_shared : ∃ packet, packTopic (Network.setMqttAuth ⟨1⟩) shared = ok packet ∧
    (Router.Input.deviceData 0 [packet]).Plain := by
  obtain ⟨packet, hPacked⟩ : ∃ packet, packTopic (Network.setMqttAuth ⟨1⟩) shared = ok packet :=
    ⟨_, rfl⟩
  refine ⟨packet, hPacked, (links_plain ⟨1⟩).2 0 [packet] fun other hOther => ⟨shared, ?_⟩⟩
  rw [List.mem_singleton.mp hOther]
  exact hPacked

end SnapEmu.Broker
