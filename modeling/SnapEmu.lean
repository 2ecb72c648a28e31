import SnapEmu.Broker.Batches
import SnapEmu.Broker.CommitLog
import SnapEmu.Broker.Connection
import SnapEmu.Broker.DataLog
import SnapEmu.Broker.Directory
import SnapEmu.Broker.Filters
import SnapEmu.Broker.Following
import SnapEmu.Broker.Frames
import SnapEmu.Broker.Guarantees
import SnapEmu.Broker.Handling
import SnapEmu.Broker.Invariant
import SnapEmu.Broker.Ledger
import SnapEmu.Broker.Outgoing
import SnapEmu.Broker.Reading
import SnapEmu.Broker.Requests
import SnapEmu.Broker.Router
import SnapEmu.Broker.Running
import SnapEmu.Broker.Scheduler
import SnapEmu.Broker.Sessions
import SnapEmu.Broker.Sweep
import SnapEmu.Broker.Tenants
import SnapEmu.Command.Agreement
import SnapEmu.Command.Builder
import SnapEmu.Command.MultiPin
import SnapEmu.Decode.Correctness
import SnapEmu.Decode.Grammar
import SnapEmu.Decode.Item
import SnapEmu.Decode.ItemLoop
import SnapEmu.Decode.RecordLoop
import SnapEmu.Decode.Script
import SnapEmu.Decode.UpData
import SnapEmu.Device.GatewayInfo
import SnapEmu.Device.Integrity
import SnapEmu.Device.NodeInfo
import SnapEmu.Device.NodeStore
import SnapEmu.Device.Record
import SnapEmu.Device.RedisCommands
import SnapEmu.Device.Registered
import SnapEmu.Device.SnapDeviceInfo
import SnapEmu.Device.Types
import SnapEmu.Event.ConfigCache
import SnapEmu.Event.Messages
import SnapEmu.Event.NodeEvent
import SnapEmu.Event.RoundTrip
import SnapEmu.Event.Undisturbed
import SnapEmu.Gateway.Answered
import SnapEmu.Gateway.Pipeline
import SnapEmu.Gateway.Timeline
import SnapEmu.Gateway.Udp
import SnapEmu.LoRa.Counter
import SnapEmu.LoRa.DataCache
import SnapEmu.LoRa.DataRate
import SnapEmu.LoRa.DownCounter
import SnapEmu.LoRa.DownQueue
import SnapEmu.LoRa.Downlink
import SnapEmu.LoRa.JoinKeys
import SnapEmu.LoRa.Replay
import SnapEmu.LoRa.SessionSwitch
import SnapEmu.LoRa.Uplink
import SnapEmu.Management.Counters
import SnapEmu.Management.Create
import SnapEmu.Management.CreateNode
import SnapEmu.Management.IdentityChange
import SnapEmu.Management.InfoEdit
import SnapEmu.Management.NodeEdit
import SnapEmu.Management.NodeIndex
import SnapEmu.Management.Operations
import SnapEmu.Management.Rewind
import SnapEmu.Management.State
import SnapEmu.Mqtt.Alias
import SnapEmu.Mqtt.AliasRuns
import SnapEmu.Mqtt.Confinement
import SnapEmu.Mqtt.DownloadResponse
import SnapEmu.Mqtt.Isolation
import SnapEmu.Mqtt.Network
import SnapEmu.Mqtt.Process
import SnapEmu.Mqtt.Senders
import SnapEmu.Mqtt.SoleWaiter
import SnapEmu.Semantics.Action
import SnapEmu.Semantics.Base64
import SnapEmu.Semantics.Block
import SnapEmu.Semantics.ByteBits
import SnapEmu.Semantics.ByteOrder
import SnapEmu.Semantics.Calculation
import SnapEmu.Semantics.Chunks
import SnapEmu.Semantics.Cursor
import SnapEmu.Semantics.CyclicWindow
import SnapEmu.Semantics.DedupCache
import SnapEmu.Semantics.Draws
import SnapEmu.Semantics.Exec
import SnapEmu.Semantics.ExpiringStore
import SnapEmu.Semantics.FallibleRun
import SnapEmu.Semantics.Feed
import SnapEmu.Semantics.HashRecord
import SnapEmu.Semantics.Journal
import SnapEmu.Semantics.Numeral
import SnapEmu.Semantics.Pacing
import SnapEmu.Semantics.RecordEdit
import SnapEmu.Semantics.RecordHistory
import SnapEmu.Semantics.RecordTable
import SnapEmu.Semantics.Registry
import SnapEmu.Semantics.ReplayLog
import SnapEmu.Semantics.Run
import SnapEmu.Semantics.SixBit
import SnapEmu.Semantics.Slab
import SnapEmu.Semantics.StableOrder
import SnapEmu.Semantics.TableIndex
import SnapEmu.Semantics.Text
import SnapEmu.Semantics.Topics
import SnapEmu.Server.AccountDeletion
import SnapEmu.Server.AdminUpdate
import SnapEmu.Server.Atomicity
import SnapEmu.Server.Coherence
import SnapEmu.Server.Creation
import SnapEmu.Server.Database
import SnapEmu.Server.DefaultGroup
import SnapEmu.Server.Deletion
import SnapEmu.Server.DeviceDeletion
import SnapEmu.Server.DeviceOrder
import SnapEmu.Server.Effects
import SnapEmu.Server.Finishing
import SnapEmu.Server.FreshIdentifiers
import SnapEmu.Server.GroupSummary
import SnapEmu.Server.Groups
import SnapEmu.Server.Invalidation
import SnapEmu.Server.Links
import SnapEmu.Server.Membership
import SnapEmu.Server.OnlineTime
import SnapEmu.Server.Ownership
import SnapEmu.Server.Registration
import SnapEmu.Server.Requests
import SnapEmu.Server.Revocation
import SnapEmu.Server.Scripts
import SnapEmu.Server.Token
import SnapEmu.Server.Update
import SnapEmu.Snap.Cipher
import SnapEmu.Snap.Framing
import SnapEmu.Snap.Layout
import SnapEmu.Snap.Payload
import SnapEmu.User.CodeCheck
import SnapEmu.User.MailLimit
import SnapEmu.User.PasswordChange
import SnapEmu.User.PasswordEncode
import SnapEmu.User.PasswordHash
import SnapEmu.User.Signup
import SnapEmu.User.Status
