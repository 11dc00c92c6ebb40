import ChainFeed.Address.Base58
import ChainFeed.Address.Basic
import ChainFeed.Address.Bech32
import ChainFeed.Address.Watching
import ChainFeed.Address.Witness
import ChainFeed.Bytes.Base64
import ChainFeed.Bytes.Der
import ChainFeed.Bytes.Hex
import ChainFeed.Bytes.LittleEndian
import ChainFeed.Certificate.Anchor
import ChainFeed.Certificate.Section
import ChainFeed.Chain.Block
import ChainFeed.Chain.Network
import ChainFeed.Chain.Stamp
import ChainFeed.Chain.Transaction
import ChainFeed.Client.Apply
import ChainFeed.Client.Basic
import ChainFeed.Config.Backend
import ChainFeed.Config.Load
import ChainFeed.Config.Settings
import ChainFeed.Config.Variable
import ChainFeed.Connection.Backend
import ChainFeed.Connection.Basic
import ChainFeed.Connection.Run
import ChainFeed.Consensus.CompactSize
import ChainFeed.Consensus.Reader
import ChainFeed.Consensus.Transaction
import ChainFeed.Data.Bits
import ChainFeed.Data.Cut
import ChainFeed.Data.Distinct
import ChainFeed.Data.Outcome
import ChainFeed.Data.Radix
import ChainFeed.Error
import ChainFeed.Hash.Digest
import ChainFeed.Hash.Sha256
import ChainFeed.Hub.Basic
import ChainFeed.Hub.Dispatch
import ChainFeed.Hub.Polling
import ChainFeed.Json.Reader
import ChainFeed.Json.Writer
import ChainFeed.Mempool.Delta
import ChainFeed.Metrics.Basic
import ChainFeed.Metrics.Exposition
import ChainFeed.Pattern.Basic
import ChainFeed.Pattern.Mode
import ChainFeed.Pattern.Piece
import ChainFeed.Pattern.Set
import ChainFeed.Rpc.Message
import ChainFeed.Rpc.Raw
import ChainFeed.Rpc.Remote
import ChainFeed.Simulation.Basic
import ChainFeed.Simulation.Folder
import ChainFeed.Simulation.Node
import ChainFeed.Simulation.Sample
import ChainFeed.Simulation.Session
import ChainFeed.Simulation.Settling
import ChainFeed.Simulation.Ticking
import ChainFeed.Telemetry.Filter
import ChainFeed.Telemetry.Install
import ChainFeed.Telemetry.Settings
import ChainFeed.Text.Blank
import ChainFeed.Text.Bytewise
import ChainFeed.Text.Decimal
import ChainFeed.Text.Digits
import ChainFeed.Text.Flag
import ChainFeed.Text.Lossy
import ChainFeed.Text.Lower
import ChainFeed.Text.Punycode
import ChainFeed.Text.Quoted
import ChainFeed.Text.Unicode.Alphanumeric
import ChainFeed.Text.Unicode.Cased
import ChainFeed.Text.Unicode.Direction
import ChainFeed.Text.Unicode.Hidden
import ChainFeed.Text.Unicode.Joining
import ChainFeed.Text.Unicode.LowerMap
import ChainFeed.Text.Unicode.Mark
import ChainFeed.Text.Unicode.Range
import ChainFeed.Toml.Instant
import ChainFeed.Toml.Layout
import ChainFeed.Toml.Number
import ChainFeed.Toml.Reader
import ChainFeed.Toml.Table
import ChainFeed.Toml.Text
import ChainFeed.Url.Address
import ChainFeed.Url.Basic
import ChainFeed.Url.Domain
import ChainFeed.Url.Folding
import ChainFeed.Url.Percent
import ChainFeed.Value.Basic
import ChainFeed.Walk
import ChainFeed.Watch.WatchList
import ChainFeed.Proofs.Client.Applying
import ChainFeed.Proofs.Client.Frame
import ChainFeed.Proofs.Client.Move
import ChainFeed.Proofs.Client.Standing
import ChainFeed.Proofs.Run.ClientStep
import ChainFeed.Proofs.Run.Frame
import ChainFeed.Proofs.Client.Stream
import ChainFeed.Proofs.Run.BlockStep
import ChainFeed.Proofs.Run.BlockWalk
import ChainFeed.Proofs.Run.BlockStream
import ChainFeed.Proofs.Client.Learning
import ChainFeed.Proofs.Run.Simulated
import ChainFeed.Proofs.Run.Spending
import ChainFeed.Proofs.Client.Recovery
import ChainFeed.Proofs.Run.Recovery
import ChainFeed.Proofs.Client.BlockMove
import ChainFeed.Proofs.Client.Within
import ChainFeed.Proofs.Run.Within
import ChainFeed.Proofs.Run.ChainAgreement
import ChainFeed.Proofs.Run.Deliveries
import ChainFeed.Proofs.Run.Lag
import ChainFeed.Proofs.Run.GapFree
import ChainFeed.Proofs.Client.Announced
import ChainFeed.Proofs.Mempool.Delta
import ChainFeed.Proofs.Run.MempoolStep
import ChainFeed.Proofs.Run.Announcement
import ChainFeed.Proofs.Client.Relevance
import ChainFeed.Proofs.Run.Watermark
import ChainFeed.Proofs.Client.Hand
import ChainFeed.Proofs.Run.Fanout
import ChainFeed.Proofs.Run.Mirror
import ChainFeed.Proofs.Client.Telling
import ChainFeed.Proofs.Run.Overtaking
import ChainFeed.Proofs.Consensus.Inverse
import ChainFeed.Proofs.Consensus.Transaction
import ChainFeed.Proofs.Rpc.Handshake
import ChainFeed.Proofs.Rpc.Raw
import ChainFeed.Proofs.Client.Inbox
import ChainFeed.Proofs.Run.Effect
import ChainFeed.Proofs.Run.Turns
import ChainFeed.Proofs.Run.Life
import ChainFeed.Proofs.Run.Conservation
import ChainFeed.Proofs.Run.Calls
import ChainFeed.Proofs.Run.Shutdown
import ChainFeed.Proofs.Run.Lifecycle
import ChainFeed.Proofs.Run.Core
import ChainFeed.Proofs.Run.View
import ChainFeed.Proofs.Run.FanOutOrder
import ChainFeed.Proofs.Run.Isolation
import ChainFeed.Proofs.Run.MempoolTick
import ChainFeed.Proofs.Client.Fetching
import ChainFeed.Proofs.Run.CatchUpCall
import ChainFeed.Proofs.Run.CatchUpRetry
import ChainFeed.Proofs.Client.Operation
import ChainFeed.Proofs.Run.Operations
import ChainFeed.Proofs.Run.WatchListLife
import ChainFeed.Proofs.Run.Unconfirmed
import ChainFeed.Proofs.Client.Segment
import ChainFeed.Proofs.Run.Gauges
import ChainFeed.Proofs.Run.Segments
import ChainFeed.Proofs.Metrics.Failures
import ChainFeed.Proofs.Run.Accounts
import ChainFeed.Proofs.Run.Stage
import ChainFeed.Proofs.Run.ClientLife
import ChainFeed.Proofs.Node.Reorganisation
import ChainFeed.Proofs.Config.Override
import ChainFeed.Proofs.Config.Layers
import ChainFeed.Proofs.Rpc.Answer
import ChainFeed.Proofs.Rpc.Attempts
import ChainFeed.Proofs.Rpc.Questions
import ChainFeed.Proofs.Data.Bits
import ChainFeed.Proofs.Data.Numbering
import ChainFeed.Proofs.Address.Base58
import ChainFeed.Proofs.Address.Checksum
import ChainFeed.Proofs.Address.Bech32
import ChainFeed.Proofs.Address.Witness
import ChainFeed.Proofs.Address.Watching
import ChainFeed.Proofs.Chain.Height
import ChainFeed.Proofs.Run.Heights
import ChainFeed.Proofs.Text.Decimal
import ChainFeed.Proofs.Text.Listing
import ChainFeed.Proofs.Json.Number
import ChainFeed.Proofs.Json.RoundTrip
import ChainFeed.Proofs.Config.VariableOrder
import ChainFeed.Proofs.Config.PartialRecord
