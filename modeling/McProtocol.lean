import McProtocol.Lib.Program
import McProtocol.Lib.Base128
import McProtocol.Lib.BigEndian
import McProtocol.Lib.Hex
import McProtocol.Lib.Ieee
import McProtocol.Lib.Md5
import McProtocol.Lib.Incremental
import McProtocol.Lib.Relational
import McProtocol.Lib.Substrings
import McProtocol.Core
import McProtocol.Reader
import McProtocol.Packet
import McProtocol.VarInt
import McProtocol.Grammar
import McProtocol.Writing
import McProtocol.Nbt
import McProtocol.Zlib
import McProtocol.Stream
import McProtocol.Fragmentation
import McProtocol.StreamRuns
import McProtocol.FrameViews
import McProtocol.Arena
import McProtocol.Catalog
import McProtocol.RoundTrip
import McProtocol.Canonical
import McProtocol.FrameFormat
import McProtocol.FeedLimits
import McProtocol.Registry
import McProtocol.Replay
import McProtocol.Uuid
import McProtocol.UuidText
import McProtocol.OfflineUuid
import McProtocol.PlayerPosition
import McProtocol.Client.World
import McProtocol.Client.Framing
import McProtocol.Client.PeerRoundTrip
import McProtocol.Client.CompressionSwitch
import McProtocol.Client.Application
import McProtocol.Client.Connect
import McProtocol.Client.Play
import McProtocol.Client.AutomaticReplies
import McProtocol.Client.EchoedPosition
import McProtocol.Client.FramingLimits
import McProtocol.Server.Handshake
import McProtocol.Client.Runs
import McProtocol.Client.Settled
import McProtocol.Client.ReadTimeout
import McProtocol.Client.Batches
import McProtocol.Client.Configuration
import McProtocol.Builders
import McProtocol.StickyWriter
import McProtocol.Typed.Item
import McProtocol.Typed.Player
import McProtocol.Typed.Entity
import McProtocol.Typed.Metadata
import McProtocol.Typed.Inventory
import McProtocol.Typed.World
import McProtocol.Typed.Chunk
import McProtocol.Lib.PackedWords
import McProtocol.Typed.ChunkSection
import McProtocol.Typed.JoinGame
import McProtocol.Typed.Decode
import McProtocol.Lockstep
import McProtocol.Direct.Respawn
import McProtocol.Schema.Codecs
import McProtocol.Schema.Embedding
import McProtocol.StreamSizes
import McProtocol.StreamSessions
import McProtocol.StreamModes
import McProtocol.Lib.Iteration
import McProtocol.Typed.Bodies
import McProtocol.Typed.BlockChanges
import McProtocol.Typed.SteppedMoves
import McProtocol.Locality
import McProtocol.Typed.ItemGrammar
import McProtocol.Typed.Position
import McProtocol.Typed.SentPackets
import McProtocol.Typed.BlockDig
import McProtocol.Typed.PlainItems
import McProtocol.Typed.WindowClick
import McProtocol.Client.TeleportAnswers
import McProtocol.Direct.EntityMove
import McProtocol.Direct.Equipment
import McProtocol.Typed.GzipNbt
import McProtocol.Direct.LegacyItem
import McProtocol.Typed.BlockPlace
import McProtocol.Typed.AttributeViews
import McProtocol.Typed.MetadataEntries
import McProtocol.Typed.ItemViews
import McProtocol.Typed.UntrustedItems
import McProtocol.Spans
import McProtocol.Direct.CountedLists
import McProtocol.Direct.PlayerInfo
import McProtocol.Direct.DefaultReaders
import McProtocol.Direct.SlotUpdate
import McProtocol.Direct.ContainerContent
import McProtocol.StreamReuse
import McProtocol.Client.Twins
import McProtocol.Client.Sessions
import McProtocol.Direct.Scoreboard
import McProtocol.Direct.Windows
import McProtocol.Direct.Spawns
import McProtocol.Lib.Landing
import McProtocol.Lib.Foresight
import McProtocol.Direct.Refusals
import McProtocol.Direct.ReaderCalls
import McProtocol.Direct.Demands
import McProtocol.Client.Receiving
import McProtocol.Client.StatusPing
import McProtocol.Client.StatusAnswered
import McProtocol.BuilderSizes
import McProtocol.Client.Actions
import McProtocol.Client.Deliveries
import McProtocol.Typed.PlayerActions
import McProtocol.Typed.SlotItems
import McProtocol.Client.Understood
import McProtocol.CanonicalViews
import McProtocol.PacketListing
import McProtocol.Direct.RemovedPlayers
