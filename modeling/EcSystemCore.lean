import EcSystemCore.Adapter.Identity
import EcSystemCore.Adapter.LockedResolution
import EcSystemCore.Adapter.Resolution
import EcSystemCore.Adapter.Scan
import EcSystemCore.Bus.AllBuses
import EcSystemCore.Bus.AllBusesBarrier
import EcSystemCore.Bus.AllBusesEpochs
import EcSystemCore.Bus.AllBusesLatch
import EcSystemCore.Bus.ClockHistory
import EcSystemCore.Bus.CycleSchedule
import EcSystemCore.Bus.DistributedClock
import EcSystemCore.Bus.Handle
import EcSystemCore.Bus.OutputGeometry
import EcSystemCore.Bus.OutputImage
import EcSystemCore.Bus.SafetyCalls
import EcSystemCore.Bus.SingleBus
import EcSystemCore.Bus.SingleBusImages
import EcSystemCore.Bus.SingleBusLedger
import EcSystemCore.Bus.SingleBusSafety
import EcSystemCore.Bus.SpscQueue
import EcSystemCore.Bus.SpscThreads
import EcSystemCore.Bus.Topology
import EcSystemCore.Bus.Worker
import EcSystemCore.Bus.WorkerBarrier
import EcSystemCore.Bus.WorkerFacts
import EcSystemCore.Client.Acknowledged
import EcSystemCore.Client.AssembledImages
import EcSystemCore.Client.Assembler
import EcSystemCore.Client.CodecAgreement
import EcSystemCore.Client.CommandFutures
import EcSystemCore.Client.FrameDecoders
import EcSystemCore.Client.Handshake
import EcSystemCore.Client.HeartbeatReserve
import EcSystemCore.Client.Implementation
import EcSystemCore.Client.JavaAssembler
import EcSystemCore.Client.JavaClient
import EcSystemCore.Client.JavaCodec
import EcSystemCore.Client.JavaImages
import EcSystemCore.Client.Moves
import EcSystemCore.Client.PythonAssembler
import EcSystemCore.Client.PythonCodec
import EcSystemCore.Client.RequestDelivery
import EcSystemCore.Client.RequestErrors
import EcSystemCore.Client.SentBytes
import EcSystemCore.Client.Sessions
import EcSystemCore.Client.Steps
import EcSystemCore.Config.Load
import EcSystemCore.Config.Types
import EcSystemCore.Daemon.Bindings
import EcSystemCore.Daemon.BusSync
import EcSystemCore.Daemon.Evolution
import EcSystemCore.Daemon.Handlers
import EcSystemCore.Daemon.Lease
import EcSystemCore.Daemon.Loop
import EcSystemCore.Daemon.Queue
import EcSystemCore.Daemon.RateLimit
import EcSystemCore.Daemon.Reads
import EcSystemCore.Daemon.Scan
import EcSystemCore.Daemon.State
import EcSystemCore.Daemon.Steps
import EcSystemCore.Daemon.Streams
import EcSystemCore.Json.MiniJson
import EcSystemCore.Json.Utf8
import EcSystemCore.Lib.BitField
import EcSystemCore.Lib.Checks
import EcSystemCore.Lib.Coroutine
import EcSystemCore.Lib.Crc
import EcSystemCore.Lib.CyclicCounter
import EcSystemCore.Lib.Execution
import EcSystemCore.Lib.Incremental
import EcSystemCore.Lib.Keyed
import EcSystemCore.Lib.Layout
import EcSystemCore.Lib.Lease
import EcSystemCore.Lib.Reassembly
import EcSystemCore.Lib.Streak
import EcSystemCore.Lib.Trimming
import EcSystemCore.Protocol.ClientPayloads
import EcSystemCore.Protocol.FrameStream
import EcSystemCore.Protocol.Framing
import EcSystemCore.Protocol.LittleEndian
import EcSystemCore.Protocol.Payloads
import EcSystemCore.Protocol.Roundtrip
import EcSystemCore.Protocol.Types
import EcSystemCore.Protocol.Utf8
import EcSystemCore.Safety.Gate
import EcSystemCore.Safety.GateHistory
import EcSystemCore.Safety.PackedFields
import EcSystemCore.Safety.PackedReads
import EcSystemCore.Safety.Pdo
import EcSystemCore.Web.AdapterLocks
import EcSystemCore.Web.AsciiText
import EcSystemCore.Web.Document
import EcSystemCore.Web.IpcDecoder
import EcSystemCore.Web.JsValue
import EcSystemCore.Web.JsonGrammar
import EcSystemCore.Web.JsonText
import EcSystemCore.Web.LockRequests
import EcSystemCore.Web.Mutations
import EcSystemCore.Web.RateLimiter
import EcSystemCore.Web.Records
import EcSystemCore.Web.StrictJson
import EcSystemCore.Web.UnitText
import EcSystemCore.Web.Utf8Text
import EcSystemCore.Web.Validation
import EcSystemCore.Web.Zip
import EcSystemCore.Web.ZipArchive
import EcSystemCore.Web.ZipReader
import EcSystemCore.Web.ZipStream
