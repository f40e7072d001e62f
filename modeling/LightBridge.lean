import LightBridge.Foundation.Command
import LightBridge.Foundation.Ends
import LightBridge.Foundation.Slices
import LightBridge.Foundation.Cursor
import LightBridge.Foundation.Ledger
import LightBridge.Foundation.Search
import LightBridge.Foundation.Coding
import LightBridge.Foundation.Markers
import LightBridge.Foundation.SortedMap
import LightBridge.Foundation.Refusal
import LightBridge.Foundation.Disk
import LightBridge.Foundation.Checked
import LightBridge.Foundation.Decimal
import LightBridge.Foundation.BinarySearch
import LightBridge.Foundation.Cumulative
import LightBridge.Foundation.Floating
import LightBridge.Foundation.Selection
import LightBridge.Foundation.Alignment
import LightBridge.Foundation.Framing
import LightBridge.Foundation.Hexadecimal
import LightBridge.Foundation.Tiling
import LightBridge.Foundation.Loop
import LightBridge.Foundation.Triple
import LightBridge.Foundation.Consumption
import LightBridge.Foundation.Pairing
import LightBridge.Foundation.Parting
import LightBridge.Foundation.Faltering
import LightBridge.Foundation.Lanes
import LightBridge.Host
import LightBridge.Kv.Cache
import LightBridge.Kv.Paging
import LightBridge.Kv.Allocation
import LightBridge.Kv.Refinement
import LightBridge.Kv.Trace
import LightBridge.Kv.Alike
import LightBridge.Kv.Batch
import LightBridge.Kv.Snapshot
import LightBridge.Kv.SnapshotCodec
import LightBridge.Kv.SnapshotRoundTrip
import LightBridge.Kv.Eager
import LightBridge.ExpertCache.State
import LightBridge.ExpertCache.Accounting
import LightBridge.ExpertCache.System
import LightBridge.ExpertCache.Invariant
import LightBridge.ExpertCache.Safety
import LightBridge.ExpertCache.Residency
import LightBridge.ExpertCache.Supply
import LightBridge.ExpertCache.Sharing
import LightBridge.ExpertCache.Heat
import LightBridge.ExpertCache.HeatLaws
import LightBridge.ExpertCache.Eviction
import LightBridge.Core.GgmlType
import LightBridge.Core.Arena
import LightBridge.Core.Topology
import LightBridge.Core.Tensor
import LightBridge.Io.PositionedFile
import LightBridge.Io.ReadLoop
import LightBridge.Hy3.TensorRole
import LightBridge.Kernels.Numeric
import LightBridge.Kernels.Gemv
import LightBridge.Kernels.Norm
import LightBridge.Kernels.Moe
import LightBridge.Kernels.Routing
import LightBridge.Kernels.Attention
import LightBridge.Kernels.Layer
import LightBridge.Kernels.Batch
import LightBridge.Kernels.Streaming
import LightBridge.Quant.Tables
import LightBridge.Quant.Decode
import LightBridge.Quant.Dot
import LightBridge.Quant.Range
import LightBridge.Quant.Avx2
import LightBridge.Quant.Exact
import LightBridge.Kernels.Buffers
import LightBridge.Quant.Quantized
import LightBridge.Kernels.Backend
import LightBridge.Kernels.MoeAtomicity
import LightBridge.Kernels.AttentionAtomicity
import LightBridge.Kernels.ScratchBounds
import LightBridge.Kernels.Granted
import LightBridge.Hy3.Options
import LightBridge.Hy3.TopK
import LightBridge.Hy3.Session
import LightBridge.Hy3.Atomicity
import LightBridge.Hy3.Retry
import LightBridge.Hy3.Faults
import LightBridge.Hy3.Opening
import LightBridge.Hy3.Backend
import LightBridge.Hy3.ScratchBounds
import LightBridge.Hy3.Schema
import LightBridge.Hy3.Profile
import LightBridge.Hy3.Loading
import LightBridge.Hy3.ResidentWeights
import LightBridge.Kv.Footprint
import LightBridge.Hy3.FirstToken
import LightBridge.Hy3.Budget
import LightBridge.Tokenizer.Chat
import LightBridge.Tokenizer.Assistant
import LightBridge.Tokenizer.Rendering
import LightBridge.Tokenizer.Echo
import LightBridge.Tokenizer.Turns
import LightBridge.Tokenizer.ToolRuns
import LightBridge.Runtime.Sampling
import LightBridge.Runtime.Weights
import LightBridge.Runtime.Support
import LightBridge.Runtime.Generation
import LightBridge.Runtime.ChatSession
import LightBridge.Runtime.Hy3Model
import LightBridge.Runtime.Preserved
import LightBridge.Runtime.SessionCodec
import LightBridge.Runtime.Invariant
import LightBridge.Runtime.StopFilter
import LightBridge.Runtime.StopBytes
import LightBridge.Runtime.StopRun
import LightBridge.Runtime.ChatEngine
import LightBridge.Runtime.Lockstep
import LightBridge.Runtime.PrefixReuse
import LightBridge.Runtime.Recovery
import LightBridge.Runtime.Completions
import LightBridge.Runtime.SessionRoundTrip
import LightBridge.Runtime.StreamedText
import LightBridge.Runtime.Postcondition
import LightBridge.Runtime.Split
import LightBridge.Hy3.SchemaCheck
import LightBridge.Hy3.SchemaNames
import LightBridge.Hy3.ExpertSlabs
import LightBridge.Gguf.Metadata
import LightBridge.Gguf.Encoding
import LightBridge.Gguf.Reader
import LightBridge.Gguf.Budget
import LightBridge.Gguf.Layout
import LightBridge.Gguf.Codec
import LightBridge.Gguf.Header
import LightBridge.GgufSplit.Directory
import LightBridge.GgufSplit.Discovery
import LightBridge.Format.Header
import LightBridge.Format.Manifest
import LightBridge.Prepare.Commit
import LightBridge.Prepare.Direct
import LightBridge.Hy3.ExpertSource
import LightBridge.Prepare.Sidecar
import LightBridge.Prepare.Binding
import LightBridge.Prepare.Hashing
import LightBridge.Format.Opening
import LightBridge.Prepare.Contents
import LightBridge.Prepare.Preparing
import LightBridge.Prepare.Lossless
import LightBridge.Hy3.SourceOpening
import LightBridge.Runtime.Simulation
import LightBridge.Runtime.Storage
import LightBridge.Runtime.Leaving
import LightBridge.Runtime.Faults
import LightBridge.Runtime.FaultyHost
import LightBridge.Server.Requests
import LightBridge.Server.Streaming
import LightBridge.Server.Faults
import LightBridge.Server.Slots
import LightBridge.Server.Clients
