import BufferBridge.Bridge
import BufferBridge.Config.Reader
import BufferBridge.Elements
import BufferBridge.Export.Session
import BufferBridge.GuardTable
import BufferBridge.Logging
import BufferBridge.Proofs.Bytes
import BufferBridge.Proofs.Snappy.Header
import BufferBridge.Proofs.Decompression
import BufferBridge.Proofs.Frame
import BufferBridge.Proofs.Snappy.Acceptance
import BufferBridge.Proofs.Placement
import BufferBridge.Proofs.Refinement
import BufferBridge.Proofs.BitShuffle.Blocks
import BufferBridge.Proofs.BitShuffle.Inverse
import BufferBridge.Proofs.BitShuffle.Relay
import BufferBridge.Proofs.BitShuffle.Layout
import BufferBridge.Proofs.Elements
import BufferBridge.Proofs.Arguments
import BufferBridge.Proofs.Coupling
import BufferBridge.Proofs.Confinement
import BufferBridge.Proofs.Addressing
import BufferBridge.Proofs.Snappy.Grammar
import BufferBridge.Proofs.Snappy.Prefix
import BufferBridge.Proofs.Independence
import BufferBridge.Proofs.Exports
import BufferBridge.Proofs.GuardRuns
import BufferBridge.Proofs.Readonly
import BufferBridge.Proofs.Atomicity
import BufferBridge.Proofs.DirectFunctions
import BufferBridge.Proofs.Separation
import BufferBridge.Proofs.Copying
import BufferBridge.Proofs.Corruption
import BufferBridge.Proofs.WideResults
import BufferBridge.Proofs.Snappy.Matcher
import BufferBridge.Proofs.Snappy.Walk
import BufferBridge.Proofs.LogRuns
import BufferBridge.Proofs.Settings
import BufferBridge.Proofs.Zstandard.Streaming
