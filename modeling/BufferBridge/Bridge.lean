import BufferBridge.Dispatch
import BufferBridge.Zstandard.Codec

/-! The calls a host makes: signed integers in, a plain value out, failures told by their codes. Every
call reads its integers, dispatches, and only when all guards are released tells the host of a
failure. -/
namespace BufferBridge

def version : String := "1.1.10"

/-- Whether bit-shuffling is available. -/
def supportsBitShuffle : Bool := true

/-- The value that stands in for a result when a failure is raised. -/
class Sentinel (α : Type) where
  sentinel : α

instance : Sentinel Int32 := ⟨0⟩
instance : Sentinel Int64 := ⟨0⟩
instance : Sentinel Nat := ⟨0⟩
instance : Sentinel Bool := ⟨false⟩
instance : Sentinel Unit := ⟨()⟩

/-- A finished result in the host's convention: a value, or a failure that the host is told of with a
sentinel in place of the value. -/
def settle {α : Type} [Sentinel α] (result : Except Failure α) (host : Host) : α × Host :=
  match result with
  | .ok value => (value, host)
  | .error failure =>
    (Sentinel.sentinel, (host.record (.log (.raising failure))).record (.raise failure.code))

/-- A call: runs an operation to its end and settles its result. -/
def Op.call {α : Type} [Sentinel α] (op : Op α) (host : Host) : α × Host :=
  let (result, host) := op host
  settle result host

/-- The libraries that a bridge was built with. -/
structure Libraries where
  /-- The release that reads Snappy blocks. -/
  reader : Snappy.Reader := .current
  /-- What writes Zstandard frames. -/
  encoder : Zstandard.Encoder := .plain

/-- The codec that a configuration selects. -/
def Config.blockCodec (config : Config) (libraries : Libraries := {}) : BlockCodec :=
  match config.codec with
  | .snappy => .snappy libraries.reader
  | .zstandard => .zstandard config.level libraries.encoder

/-- The arguments of a call from one buffer to another. -/
structure Transfer where
  input : Buffer
  inputOffset : Int32
  length : Int32
  output : Buffer
  outputOffset : Int32

/-- Accepts a call between two off-heap buffers. -/
def requireDirect (input output : Buffer) : Except Failure Unit :=
  if input.storage ≠ .direct then .error (.unavailable .source)
  else if output.storage ≠ .direct then .error (.unavailable .destination)
  else .ok ()

/-- A bridge: the settings that its calls read, and what it was built with. -/
structure Bridge where
  config : Config := {}
  libraries : Libraries := {}

namespace Bridge

def create (config : Config) (host : Host) (libraries : Libraries := {}) : Bridge × Host :=
  (⟨config, libraries⟩, host.record (.log (.bridgeCreated config)))

def codec (bridge : Bridge) : BlockCodec := bridge.config.blockCodec bridge.libraries

/-! The operations behind the calls read the host's integers in the order in which they are given, so
that the first one that is wrong is the one that is reported. -/

def compressOp (bridge : Bridge) (args : Transfer) : Op Int32 := do
  let window ← Window.ofHost args.inputOffset args.length
  let offset ← nonNegative args.outputOffset "output offset"
  let length ← Dispatch.compress bridge.codec args.input window args.output offset
  toHostInt length

def uncompressOp (bridge : Bridge) (args : Transfer) : Op Int32 := do
  let window ← Window.ofHost args.inputOffset args.length
  let offset ← nonNegative args.outputOffset "output offset"
  let length ← Dispatch.uncompress bridge.codec args.input window args.output offset
  toHostInt length

def maxCompressedLengthOp (bridge : Bridge) (length : Int32) : Op Int32 := do
  let length ← nonNegative length "length"
  let bound ← Dispatch.maxCompressedLength bridge.codec length
  toHostInt bound

def uncompressedLengthOp (bridge : Bridge) (input : Buffer) (offset length : Int32) : Op Int32 := do
  let window ← Window.ofHost offset length
  let length ← Dispatch.uncompressedLength bridge.codec input window
  toHostInt length

def isValidOp (bridge : Bridge) (input : Buffer) (offset length : Int32) : Op Bool := do
  let window ← Window.ofHost offset length
  Dispatch.isValid bridge.codec input window

def copyOp (bridge : Bridge) (args : Transfer) : Op Unit := do
  let window ← Window.ofHost args.inputOffset args.length
  let offset ← nonNegative args.outputOffset "destination offset"
  Dispatch.copy args.input window args.output offset bridge.config.overlap

def shuffleOp (bridge : Bridge) (direction : BitShuffle.Direction) (width : Int32)
    (args : Transfer) : Op Int32 := do
  let inputOffset ← nonNegative args.inputOffset "input offset"
  let elementSize ← ElementSize.ofHost width
  let length ← nonNegative args.length "length"
  let outputOffset ← nonNegative args.outputOffset "output offset"
  let processed ← Dispatch.shuffle direction args.input args.output
    ⟨inputOffset, elementSize, length, outputOffset⟩ bridge.config.remainder
  toHostInt processed

end Bridge

/-- A call of a bridge with its arguments. -/
inductive Call
  /-- Compresses a window; the result is the compressed length. -/
  | compress (args : Transfer)
  /-- Decompresses a window; the result is the declared length. -/
  | uncompress (args : Transfer)
  /-- Compresses between off-heap buffers only. -/
  | compressDirect (args : Transfer)
  /-- Decompresses between off-heap buffers only. -/
  | uncompressDirect (args : Transfer)
  /-- The most room that compressing so many bytes takes. -/
  | maxCompressedLength (length : Int32)
  /-- The length that a window declares. -/
  | uncompressedLength (input : Buffer) (offset length : Int32)
  /-- Whether a window could be decompressed. -/
  | isValid (input : Buffer) (offset length : Int32)
  /-- Copies a window. -/
  | copy (args : Transfer)
  /-- Regroups the bits of elements of some width; the result is the number of bytes. -/
  | shuffle (direction : BitShuffle.Direction) (width : Int32) (args : Transfer)
  /-- Regroups between off-heap buffers only. -/
  | shuffleDirect (direction : BitShuffle.Direction) (width : Int32) (args : Transfer)

/-- What a call returns. -/
inductive Reply
  | number (value : Int32)
  | flag (value : Bool)
  | done
  deriving Repr, DecidableEq

namespace Call

/-- The operation behind a call, without the telling of failures. -/
def op (bridge : Bridge) : Call → Op Reply
  | compress args => Reply.number <$> bridge.compressOp args
  | uncompress args => Reply.number <$> bridge.uncompressOp args
  | compressDirect args => do
    requireDirect args.input args.output
    Reply.number <$> bridge.compressOp args
  | uncompressDirect args => do
    requireDirect args.input args.output
    Reply.number <$> bridge.uncompressOp args
  | maxCompressedLength length => Reply.number <$> bridge.maxCompressedLengthOp length
  | uncompressedLength input offset length =>
    Reply.number <$> bridge.uncompressedLengthOp input offset length
  | isValid input offset length => Reply.flag <$> bridge.isValidOp input offset length
  | copy args => do
    bridge.copyOp args
    return .done
  | shuffle direction width args => Reply.number <$> bridge.shuffleOp direction width args
  | shuffleDirect direction width args => do
    requireDirect args.input args.output
    Reply.number <$> bridge.shuffleOp direction width args

/-- What a call returns in place of a result when it raises a failure. -/
def sentinel : Call → Reply
  | isValid .. => .flag Sentinel.sentinel
  | copy .. => .done
  | _ => .number Sentinel.sentinel

/-- Runs a call: the reply, and the host afterwards. -/
def run (bridge : Bridge) (call : Call) (host : Host) : Reply × Host :=
  have : Sentinel Reply := ⟨call.sentinel⟩
  (call.op bridge).call host

end Call

end BufferBridge
