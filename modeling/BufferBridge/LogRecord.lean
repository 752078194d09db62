import BufferBridge.BitShuffle
import BufferBridge.Config

/-! The log records that calls emit, with their levels and their one wording. -/
namespace BufferBridge

/-- How much a log record matters. -/
inductive LogLevel
  | trace | debug
  deriving Repr, DecidableEq

def LogLevel.title : LogLevel → String
  | trace => "TRACE"
  | debug => "DEBUG"

/-- Something worth a line in a log. -/
inductive LogRecord
  /-- A bridge was set up. -/
  | bridgeCreated (config : Config)
  /-- A failure is about to be raised in the host. -/
  | raising (failure : Failure)
  /-- A window was compressed. -/
  | compressed (inputLength outputLength : Nat) (sourcePinned destinationPinned : Bool)
  /-- A window was decompressed. -/
  | uncompressed (inputLength outputLength : Nat)
  /-- A shuffle left bytes after the last whole element alone. -/
  | truncated (direction : BitShuffle.Direction) (bytes width : Nat)
  /-- An object did not hand out a view of its bytes. -/
  | exportRefused (reason : String)
  deriving Repr, DecidableEq

namespace LogRecord

def level : LogRecord → LogLevel
  | compressed .. | uncompressed .. => .trace
  | _ => .debug

def message : LogRecord → String
  | bridgeCreated config => "bridge created with " ++ config.inspect
  | raising failure => "raising " ++ failure.code.message ++ " to host: " ++ failure.message
  | compressed inputLength outputLength sourcePinned destinationPinned =>
    s!"raw_compress: {inputLength} -> {outputLength} bytes (src pinned: " ++
      boolWord sourcePinned ++ ", dst pinned: " ++ boolWord destinationPinned ++ ")"
  | uncompressed inputLength outputLength =>
    s!"raw_uncompress: {inputLength} -> {outputLength} bytes"
  | truncated direction bytes width =>
    let name := match direction with
      | .shuffle => "Shuffle"
      | .unshuffle => "Unshuffle"
    name ++ s!": truncated {bytes} trailing bytes (element size {width})"
  | exportRefused reason => "buffer export refused: " ++ reason

/-- A record as a line of a log, without the line's end. -/
def line (record : LogRecord) : String :=
  "[" ++ record.level.title ++ "] " ++ record.message

end LogRecord

end BufferBridge
