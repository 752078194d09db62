import BufferBridge.LogRecord
import BufferBridge.Memory

/-! The managed runtime that owns the bytes, as far as a call can see it. A host answers pin requests
and address requests, hears of failures by their codes, and everything it is asked or told is
recorded in order, together with the log records and codec calls in between. Which pin attempts it
refuses is fixed in advance by a schedule, so that a run is a function of the host it starts from. -/
namespace BufferBridge

/-- How a host keeps the bytes of a buffer. -/
inductive Storage
  /-- On the managed heap: the bytes may move unless the buffer is pinned. -/
  | heap
  /-- Off the heap, at one address for life. -/
  | direct
  deriving Repr, DecidableEq

/-- A buffer handed to a call. -/
structure Buffer where
  /-- What the buffer is known by in the trace. -/
  id : Nat
  storage : Storage
  /-- The bytes it stands for. -/
  region : Region
  writable : Bool := true
  /-- Whether the host can produce its address at all. -/
  reachable : Bool := true
  deriving Repr, DecidableEq

/-- A question to a codec or to the shuffle transform. -/
inductive CodecCall
  | maxCompressedLength (length : Nat)
  | compress (input : Bytes) (room : Nat)
  | uncompressedLength (input : Bytes)
  | uncompress (input : Bytes) (room : Nat)
  | isValid (input : Bytes)
  | regroup (direction : BitShuffle.Direction) (input : Bytes) (count width : Nat)
  deriving Repr, DecidableEq

/-- One entry of the record of a run. -/
inductive Event
  /-- A buffer was pinned by the pin attempt with this number. -/
  | pin (buffer attempt : Nat)
  /-- A pin attempt was refused. -/
  | refuse (buffer attempt : Nat)
  /-- The pin made by an attempt was given back. -/
  | unpin (buffer attempt : Nat)
  /-- A buffer's address was asked for. -/
  | address (buffer : Nat)
  /-- A failure was raised in the caller. -/
  | raise (code : ErrorCode)
  /-- A log record was emitted. -/
  | log (record : LogRecord)
  /-- A codec was asked something. -/
  | codec (call : CodecCall)
  deriving Repr, DecidableEq

structure Host where
  memory : Memory
  /-- Which pin attempts are refused, by their numbers. -/
  refuses : Nat → Bool := fun _ => false
  /-- The number of pin attempts so far, refused ones included. -/
  attempts : Nat := 0
  /-- What has happened so far, first things first. -/
  trace : List Event := []

namespace Host

def record (event : Event) (host : Host) : Host :=
  { host with trace := host.trace ++ [event] }

/-- Asks the host to pin a buffer. The answer is the number of the attempt, if it was granted. -/
def pin (buffer : Buffer) (host : Host) : Option Nat × Host :=
  let attempt := host.attempts
  let host := { host with attempts := attempt + 1 }
  if buffer.reachable && !host.refuses attempt then
    (some attempt, host.record (.pin buffer.id attempt))
  else (none, host.record (.refuse buffer.id attempt))

/-- The pin attempts by which a buffer is pinned now. -/
def pinsOf (buffer : Nat) (host : Host) : List Nat :=
  host.trace.foldl (fun pins event =>
    match event with
    | .pin b attempt => if b = buffer then pins ++ [attempt] else pins
    | .unpin b attempt => if b = buffer then pins.erase attempt else pins
    | _ => pins) []

end Host

/-- The code that was raised in the course of some events. -/
def raised? (events : List Event) : Option ErrorCode :=
  events.findSome? fun
    | .raise code => some code
    | _ => none

/-- A part of a call: it may fail, and it may change the host either way. -/
def Op (α : Type) : Type := Host → Except Failure α × Host

namespace Op

instance : Monad Op where
  pure value := fun host => (.ok value, host)
  bind op next := fun host =>
    match op host with
    | (.ok value, host) => next value host
    | (.error failure, host) => (.error failure, host)

variable {α : Type}

/-- Ends a call with a failure. -/
def fail (failure : Failure) : Op α := fun host => (.error failure, host)

/-- A result that needs no host. -/
def ofExcept (result : Except Failure α) : Op α := fun host => (result, host)

instance : MonadLift (Except Failure) Op := ⟨ofExcept⟩

/-- Records an event. -/
def note (event : Event) : Op Unit := fun host => (.ok (), host.record event)

/-- The bytes of a region. -/
def read (region : Region) : Op Bytes := fun host => (.ok (host.memory.read region), host)

/-- Writes the start of a region. -/
def write (region : Region) (data : Bytes) : Op Unit := fun host =>
  (.ok (), { host with memory := host.memory.write region data })

end Op

end BufferBridge
