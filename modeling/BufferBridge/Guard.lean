import BufferBridge.Host
import BufferBridge.Window

/-! Borrowed buffers. A guard stands for a buffer whose address is known and stays put until the guard
is released; releasing gives a pin back and does nothing for off-heap buffers. Guards live inside
`withGuard` and `withPair`, which release on every way out, the last one taken first. The functions
on windows check bounds, overlap and permission before a byte is touched. -/
namespace BufferBridge

/-- A buffer at a known address. -/
structure Guard where
  /-- What the buffer is known by in the trace. -/
  buffer : Nat
  region : Region
  writable : Bool
  role : Role
  /-- The pin attempt that keeps the buffer in place, where one is needed. -/
  pin : Option Nat
  deriving Repr, DecidableEq

namespace Guard

def capacity (guard : Guard) : Nat := guard.region.length

/-- Whether a pin has to be given back for the buffer. -/
def isPinned (guard : Guard) : Bool := guard.pin.isSome

/-- Gives a guard back to the host. -/
def release (guard : Guard) (host : Host) : Host :=
  match guard.pin with
  | some attempt => host.record (.unpin guard.buffer attempt)
  | none => host

/-- The region of a window, once it is known to lie inside the buffer. -/
def span (guard : Guard) (window : Window) : Except Failure Region := do
  window.checkWithin guard.capacity
  return guard.region.part window.offset window.length

/-- Accepts a guard whose buffer may be written. -/
def checkWritable (guard : Guard) : Except Failure Unit :=
  if guard.writable then .ok () else .error (.unavailable guard.role)

/-- The region of a window that is about to be written. -/
def writableSpan (guard : Guard) (window : Window) : Except Failure Region := do
  guard.checkWritable
  guard.span window

end Guard

/-- Finds the address of a buffer, by pinning it or by asking for it, as its storage demands. -/
def resolve (buffer : Buffer) (role : Role) : Op Guard := fun host =>
  match buffer.storage with
  | .heap =>
    match host.pin buffer with
    | (some attempt, host) =>
      (.ok ⟨buffer.id, buffer.region, buffer.writable, role, some attempt⟩, host)
    | (none, host) => (.error (.outOfMemory role), host)
  | .direct =>
    let host := host.record (.address buffer.id)
    if buffer.reachable then (.ok ⟨buffer.id, buffer.region, buffer.writable, role, none⟩, host)
    else (.error (.unavailable role), host)

variable {α : Type}

/-- Runs `use` with a guard on a buffer and releases it, however `use` ends. -/
def withGuard (buffer : Buffer) (role : Role) (use : Guard → Op α) : Op α := fun host =>
  match resolve buffer role host with
  | (.error failure, host) => (.error failure, host)
  | (.ok guard, host) =>
    let (result, host) := use guard host
    (result, guard.release host)

/-- Guards on a source and a destination. Where the destination cannot be had, the source is released
before the failure is known. -/
def resolvePair (source destination : Buffer) : Op (Guard × Guard) := fun host =>
  match resolve source .source host with
  | (.error failure, host) => (.error failure, host)
  | (.ok src, host) =>
    match resolve destination .destination host with
    -- all or nothing: the caller gets no guard that it would have to give back
    | (.error failure, host) => (.error failure, src.release host)
    | (.ok dst, host) => (.ok (src, dst), host)

/-- Runs `use` with guards on a source and a destination and releases them, the destination first,
however `use` ends. -/
def withPair (source destination : Buffer) (use : Guard → Guard → Op α) : Op α := fun host =>
  match resolvePair source destination host with
  | (.error failure, host) => (.error failure, host)
  | (.ok (src, dst), host) =>
    let (result, host) := use src dst host
    (result, src.release (dst.release host))

/-- The regions of a source window and of a destination window that is about to be written, once they
are known to be inside their buffers and to have no byte in common. -/
def splitWindows (src : Guard) (srcWindow : Window) (dst : Guard) (dstWindow : Window) :
    Except Failure (Region × Region) := do
  let input ← src.span srcWindow
  let output ← dst.span dstWindow
  if input.overlaps output then
    .error (.invalid (.windowsOverlap srcWindow.offset (srcWindow.offset + srcWindow.length)
      dstWindow.offset (dstWindow.offset + dstWindow.length)))
  else
    dst.checkWritable
    return (input, output)

/-- Copies a source window to an offset of the destination, as if through a buffer of its own. -/
def copyWindow (src : Guard) (srcWindow : Window) (dst : Guard) (dstOffset : Nat)
    (allowOverlap : Bool) : Op Unit := do
  -- unlike for a pair of windows, permission is looked at before bounds
  dst.checkWritable
  let input ← src.span srcWindow
  let output ← dst.span ⟨dstOffset, srcWindow.length⟩
  if !allowOverlap && input.overlaps output then
    Op.fail (.invalid .copyOverlaps)
  else
    Op.write output (← Op.read input)

end BufferBridge
