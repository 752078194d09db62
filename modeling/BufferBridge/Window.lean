import BufferBridge.Failure

/-! Windows: the offset and length of a part of a buffer, and the checks that every call makes on
them before it looks at a byte. Offsets and lengths are machine words, so an end that no word holds
is an error of its own. -/
namespace BufferBridge

/-- A part of a buffer. -/
structure Window where
  offset : Nat
  length : Nat
  deriving Repr, DecidableEq

/-- A host integer that has to be a size: below zero it is refused by name. -/
def nonNegative (value : Int32) (what : String) : Except Failure Nat :=
  if value < 0 then .error (.invalid (.negative what value.toInt)) else .ok value.toInt.toNat

/-- A size that goes back to the host, if the host's integers hold it. -/
def toHostInt (size : Nat) : Except Failure Int32 :=
  if size ≤ maxHostInt then .ok (Int32.ofNat size) else .error (.invalid (.resultTooWide size))

namespace Window

/-- The empty window at the start of a buffer. -/
def empty : Window := ⟨0, 0⟩

/-- The window a host asks for by two of its integers. -/
def ofHost (offset length : Int32) : Except Failure Window := do
  let offset ← nonNegative offset "offset"
  let length ← nonNegative length "length"
  return ⟨offset, length⟩

/-- The position just past the window. -/
def stop (window : Window) : Except Failure Nat :=
  if window.offset + window.length ≤ maxSize then .ok (window.offset + window.length)
  else .error (.invalid (.endOverflows window.offset window.length))

/-- Accepts a window that lies inside the first `capacity` bytes. -/
def checkWithin (window : Window) (capacity : Nat) : Except Failure Unit := do
  let stop ← window.stop
  if capacity < stop then .error (.invalid (.outsideBuffer window.offset stop capacity))
  else .ok ()

end Window

namespace ElementSize

/-- An element size, if it is above zero. -/
def ofNat (size : Nat) : Except Failure ElementSize :=
  if h : 0 < size then .ok ⟨size, h⟩ else .error (.invalid .zeroElement)

/-- The element size a host asks for. -/
def ofHost (size : Int32) : Except Failure ElementSize := do
  ofNat (← nonNegative size "element size")

/-- The number of whole elements in `length` bytes, as far as the policy allows a remainder. -/
def count (size : ElementSize) (length : Nat) (policy : RemainderPolicy) : Except Failure Nat :=
  if length % size.bytes ≠ 0 ∧ policy = .reject then
    .error (.invalid (.partialElement length size.bytes))
  else .ok (length / size.bytes)

end ElementSize

end BufferBridge
