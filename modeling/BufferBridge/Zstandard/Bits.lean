import BufferBridge.Bytes

/-! Bits of a byte string as numbers. Bit `8 * i + k` is bit `k` of byte `i`, counted from the lowest.
Table descriptions are read upwards from the first bit; entropy-coded data is read downwards from a
marker, the highest bit set in the last byte. Both readers take bits that are not there for zeros, and
whoever reads checks at the end that there were enough. -/
namespace BufferBridge.Zstandard

/-- A bit of a byte string, zero outside of it. -/
def bitAt (bytes : Array UInt8) (position : Int) : Nat :=
  match position with
  | .ofNat position => (bytes.getD (position / 8) 0).toNat / Nat.pow 2 (position % 8) % 2
  | .negSucc _ => 0

/-- The `width` bits below a position as a number, the one right below it as the highest. -/
def bitsBelow (bytes : Array UInt8) : (width : Nat) → (position : Int) → (high : Nat) → Nat
  | 0, _, high => high
  | width + 1, position, high =>
    bitsBelow bytes width (position - 1) (2 * high + bitAt bytes (position - 1))

/-- The `width` bits from a position on as a number, the first as the lowest. -/
def bitsFrom (bytes : Array UInt8) (width position : Nat) : Nat :=
  bitsBelow bytes width (position + width : Nat) 0

/-- Data that is read downwards. -/
structure BitStream where
  bytes : Array UInt8
  /-- The number of bits that are left, below zero where more were read than there were. -/
  left : Int

namespace BitStream

/-- The bits below the marker in the last byte, if there is one. -/
def ofBytes? (bytes : Array UInt8) : Option BitStream :=
  let last := (bytes.back?.getD 0).toNat
  if last = 0 then none else some ⟨bytes, 8 * (bytes.size - 1 : Nat) + Nat.log2 last⟩

def peek (stream : BitStream) (width : Nat) : Nat := bitsBelow stream.bytes width stream.left 0

def skip (stream : BitStream) (width : Nat) : BitStream :=
  { stream with left := stream.left - width }

/-- The next `width` bits and the stream after them. -/
def read (stream : BitStream) (width : Nat) : Nat × BitStream :=
  (stream.peek width, stream.skip width)

/-- Whether more bits were read than there were. -/
def overrun (stream : BitStream) : Bool := stream.left < 0

/-- Whether exactly the bits that there were have been read. -/
def finished (stream : BitStream) : Bool := stream.left = 0

end BitStream

end BufferBridge.Zstandard
