import BufferBridge.Bytes

/-! The host's memory: numbered blocks of bytes, none of which shares an address with another, and
regions, stretches of addresses within one block. -/
namespace BufferBridge

/-- A stretch of addresses of one block. -/
structure Region where
  block : Nat
  start : Nat
  length : Nat
  deriving Repr, DecidableEq

namespace Region

/-- The addresses of a region: pairs of a block and a position in it. -/
def Covers (region : Region) (block position : Nat) : Prop :=
  block = region.block ∧ region.start ≤ position ∧ position < region.start + region.length

/-- Whether two regions have an address in common. Empty regions have none. -/
def overlaps (a b : Region) : Bool :=
  a.block == b.block && 0 < a.length && 0 < b.length &&
    a.start < b.start + b.length && b.start < a.start + a.length

/-- The part of a region that starts `offset` bytes into it. -/
def part (region : Region) (offset length : Nat) : Region :=
  ⟨region.block, region.start + offset, length⟩

end Region

/-- All bytes that a host's buffers may stand for. -/
structure Memory where
  blocks : List Bytes
  deriving Repr, DecidableEq

namespace Memory

def block (memory : Memory) (index : Nat) : Bytes := memory.blocks.getD index []

/-- The byte at an address. -/
def byteAt? (memory : Memory) (block position : Nat) : Option UInt8 := (memory.block block)[position]?

/-- The bytes of a region. -/
def read (memory : Memory) (region : Region) : Bytes :=
  Bytes.slice (memory.block region.block) region.start region.length

/-- The memory with `data` written at the start of a region, as far as the region goes. -/
def write (memory : Memory) (region : Region) (data : Bytes) : Memory :=
  ⟨memory.blocks.modify region.block fun block =>
    Bytes.overlay block region.start (data.take region.length)⟩

end Memory

end BufferBridge
