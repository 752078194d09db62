import BufferBridge.Bytes

/-! The widths a shuffle works with: what an element type is, how wide it is, and how many whole
elements a stretch of bytes holds under either policy for a remainder. -/
namespace BufferBridge

/-- The element types a caller can name. Only the width matters to the transform. -/
inductive ElementType
  | byte | short | int | long | float | double
  deriving Repr, DecidableEq

namespace ElementType

/-- The number of bytes of one element. -/
def width : ElementType → Nat
  | byte => 1
  | short => 2
  | int | float => 4
  | long | double => 8

def title : ElementType → String
  | byte => "BYTE"
  | short => "SHORT"
  | int => "INT"
  | long => "LONG"
  | float => "FLOAT"
  | double => "DOUBLE"

def key : ElementType → String
  | byte => "byte"
  | short => "short"
  | int => "int"
  | long => "long"
  | float => "float"
  | double => "double"

/-- Every element type, in the order messages list them. -/
def all : List ElementType := [byte, short, int, long, float, double]

theorem width_pos (type : ElementType) : 0 < type.width := by
  cases type <;> decide

end ElementType

/-- What a shuffle does with bytes after the last whole element. -/
inductive RemainderPolicy
  /-- The call fails. -/
  | reject
  /-- The bytes are neither read nor written. -/
  | truncate
  deriving Repr, DecidableEq

/-- The width in bytes of one element of a shuffle, never zero. -/
structure ElementSize where
  bytes : Nat
  bytes_pos : 0 < bytes
  deriving Repr, DecidableEq

/-- The element size of an element type. -/
def ElementType.size (type : ElementType) : ElementSize :=
  ⟨type.width, type.width_pos⟩

end BufferBridge
