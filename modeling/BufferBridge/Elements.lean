import BufferBridge.BitShuffle
import BufferBridge.Owned

/-! Sequences of values of one fixed width, seen as their bytes. The operations on them are those on
byte strings, with the length checked to be a whole number of values. -/
namespace BufferBridge

/-- Values of `width` bytes each, as they stand in memory. -/
structure Elements (width : Nat) where
  count : Nat
  bytes : Bytes
  length_bytes : bytes.length = count * width

namespace Elements

variable {width : Nat}

/-- The number of whole values in `length` bytes, if they are nothing else. Values of no bytes cannot
be counted. -/
def countOf (width length : Nat) : Except Failure Nat :=
  if width = 0 ∨ length % width ≠ 0 then .error (.invalid (.notWholeElements length width))
  else .ok (length / width)

/-- As many values as the first `count * width` bytes hold, zeros where bytes are missing. -/
def ofBytes (width count : Nat) (bytes : Bytes) : Elements width :=
  ⟨count, Bytes.fit (count * width) bytes, Bytes.length_fit _ _⟩

/-- Compresses the bytes of the values. -/
def compress (values : Elements width) : Except Failure Bytes := Owned.compress values.bytes

/-- Decompresses to values of a given width. -/
def uncompress (width : Nat) (input : Bytes) (reader : Snappy.Reader := .current) :
    Except Failure (Elements width) := do
  let length ← Owned.declaredLength (.snappy reader) input
  let count ← countOf width length
  let outcome := (BlockCodec.snappy reader).uncompress input length
  outcome.result
  return ofBytes width count outcome.written

/-- Regroups the first `count` elements of `input` into as many bytes as `input` has. -/
def regroup (direction : BitShuffle.Direction) (input : Bytes) (count width : Nat) :
    Except Failure Bytes :=
  match BitShuffle.apply direction input (List.replicate input.length 0) count width with
  | .error cause => .error (.invalid cause)
  | .ok (_, output) => .ok output

/-- Bit-shuffles the values. -/
def shuffle (values : Elements width) : Except Failure Bytes :=
  regroup .shuffle values.bytes values.count width

/-- Undoes a bit-shuffle of values of a given width. -/
def unshuffle (width : Nat) (input : Bytes) : Except Failure (Elements width) := do
  let count ← countOf width input.length
  return ofBytes width count (← regroup .unshuffle input count width)

/-- Regroups bytes that hold values of a named type. -/
def regroupBytes (direction : BitShuffle.Direction) (input : Bytes) (type : ElementType) :
    Except Failure Bytes :=
  if input.length % type.width ≠ 0 then
    .error (.invalid (.notWholeType input.length type))
  else regroup direction input (input.length / type.width) type.width

end Elements

end BufferBridge
