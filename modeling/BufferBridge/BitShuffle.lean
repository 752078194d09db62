import BufferBridge.Failure

/-! Bit-shuffling: the bits of fixed-width elements are regrouped so that bit `k` of byte `j` of
every element stands in one plane. The elements are cut into blocks whose counts are multiples of
eight; a block of `m` elements becomes one plane of `m / 8` bytes per bit of an element, and fewer
than eight elements at the end stay as they are. Each output byte gathers its eight bits from the
input, so the layout is read off `shuffledByte`, and the inverse off `unshuffledByte`. -/
namespace BufferBridge.BitShuffle

/-- Which way the bits are regrouped. -/
inductive Direction
  /-- From elements to planes. -/
  | shuffle
  /-- From planes back to elements. -/
  | unshuffle
  deriving Repr, DecidableEq

/-- The number of elements of a full block for elements of `width` bytes: about 8 KiB, a multiple
of eight, and never below 128. -/
def blockSize (width : Nat) : Nat :=
  max 128 (8192 / max width 1 / 8 * 8)

/-- A run of elements that is regrouped as a whole. -/
structure Block where
  /-- The number of elements before the block. -/
  start : Nat
  /-- The number of elements of the block, a multiple of eight. -/
  count : Nat
  deriving Repr, DecidableEq

/-- The blocks that `count` elements are cut into: as many full ones as fit, then one of what is
left, rounded down to a multiple of eight. -/
def blocks (width count : Nat) : List Block :=
  let size := blockSize width
  let full := count / size
  let last := count % size / 8 * 8
  (List.range full).map (fun i => ⟨i * size, size⟩) ++
    if last = 0 then [] else [⟨full * size, last⟩]

/-- The number of elements that lie in blocks; the others are copied as they are. -/
def blockedCount (count : Nat) : Nat := count / 8 * 8

/-- Bit `k` of a byte, counted from the lowest. -/
def bitOf (byte : UInt8) (k : Nat) : Bool := byte.toNat.testBit k

/-- The number whose `width` lowest bits are `bit 0`, `bit 1` and so on, with the bits of `high`
above them. -/
def gather (bit : Nat → Bool) : (width : Nat) → (high : Nat) → Nat
  | 0, high => high
  | k + 1, high => gather bit k (2 * high + (bit k).toNat)

/-- The byte with given bits, lowest first. -/
def byteOf (bit : Nat → Bool) : UInt8 := UInt8.ofNat (gather bit 8 0)

/-- Byte `p` of a shuffled block of `count` elements: it belongs to the plane of one bit of one
byte of an element, and collects that bit of eight elements in a row. -/
def shuffledByte (block : Array UInt8) (width count p : Nat) : UInt8 :=
  let plane := p / (count / 8)
  let column := p % (count / 8)
  byteOf fun i => bitOf (block.getD ((8 * column + i) * width + plane / 8) 0) (plane % 8)

/-- Byte `p` of an unshuffled block of `count` elements: it collects one bit from each of the eight
planes of its place in the element. -/
def unshuffledByte (block : Array UInt8) (width count p : Nat) : UInt8 :=
  let element := p / width
  let place := p % width
  byteOf fun k => bitOf (block.getD ((8 * place + k) * (count / 8) + element / 8) 0) (element % 8)

/-- A block of `count` elements, regrouped. -/
def regroup (direction : Direction) (width count : Nat) (block : Bytes) : Bytes :=
  let bytes := block.toArray
  match direction with
  | .shuffle => (List.range (count * width)).map (shuffledByte bytes width count)
  | .unshuffle => (List.range (count * width)).map (unshuffledByte bytes width count)

/-- The first `count` elements of `input`, regrouped block by block. -/
def transform (direction : Direction) (width count : Nat) (input : Bytes) : Bytes :=
  ((blocks width count).flatMap fun block =>
    regroup direction width block.count
      (Bytes.slice input (block.start * width) (block.count * width))) ++
  Bytes.slice input (blockedCount count * width) ((count - blockedCount count) * width)

/-- The number of bytes of `count` elements, if there are that many on both sides. -/
def checkedTotal (inputLength outputLength count width : Nat) : Except BadRequest Nat :=
  if width = 0 then .error .zeroElement
  else if maxSize < count * width then .error (.elementsOverflow count width)
  else if inputLength < count * width ∨ outputLength < count * width then
    .error (.shuffleTooShort (count * width) inputLength outputLength)
  else .ok (count * width)

/-- Regroups the first `count` elements of `input` into the start of `output`. The result is the
number of bytes written and the output afterwards. -/
def apply (direction : Direction) (input output : Bytes) (count width : Nat) :
    Except BadRequest (Nat × Bytes) := do
  let total ← checkedTotal input.length output.length count width
  return (total, Bytes.overlay output 0 (transform direction width count input))

end BufferBridge.BitShuffle
