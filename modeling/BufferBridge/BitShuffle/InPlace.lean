import BufferBridge.BitShuffle
import BufferBridge.Words

/-! Bit-shuffling by loops over machine words. A block is cleared and then filled bit by bit: each bit of
the input is sent to its place, where `shuffledByte` would collect it. The blocks are taken from the
front, as many as the loop finds room for. -/
namespace BufferBridge.BitShuffle

open Word (Fault)

/-! ## One block -/

/-- The bits of a byte, the lowest first. -/
def bits (byte : UInt8) : List Bool := (List.range 8).map (bitOf byte)

/-- Sends bit `k` of the byte in column `column` of row `row`, if it is set: each bit of a row has a
plane of `depth` bytes, with one bit for each row. -/
def scatterBit (depth row column k : Nat) (isSet : Bool) (output : Bytes) : Except Fault Bytes :=
  if isSet then do
    let first ← Word.mul 8 column
    let plane ← Word.add first k
    let start ← Word.mul plane depth
    let position ← Word.add start (row / 8)
    Word.setBit output position (row % 8)
  else .ok output

def scatterByte (depth row column : Nat) (byte : UInt8) (output : Bytes) : Except Fault Bytes :=
  if byte = 0 then .ok output
  else Word.forEach (scatterBit depth row column) 0 (bits byte) output

def scatterRow (depth row : Nat) (bytes output : Bytes) : Except Fault Bytes :=
  Word.forEach (scatterByte depth row) 0 bytes output

/-- Transposes a table of rows of `width` bytes into planes of `depth` bytes, which `output` holds. -/
def scatter (width depth : Nat) (table output : Bytes) : Except Fault Bytes := do
  let rows ← Word.chunks table width
  let cleared := List.replicate output.length 0
  Word.forEach (scatterRow depth) 0 rows cleared

/-- Regroups a block of `count` elements. The two directions are one transposition: a row is an element
of `width` bytes one way, and a plane of `count / 8` bytes the other. -/
def regroupInto (direction : Direction) (width count : Nat) (block output : Bytes) :
    Except Fault Bytes :=
  match direction with
  | .shuffle => scatter width (count / 8) block output
  | .unshuffle => scatter (count / 8) width block output

/-! ## All blocks -/

/-- The number of elements of a full block, as `blockSize` has it. -/
def blockSizeInWords (width : Nat) : Except Fault Nat := do
  let elements ← Word.div 8192 (max width 1)
  let rounded ← Word.mul (elements / 8) 8
  return max rounded 128

/-- Regroups the `count` elements after the first `start`, in place. -/
def regroupAt (direction : Direction) (width start count : Nat) (input output : Bytes) :
    Except Fault Bytes := do
  let position ← Word.mul start width
  let next ← Word.add start count
  let stop ← Word.mul next width
  let block ← Word.part input position stop
  let place ← Word.part output position stop
  let regrouped ← regroupInto direction width count block place
  return Bytes.overlay output position regrouped

/-- Regroups full blocks while there are elements for one more, in no more than `turns` turns. The
result is the number of elements done, with the output. -/
def regroupFull (direction : Direction) (width size count : Nat) (input : Bytes) :
    (turns done : Nat) → (output : Bytes) → Except Fault (Nat × Bytes)
  | 0, _, _ => .error .endless
  | turns + 1, done, output => do
    let remaining ← Word.sub count done
    if size ≤ remaining then
      let output ← regroupAt direction width done size input output
      let done ← Word.add done size
      regroupFull direction width size count input turns done output
    else return (done, output)

/-- Regroups what full blocks leave over, but for fewer than eight elements. -/
def regroupLast (direction : Direction) (width count : Nat) (input : Bytes) (done : Nat)
    (output : Bytes) : Except Fault (Nat × Bytes) := do
  let remaining ← Word.sub count done
  let last ← Word.sub remaining (remaining % 8)
  if 0 < last then
    let output ← regroupAt direction width done last input output
    let done ← Word.add done last
    return (done, output)
  else return (done, output)

/-- Copies the elements after the first `done` as they are. -/
def copyTail (width count : Nat) (input : Bytes) (done : Nat) (output : Bytes) :
    Except Fault Bytes := do
  let position ← Word.mul done width
  let stop ← Word.mul count width
  let source ← Word.part input position stop
  let target ← Word.part output position stop
  if source.length = target.length then return Bytes.overlay output position source
  else .error (.unequal source.length target.length)

/-- Regroups the first `count` elements of `input` into the start of `output`, with no more than `turns`
turns of the loop over full blocks. -/
def regroupAll (direction : Direction) (turns width count : Nat) (input output : Bytes) :
    Except Fault (Nat × Bytes) := do
  let size ← blockSizeInWords width
  let (done, output) ← regroupFull direction width size count input turns 0 output
  let (done, output) ← regroupLast direction width count input done output
  let output ← copyTail width count input done output
  let total ← Word.mul count width
  return (total, output)

/-- The same with the arguments checked first. The result, a number of bytes or a failure, comes with
what is in the output afterwards. -/
def applyInPlace (direction : Direction) (turns : Nat) (input output : Bytes) (count width : Nat) :
    Except Fault (Except Failure Nat × Bytes) :=
  match checkedTotal input.length output.length count width with
  | .error cause => .ok (.error (.invalid cause), output)
  | .ok _ => do
    let (total, output) ← regroupAll direction turns width count input output
    return (.ok total, output)

end BufferBridge.BitShuffle
