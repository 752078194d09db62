import BufferBridge.BlockCodec
import BufferBridge.Guard

/-! The operations on buffers, each in the same order: look at the arguments alone, borrow the
buffers, carve the windows, run the codec or the transform, release. Nothing is raised here; the
result of an operation is a value or a failure. -/
namespace BufferBridge.Dispatch

/-- Puts what a codec wrote into a region and gives its result. -/
def deliver {α : Type} (region : Region) (outcome : Outcome α) : Op α := do
  Op.write region outcome.written
  outcome.result

/-- The most room that compressing `length` bytes takes, as long as that is possible at all. -/
def maxCompressedLength (codec : BlockCodec) (length : Nat) : Op Nat := do
  Op.note (.codec (.maxCompressedLength length))
  codec.bound length

/-- Compresses a window of `input` into `output` from an offset on. The codec may use all room up to
the end of the output; the result is the compressed length. -/
def compress (codec : BlockCodec) (input : Buffer) (window : Window) (output : Buffer)
    (offset : Nat) : Op Nat := do
  let _ ← maxCompressedLength codec window.length
  withPair input output fun src dst => do
    if dst.capacity < offset then
      Op.fail (.invalid (.offsetOutsideBuffer offset dst.capacity))
    else
      let (source, destination) ← splitWindows src window dst ⟨offset, dst.capacity - offset⟩
      let bytes ← Op.read source
      Op.note (.codec (.compress bytes destination.length))
      let length ← deliver destination (codec.compress bytes destination.length)
      Op.note (.log (.compressed window.length length src.isPinned dst.isPinned))
      return length

/-- Decompresses a window of `input` into `output` from an offset on. The result is the length that
the input declares. Where that does not fit, the input is checked, so that noise is reported as
corrupt and not as a window that is too small. -/
def uncompress (codec : BlockCodec) (input : Buffer) (window : Window) (output : Buffer)
    (offset : Nat) : Op Nat :=
  withPair input output fun src dst => do
    let bytes ← Op.read (← src.span window)
    Op.note (.codec (.uncompressedLength bytes))
    let length ← (codec.uncompressedLength bytes).mapError Failure.whileUncompressing
    let target : Window := ⟨offset, length⟩
    -- a header that promises more than there is room for is noise more often than not
    let fits := (target.checkWithin dst.capacity).isOk
    if !fits then Op.note (.codec (.isValid bytes))
    if !fits && !codec.isValid bytes then
      Op.fail (.codec .uncompress (.corruptDeclaring length))
    else
      let (_, destination) ← splitWindows src window dst target
      Op.note (.codec (.uncompress bytes destination.length))
      deliver destination (codec.uncompress bytes destination.length)
      Op.note (.log (.uncompressed window.length length))
      return length

/-- Looks at a window without writing to anything: the codec is asked about its bytes, and the answer is
the result. -/
def inspect {α : Type} (input : Buffer) (window : Window) (ask : Bytes → CodecCall)
    (answer : Bytes → Except Failure α) : Op α :=
  withGuard input .source fun src => do
    let bytes ← Op.read (← src.span window)
    Op.note (.codec (ask bytes))
    answer bytes

/-- The length that a window declares for what it decompresses to. -/
def uncompressedLength (codec : BlockCodec) (input : Buffer) (window : Window) : Op Nat :=
  inspect input window .uncompressedLength codec.uncompressedLength

/-- Whether a window could be decompressed. A window that could not is an ordinary answer. -/
def isValid (codec : BlockCodec) (input : Buffer) (window : Window) : Op Bool :=
  inspect input window .isValid fun bytes => .ok (codec.isValid bytes)

/-- Copies a window of `source` to an offset of `destination`. -/
def copy (source : Buffer) (window : Window) (destination : Buffer) (offset : Nat)
    (allowOverlap : Bool) : Op Unit :=
  withPair source destination fun src dst => copyWindow src window dst offset allowOverlap

structure ShuffleRequest where
  inputOffset : Nat
  elementSize : ElementSize
  length : Nat
  outputOffset : Nat

/-- The codec operation that a direction of shuffling counts as. -/
def codecOp : BitShuffle.Direction → CodecOp
  | .shuffle => .shuffle
  | .unshuffle => .unshuffle

/-- Regroups the bits of the elements of a window. The result is the number of bytes regrouped, which
is below the length only where a partial element may be left over. -/
def shuffle (direction : BitShuffle.Direction) (input output : Buffer) (request : ShuffleRequest)
    (policy : RemainderPolicy) : Op Nat := do
  let width := request.elementSize.bytes
  let count ← request.elementSize.count request.length policy
  -- what is left over after the last whole element belongs to neither window
  let total := count * width
  withPair input output fun src dst => do
    let (source, destination) ←
      splitWindows src ⟨request.inputOffset, total⟩ dst ⟨request.outputOffset, total⟩
    let bytes ← Op.read source
    let before ← Op.read destination
    Op.note (.codec (.regroup direction bytes count width))
    match BitShuffle.apply direction bytes before count width with
    | .error cause => Op.fail (.codec (codecOp direction) (.request cause))
    | .ok (processed, after) =>
      Op.write destination after
      if total ≠ request.length then
        Op.note (.log (.truncated direction (request.length - total) width))
      return processed

end BufferBridge.Dispatch
