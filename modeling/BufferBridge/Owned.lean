import BufferBridge.BlockCodec
import BufferBridge.Text.Utf8

/-! The operations on byte strings that belong to the caller: nothing to pin, a fresh byte string as
the result. The codec is Snappy unless one is given, as its current release reads it unless another is
given. -/
namespace BufferBridge.Owned

/-- Compresses `input`. -/
def compressWith (codec : BlockCodec) (input : Bytes) : Except Failure Bytes := do
  let room ← codec.bound input.length
  let outcome := codec.compress input room
  let length ← outcome.result
  return Bytes.fit (min length room) outcome.written

/-- The length that `input` declares, as seen by a caller that asked to decompress. -/
def declaredLength (codec : BlockCodec) (input : Bytes) : Except Failure Nat :=
  (codec.uncompressedLength input).mapError Failure.whileUncompressing

/-- Decompresses `input` into exactly the length that it declares. -/
def uncompressWith (codec : BlockCodec) (input : Bytes) : Except Failure Bytes := do
  let length ← declaredLength codec input
  let outcome := codec.uncompress input length
  outcome.result
  return Bytes.fit length outcome.written

/-- Compresses `input` as a Snappy block. -/
def compress (input : Bytes) : Except Failure Bytes := compressWith .snappy input

/-- Decompresses a Snappy block. -/
def uncompress (input : Bytes) (reader : Snappy.Reader := .current) : Except Failure Bytes :=
  uncompressWith (.snappy reader) input

/-- Compresses a text as a Snappy block. -/
def compressText (text : String) : Except Failure Bytes := compress (Utf8.encode text)

/-- Decompresses a Snappy block that holds a text. -/
def uncompressText (input : Bytes) (reader : Snappy.Reader := .current) : Except Failure String := do
  let bytes ← uncompress input reader
  (Utf8.decode bytes).mapError fun fault => .invalid (.notText fault.message)

/-- The most room that compressing so many bytes as a Snappy block takes. -/
def maxCompressedLength (length : Nat) : Except Failure Nat := BlockCodec.snappy.bound length

/-- The length that a Snappy block declares. -/
def uncompressedLength (input : Bytes) (reader : Snappy.Reader := .current) : Except Failure Nat :=
  (BlockCodec.snappy reader).uncompressedLength input

/-- Whether `input` is a Snappy block that can be decompressed. -/
def isValid (input : Bytes) (reader : Snappy.Reader := .current) : Bool :=
  (BlockCodec.snappy reader).isValid input

end BufferBridge.Owned
