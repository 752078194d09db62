import BufferBridge.Config
import BufferBridge.Failure
import BufferBridge.Snappy.Decoder
import BufferBridge.Snappy.Encoder
import BufferBridge.Snappy.Validator

/-! What a block codec offers. A codec is a bundle of functions of its input and of the room it is
given; what the output held before does not reach it. What it writes starts at the front of the
output, whether it succeeds or not. -/
namespace BufferBridge

/-- What a codec leaves behind. -/
structure Outcome (α : Type) where
  /-- The bytes at the front of the output; those that do not fit are not written. -/
  written : Bytes
  result : Except Failure α

/-- A block compression codec. -/
structure BlockCodec where
  /-- The most room that compressing so many bytes takes, or zero if they are too many. -/
  maxCompressedLength : Nat → Nat
  /-- Compresses the input into an output with so much room, and tells the compressed length. -/
  compress : Bytes → Nat → Outcome Nat
  /-- The length that the input declares for what it decompresses to. -/
  uncompressedLength : Bytes → Except Failure Nat
  /-- Decompresses the input so that it fills an output with so much room. -/
  uncompress : Bytes → Nat → Outcome Unit
  /-- Whether the input could be decompressed. -/
  isValid : Bytes → Bool

namespace BlockCodec

/-- The most room that compressing `length` bytes takes, as long as that is possible at all. -/
def bound (codec : BlockCodec) (length : Nat) : Except Failure Nat :=
  match codec.maxCompressedLength length with
  | 0 => .error (.invalid (.tooLargeToCompress length))
  | room => .ok room

/-- The Snappy block format, as a release of its reader takes it. -/
def snappy (reader : Snappy.Reader := .current) : BlockCodec where
  maxCompressedLength := Snappy.maxCompressedLength
  compress input room :=
    let bound := Snappy.maxCompressedLength input.length
    -- the encoder asks for the room of the worst case, however well the input compresses
    if bound = 0 then ⟨[], .error (.codec .compress (.snappy (.tooLarge input.length)))⟩
    else if room < bound then
      ⟨[], .error (.codec .compress (.snappy (.outputTooSmall room bound)))⟩
    else
      let compressed := Snappy.compress input
      ⟨compressed, .ok compressed.length⟩
  uncompressedLength input :=
    (Snappy.declaredLength reader input).mapError fun fault => .codec .uncompressedLength (.snappy fault)
  uncompress input room :=
    let (written, result) := Snappy.decompress reader input room
    ⟨written, do
      let length ← result.mapError fun fault => .codec .uncompress (.snappy fault)
      if length ≠ room then .error (.codec .uncompress (.wrongLength length room)) else .ok ()⟩
  isValid := Snappy.isValid reader

end BlockCodec

end BufferBridge
