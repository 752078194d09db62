import BufferBridge.BlockCodec
import BufferBridge.Zstandard.Encoder
import BufferBridge.Zstandard.Validator

/-! Zstandard as a block codec: each compressed block is a frame that records the size of its
content, and decompressing asks for exactly as many bytes as there is room for. -/
namespace BufferBridge.BlockCodec

/-- The Zstandard format at a compression level, as an encoder writes it. -/
def zstandard (level : Int32) (encoder : Zstandard.Encoder := .plain) : BlockCodec where
  maxCompressedLength := Zstandard.maxCompressedLength
  compress input room :=
    let (written, result) := encoder.compress level input room
    ⟨written, result.mapError fun fault => .codec .compress (.zstandard fault)⟩
  uncompressedLength input :=
    (Zstandard.recordedContentSize input).mapError fun fault =>
      .codec .uncompressedLength (.zstandard fault)
  uncompress input room :=
    match Zstandard.decompress input room with
    | .error fault => ⟨[], .error (.codec .uncompress (.zstandard fault))⟩
    | .ok output =>
      ⟨output.toList,
        if output.size ≠ room then .error (.codec .uncompress (.wrongLength output.size room))
        else .ok ()⟩
  isValid := Zstandard.isValid

end BufferBridge.BlockCodec
