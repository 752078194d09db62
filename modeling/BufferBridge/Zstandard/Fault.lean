/-! What can be wrong with Zstandard frames, or with the room given for one, and the words for it. -/
namespace BufferBridge.Zstandard

/-- Why reading, compressing or decompressing Zstandard frames failed. -/
inductive Fault
  /-- No frame header stands at the start of the input. -/
  | notAHeader
  /-- The first frame leaves its content size open. -/
  | sizeNotRecorded
  /-- The input ends too early, goes on too long, or a part has an impossible size. -/
  | wrongInputSize
  /-- The magic number at the start of a frame is not one of the format. -/
  | unknownMagic
  /-- A header uses a feature that is not supported. -/
  | unsupportedParameter
  /-- The window a frame asks for is above every limit. -/
  | windowTooLarge
  /-- The frame was made with a dictionary. -/
  | wrongDictionary
  /-- The frame refers to a table that only a dictionary could have supplied. -/
  | corruptDictionary
  /-- The literals are too few for the layout their header announces. -/
  | badLiteralsHeader
  /-- The content of a block or of a frame contradicts itself. -/
  | corrupt
  /-- The content does not have the checksum that the frame records. -/
  | wrongChecksum
  /-- The output has less room than the result needs. -/
  | outputTooSmall
  deriving Repr, DecidableEq

def Fault.message : Fault → String
  | notAHeader => "not a zstd frame header"
  | sizeNotRecorded => "frame does not record its content size"
  | wrongInputSize => "Src size is incorrect"
  | unknownMagic => "Unknown frame descriptor"
  | unsupportedParameter => "Unsupported frame parameter"
  | windowTooLarge => "Frame requires too much memory for decoding"
  | wrongDictionary => "Dictionary mismatch"
  | corruptDictionary => "Dictionary is corrupted"
  | badLiteralsHeader => "Header of Literals' block doesn't respect format specification"
  | corrupt => "Data corruption detected"
  | wrongChecksum => "Restored data doesn't match checksum"
  | outputTooSmall => "Destination buffer is too small"

end BufferBridge.Zstandard
