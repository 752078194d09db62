import BufferBridge.Bytes

/-! What can be wrong with a Snappy block, or with the room given for one, and the words for it. -/
namespace BufferBridge.Snappy

/-- Why compressing or decompressing a Snappy block failed. -/
inductive Fault
  /-- The input, or the length its header declares, is above what the format can express. -/
  | tooLarge (size : Nat)
  /-- The output has less room than the result may need. -/
  | outputTooSmall (room required : Nat)
  /-- There is no input at all, not even a header. -/
  | empty
  /-- The length header does not end, or has more bytes than are read. -/
  | badHeader
  /-- A literal reaches past the end of the input or of the output. -/
  | literalCut (length inputLeft outputLeft : Nat)
  /-- The input ends inside the offset of a copy. -/
  | offsetCut (width inputLeft : Nat)
  /-- A copy reaches back to nowhere, or before the start of the output. -/
  | badOffset (offset produced : Nat)
  /-- A copy reaches past the end of the output. -/
  | copyCut (length outputLeft : Nat)
  /-- The elements produce another number of bytes than the header declares. -/
  | lengthMismatch (declared produced : Nat)
  deriving Repr, DecidableEq

/-- The largest uncompressed length the format allows. -/
def maxInputLength : Nat := 0xFFFFFFFF

def Fault.message : Fault → String
  | tooLarge size =>
    s!"snappy: input buffer (size = {size}) is larger than allowed (size = {maxInputLength})"
  | outputTooSmall room required =>
    s!"snappy: output buffer (size = {room}) is smaller than required (size = {required})"
  | empty => "snappy: corrupt input (empty)"
  | badHeader => "snappy: corrupt input (invalid header)"
  | literalCut length inputLeft outputLeft =>
    s!"snappy: corrupt input (expected literal read of length {length}; " ++
      s!"remaining src: {inputLeft}; remaining dst: {outputLeft})"
  | offsetCut width inputLeft =>
    s!"snappy: corrupt input (expected copy read of length {width}; remaining src: {inputLeft})"
  | badOffset offset produced =>
    s!"snappy: corrupt input (expected valid offset but got offset {offset}; " ++
      s!"dst position: {produced})"
  | copyCut length outputLeft =>
    s!"snappy: corrupt input (expected copy write of length {length}; " ++
      s!"remaining dst: {outputLeft})"
  | lengthMismatch declared produced =>
    s!"snappy: corrupt input (header mismatch; expected {declared} decompressed bytes " ++
      s!"but got {produced})"

end BufferBridge.Snappy
