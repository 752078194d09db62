import BufferBridge.ElementSize
import BufferBridge.Snappy.Fault
import BufferBridge.Zstandard.Fault

/-! Everything that can go wrong, by cause, with the one wording of each cause and the numeric code
the host is told. -/
namespace BufferBridge

/-- The side of a call that a buffer is supplied for. -/
inductive Role
  | source | destination
  deriving Repr, DecidableEq

def Role.title : Role → String
  | source => "input"
  | destination => "destination"

inductive CodecOp
  | compress | uncompress | uncompressedLength | shuffle | unshuffle
  deriving Repr, DecidableEq

def CodecOp.title : CodecOp → String
  | compress => "compress"
  | uncompress => "uncompress"
  | uncompressedLength => "uncompressed length"
  | shuffle => "bit-shuffle"
  | unshuffle => "bit-unshuffle"

/-- Why the arguments of a call cannot be served. -/
inductive BadRequest
  /-- An offset or a length below zero. -/
  | negative (what : String) (value : Int)
  /-- A window whose end no machine word holds. -/
  | endOverflows (offset length : Nat)
  /-- A window that reaches past the end of its buffer. -/
  | outsideBuffer (offset stop capacity : Nat)
  /-- Elements of no bytes. -/
  | zeroElement
  /-- A length that leaves a partial element over. -/
  | partialElement (length size : Nat)
  /-- An input that no codec output could hold. -/
  | tooLargeToCompress (length : Nat)
  /-- An output offset past the end of the output buffer. -/
  | offsetOutsideBuffer (offset capacity : Nat)
  /-- A source window that shares bytes with the destination window. -/
  | windowsOverlap (sourceStart sourceStop destinationStart destinationStop : Nat)
  /-- A copy between ranges that share bytes, where that is not allowed. -/
  | copyOverlaps
  /-- A result that the host's integers cannot hold. -/
  | resultTooWide (result : Nat)
  /-- A number of elements whose total size no machine word holds. -/
  | elementsOverflow (count size : Nat)
  /-- An input or output shorter than the elements to transpose. -/
  | shuffleTooShort (total inputLength outputLength : Nat)
  /-- Bytes that are not a whole number of elements of a named type. -/
  | notWholeType (length : Nat) (type : ElementType)
  /-- Bytes that are not a whole number of elements of some width. -/
  | notWholeElements (length size : Nat)
  /-- Decompressed bytes that are not text, and where they stop being text. -/
  | notText (reason : String)
  /-- A log file that cannot be opened. -/
  | logFile (name reason : String)
  /-- A configuration that cannot be read. -/
  | badConfig (reason : String)
  /-- A cause that is known by its words alone. -/
  | other (text : String)
  deriving Repr, DecidableEq

def BadRequest.message : BadRequest → String
  | negative what value => s!"negative {what}: {value}"
  | endOverflows offset length => s!"window offset {offset} + length {length} overflows"
  | outsideBuffer offset stop capacity =>
    s!"window [{offset}, {stop}) exceeds buffer capacity {capacity}"
  | zeroElement => "element size must be positive"
  | partialElement length size => s!"length {length} is not a multiple of element size {size}"
  | tooLargeToCompress length => s!"input of {length} bytes is too large to compress"
  | offsetOutsideBuffer offset capacity =>
    s!"output offset {offset} exceeds buffer capacity {capacity}"
  | windowsOverlap sourceStart sourceStop destinationStart destinationStop =>
    s!"source window [{sourceStart}, {sourceStop}) overlaps " ++
      s!"destination window [{destinationStart}, {destinationStop})"
  | copyOverlaps => "array copy source and destination overlap"
  | resultTooWide result => s!"result {result} does not fit in an i32"
  | elementsOverflow count size => s!"{count} elements of {size} bytes overflows"
  | shuffleTooShort total inputLength outputLength =>
    s!"bit-shuffle of {total} bytes needs input {inputLength} and output {outputLength} " ++
      "bytes to be large enough"
  | notWholeType length type =>
    s!"{length} bytes is not a whole number of {type.title} elements"
  | notWholeElements length size =>
    s!"{length} bytes is not a whole number of {size}-byte elements"
  | notText reason => s!"decompressed data is not UTF-8: {reason}"
  | logFile name reason => s!"cannot open log file {name}: {reason}"
  | badConfig reason => s!"invalid bridge config: {reason}"
  | other text => text

/-- Why a codec turned its input down. -/
inductive CodecFault
  | snappy (fault : Snappy.Fault)
  | zstandard (fault : Zstandard.Fault)
  /-- The data decodes to another length than the output has. -/
  | wrongLength (decoded declared : Nat)
  /-- The data is corrupt and its header declares more than the output can take. -/
  | corruptDeclaring (declared : Nat)
  /-- The transform turned down the windows it was given. -/
  | request (cause : BadRequest)
  /-- A cause that is known by its words alone. -/
  | other (text : String)
  deriving Repr, DecidableEq

def CodecFault.message : CodecFault → String
  | snappy fault => fault.message
  | zstandard fault => fault.message
  | wrongLength decoded declared => s!"decoded {decoded} bytes, header declared {declared}"
  | corruptDeclaring declared => s!"corrupt input declaring {declared} bytes"
  | request cause => cause.message
  | other text => text

/-- Why an operation failed. -/
inductive Failure
  /-- The host has no usable address for the buffer, or the destination may not be written. -/
  | unavailable (role : Role)
  /-- The host refused to pin the buffer. -/
  | outOfMemory (role : Role)
  /-- The arguments make no sense for these buffers. -/
  | invalid (cause : BadRequest)
  /-- The codec turned the data down. -/
  | codec (op : CodecOp) (cause : CodecFault)
  deriving Repr, DecidableEq

namespace Failure

def message : Failure → String
  | unavailable role => role.title ++ " is not a direct buffer"
  | outOfMemory role => "failed to pin the " ++ role.title ++ " buffer (out of memory)"
  | invalid cause => "Invalid input: " ++ cause.message
  | codec op cause => "Codec " ++ op.title ++ " failed: " ++ cause.message

/-- A codec failure seen by a caller that asked to decompress: a header that cannot be read is then
reported like a body that cannot be decoded. -/
def whileUncompressing : Failure → Failure
  | codec _ cause => codec .uncompress cause
  | failure => failure

end Failure

/-- The codes shared with the host. Their numbers are part of the contract. -/
inductive ErrorCode
  | unknown | failedToLoad | parsing | notDirect | outOfMemory | failedToUncompress
  deriving Repr, DecidableEq

namespace ErrorCode

def all : List ErrorCode :=
  [unknown, failedToLoad, parsing, notDirect, outOfMemory, failedToUncompress]

/-- The number the host knows a code by. -/
def id : ErrorCode → Int
  | unknown => 0
  | failedToLoad => 1
  | parsing => 2
  | notDirect => 3
  | outOfMemory => 4
  | failedToUncompress => 5

/-- The code with a given number; numbers that no code has are `unknown`. -/
def ofId (id : Int) : ErrorCode :=
  (all.find? fun code => code.id == id).getD unknown

/-- The name the host prints. -/
def name : ErrorCode → String
  | unknown => "UNKNOWN"
  | failedToLoad => "FAILED_TO_LOAD_NATIVE_LIBRARY"
  | parsing => "PARSING_ERROR"
  | notDirect => "NOT_A_DIRECT_BUFFER"
  | outOfMemory => "OUT_OF_MEMORY"
  | failedToUncompress => "FAILED_TO_UNCOMPRESS"

/-- Name and number, as the host attaches them to the error it raises. -/
def message (code : ErrorCode) : String :=
  let number := code.id
  code.name ++ s!"({number})"

end ErrorCode

/-- The code that a failure is raised with. -/
def Failure.code : Failure → ErrorCode
  | unavailable _ => .notDirect
  | outOfMemory _ => .outOfMemory
  | invalid _ => .parsing
  | codec .uncompress _ => .failedToUncompress
  | codec _ _ => .parsing

end BufferBridge
