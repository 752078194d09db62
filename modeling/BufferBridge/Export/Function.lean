import BufferBridge.Bridge
import BufferBridge.Export.Object

/-! The functions that a script may call: their names and parameters, how arguments are matched with
parameters, and the request that they make together. -/
namespace BufferBridge.Export

/-- Why a script is told that something went wrong. -/
inductive Fault
  /-- An argument is missing, left over, or of another type. -/
  | wrongType
  /-- An integer does not fit the host's integers. -/
  | overflow
  /-- The bytes of an object are not to be had, or are held by others. -/
  | exporting
  /-- An object has no such attribute. -/
  | noAttribute
  /-- A value is out of the question. -/
  | badValue (text : String)
  /-- A call ended with a failure. -/
  | failed (text : String)
  deriving Repr, DecidableEq

/-- The integer of an object, where there is one. -/
def Object.toInt? : Object → Option Int
  | .integer value => some value
  | .flag value => some (if value then 1 else 0)
  | _ => Option.none

/-- The integer of an object as one of the host's. -/
def Object.toInt32 (object : Object) : Except Fault Int32 :=
  match object.toInt? with
  | Option.none => .error .wrongType
  | some value =>
    match hostInt? value with
    | Option.none => .error .overflow
    | some value => .ok value

/-- A function. -/
inductive Function
  | compressWindow | uncompressWindow | maxCompressedLength | uncompressedLength | isValid | copy
  | shuffle (direction : BitShuffle.Direction)
  | compressDirect | uncompressDirect
  | shuffleDirect (direction : BitShuffle.Direction)
  | compress | uncompress | version | supportsBitShuffle | enableLogging
  deriving Repr, DecidableEq

/-- A parameter: its name, and what stands in where no argument is given. -/
structure Parameter where
  name : String
  default : Option Object := none

namespace Function

/-- Every function. -/
def all : List Function :=
  [compressWindow, uncompressWindow, maxCompressedLength, uncompressedLength, isValid, copy,
    shuffle .shuffle, shuffle .unshuffle, compressDirect, uncompressDirect, shuffleDirect .shuffle,
    shuffleDirect .unshuffle, compress, uncompress, version, supportsBitShuffle, enableLogging]

/-- The name that a script calls a function by. -/
def name : Function → String
  | compressWindow => "raw_compress"
  | uncompressWindow => "raw_uncompress"
  | maxCompressedLength => "max_compressed_length"
  | uncompressedLength => "uncompressed_length"
  | isValid => "is_valid_compressed_buffer"
  | copy => "array_copy"
  | shuffle .shuffle => "bit_shuffle"
  | shuffle .unshuffle => "bit_unshuffle"
  | compressDirect => "compress_direct"
  | uncompressDirect => "uncompress_direct"
  | shuffleDirect .shuffle => "shuffle_direct"
  | shuffleDirect .unshuffle => "unshuffle_direct"
  | compress => "compress"
  | uncompress => "uncompress"
  | version => "native_library_version"
  | supportsBitShuffle => "supports_bit_shuffle"
  | enableLogging => "enable_verbose_logging"

/-- The function with a name. -/
def ofName? (name : String) : Option Function := all.find? (·.name == name)

/-- The parameters of a function, in their order. -/
def parameters : Function → List Parameter
  | compressWindow | uncompressWindow =>
    [⟨"input", none⟩, ⟨"input_offset", none⟩, ⟨"input_length", none⟩, ⟨"output", none⟩,
      ⟨"output_offset", some (.integer 0)⟩]
  | maxCompressedLength => [⟨"source_bytes", none⟩]
  | uncompressedLength | isValid => [⟨"input", none⟩, ⟨"offset", none⟩, ⟨"length", none⟩]
  | copy =>
    [⟨"src", none⟩, ⟨"offset", none⟩, ⟨"length", none⟩, ⟨"dest", none⟩, ⟨"dest_offset", none⟩]
  | shuffle _ =>
    [⟨"input", none⟩, ⟨"input_offset", none⟩, ⟨"type_size", none⟩, ⟨"length", none⟩,
      ⟨"output", none⟩, ⟨"output_offset", some (.integer 0)⟩]
  | compressDirect | uncompressDirect => [⟨"input", none⟩, ⟨"output", none⟩]
  | shuffleDirect _ => [⟨"input", none⟩, ⟨"type_size", none⟩, ⟨"output", none⟩]
  | compress | uncompress => [⟨"data", none⟩]
  | version | supportsBitShuffle => []
  | enableLogging => [⟨"log_file", some .none⟩]

end Function

/-- The arguments of a call: those in order, and those by name. -/
structure Arguments where
  inOrder : List Object
  named : List (String × Object) := []

/-- The arguments for parameters, one for each. -/
def Arguments.bind (arguments : Arguments) (parameters : List Parameter) :
    Except Fault (List Object) :=
  let free := parameters.drop arguments.inOrder.length
  if parameters.length < arguments.inOrder.length then .error .wrongType
  else if arguments.named.any fun (name, _) => free.all (·.name ≠ name) then .error .wrongType
  else
    match free.mapM fun parameter => (arguments.named.lookup parameter.name).or parameter.default with
    | none => .error .wrongType
    | some rest => .ok (arguments.inOrder ++ rest)

/-- What a script asks for, once its arguments are understood. -/
inductive Request
  /-- A call of a bridge, with the objects whose buffers it gets. -/
  | call (call : Call) (objects : List Object)
  /-- Compresses bytes into new ones. -/
  | compress (data : Bytes)
  /-- Decompresses bytes into new ones. -/
  | uncompress (data : Bytes)
  | version
  | supportsBitShuffle
  /-- Asks for the log to be written. -/
  | enableLogging (file : Option String)

namespace Request

/-- A transfer between two objects. Integers are understood in the order of the parameters. -/
def transfer (memory : Memory) (input output : Object) (inputOffset length outputOffset : Int32) :
    Transfer :=
  { input := input.buffer memory, inputOffset, length, output := output.buffer memory, outputOffset }

/-- A transfer of all of a direct object. -/
def wholeTransfer (memory : Memory) (input output : Object) : Transfer :=
  transfer memory input output 0 input.directLength 0

/-- The bytes of an object that never change. -/
def frozenBytes (memory : Memory) : Object → Except Fault Bytes
  | .frozen block => .ok (memory.block block)
  | _ => .error .wrongType

/-- The request that a function makes with its arguments. -/
def ofArguments (memory : Memory) (function : Function) (arguments : List Object) :
    Except Fault Request :=
  match function, arguments with
  | .compressWindow, [input, offset, length, output, outputOffset] => do
    let offset ← offset.toInt32
    let length ← length.toInt32
    let outputOffset ← outputOffset.toInt32
    return .call (.compress (transfer memory input output offset length outputOffset))
      [input, output]
  | .uncompressWindow, [input, offset, length, output, outputOffset] => do
    let offset ← offset.toInt32
    let length ← length.toInt32
    let outputOffset ← outputOffset.toInt32
    return .call (.uncompress (transfer memory input output offset length outputOffset))
      [input, output]
  | .maxCompressedLength, [length] => do
    let length ← length.toInt32
    return .call (.maxCompressedLength length) []
  | .uncompressedLength, [input, offset, length] => do
    let offset ← offset.toInt32
    let length ← length.toInt32
    return .call (.uncompressedLength (input.buffer memory) offset length) [input]
  | .isValid, [input, offset, length] => do
    let offset ← offset.toInt32
    let length ← length.toInt32
    return .call (.isValid (input.buffer memory) offset length) [input]
  | .copy, [input, offset, length, output, outputOffset] => do
    let offset ← offset.toInt32
    let length ← length.toInt32
    let outputOffset ← outputOffset.toInt32
    return .call (.copy (transfer memory input output offset length outputOffset)) [input, output]
  | .shuffle direction, [input, offset, width, length, output, outputOffset] => do
    let offset ← offset.toInt32
    let width ← width.toInt32
    let length ← length.toInt32
    let outputOffset ← outputOffset.toInt32
    return .call
      (.shuffle direction width (transfer memory input output offset length outputOffset))
      [input, output]
  | .compressDirect, [input, output] =>
    .ok (.call (.compressDirect (wholeTransfer memory input output)) [input, output])
  | .uncompressDirect, [input, output] =>
    .ok (.call (.uncompressDirect (wholeTransfer memory input output)) [input, output])
  | .shuffleDirect direction, [input, width, output] => do
    let width ← width.toInt32
    return .call (.shuffleDirect direction width (wholeTransfer memory input output))
      [input, output]
  | .compress, [data] => .compress <$> frozenBytes memory data
  | .uncompress, [data] => .uncompress <$> frozenBytes memory data
  | .version, [] => .ok .version
  | .supportsBitShuffle, [] => .ok .supportsBitShuffle
  | .enableLogging, [.none] => .ok (.enableLogging none)
  | .enableLogging, [.text file] => .ok (.enableLogging (some file))
  | _, _ => .error .wrongType

end Request

end BufferBridge.Export
