import BufferBridge.Bytes
import BufferBridge.Zstandard.Fse
import BufferBridge.Zstandard.Literals

/-! The sequences of a compressed block: how they are described, and what they make of the literals.
Each sequence takes some literals and then repeats earlier output. -/
namespace BufferBridge.Zstandard

/-- A number as it is coded: a code, and bits that are added to the least number of the code. -/
structure NumberCode where
  /-- The least number of the first code. -/
  start : Nat
  /-- How many bits each code adds. The numbers of a code follow those of the code before it. -/
  widths : List Nat
  /-- The largest table that may be described for the codes. -/
  maxLog : Nat
  /-- How often each code is used where nothing is said about it. -/
  usual : Distribution

namespace NumberCode

/-- The numbers of literals in a sequence. -/
def literalCount : NumberCode where
  start := 0
  widths := List.replicate 16 0 ++ [1, 1, 1, 1, 2, 2, 3, 3, 4] ++ List.range' 6 11
  maxLog := 9
  usual := ⟨6, #[4, 3, 2, 2, 2, 2, 2, 2, 2, 2, 2, 2, 2, 1, 1, 1, 2, 2, 2, 2, 2, 2, 2, 2, 2, 3, 2, 1, 1, 1,
    1, 1, -1, -1, -1, -1]⟩

/-- The numbers of repeated bytes in a sequence. -/
def matchLength : NumberCode where
  start := 3
  widths := List.replicate 32 0 ++ [1, 1, 1, 1, 2, 2, 3, 3, 4, 4, 5] ++ List.range' 7 10
  maxLog := 9
  usual := ⟨6, #[1, 4, 3, 2, 2, 2, 2, 2, 2, 1, 1, 1, 1, 1, 1, 1, 1, 1, 1, 1, 1, 1, 1, 1, 1, 1, 1, 1, 1, 1,
    1, 1, 1, 1, 1, 1, 1, 1, 1, 1, 1, 1, 1, 1, 1, 1, -1, -1, -1, -1, -1, -1, -1]⟩

/-- The places of the bytes to repeat. -/
def offsetValue : NumberCode where
  start := 1
  widths := List.range 32
  maxLog := 8
  usual := ⟨5, #[1, 1, 1, 1, 1, 1, 2, 2, 2, 1, 1, 1, 1, 1, 1, 1, 1, 1, 1, 1, 1, 1, 1, 1, -1, -1, -1, -1,
    -1]⟩

/-- The least number of a code. -/
def least (number : NumberCode) (code : Nat) : Nat :=
  (number.widths.take code).foldl (fun least width => least + Nat.pow 2 width) number.start

/-- The number for a code and the bits that follow in a stream. -/
def read (number : NumberCode) (code : Nat) (stream : BitStream) : Nat × BitStream :=
  let (bits, stream) := stream.read (number.widths.getD code 0)
  (number.least code + bits, stream)

/-- The table for the codes in a block, as the mode of their description tells: the usual one, one
code only, a described one, or the one of the block before. Gives the rest of the description. -/
def readTable (number : NumberCode) (mode : Nat) (before : Option FseTable)
    (description : Array UInt8) : Except Fault (FseTable × Array UInt8) :=
  match mode with
  | 0 => .ok (.ofDistribution number.usual, description)
  | 1 =>
    match description[0]? with
    | none => .error .corrupt
    | some code =>
      if code.toNat < number.widths.length then
        .ok (.single code.toNat, description.extract 1 description.size)
      else .error .corrupt
  | 2 => do
    let (distribution, length) ←
      Distribution.read description number.widths.length number.maxLog
    return (.ofDistribution distribution, description.extract length description.size)
  | _ =>
    match before with
    | none => .error .corrupt
    | some table => .ok (table, description)

end NumberCode

/-- The tables of the three numbers of a sequence. -/
structure SequenceTables where
  literals : FseTable
  offset : FseTable
  length : FseTable

/-- Takes `literals` literals and then repeats `length` bytes. -/
structure Sequence where
  literals : Nat
  length : Nat
  /-- Where the bytes to repeat are: up to three stands for a recent offset. -/
  value : Nat
  deriving Repr, DecidableEq

/-- The last three offsets, the most recent first. -/
structure RecentOffsets where
  first : Nat
  second : Nat
  third : Nat
  deriving Repr, DecidableEq

namespace RecentOffsets

/-- The offsets at the start of a frame. -/
def initial : RecentOffsets := ⟨1, 4, 8⟩

/-- The offset that a sequence means, and the recent offsets after it. Right after another sequence
the last offset would be of no use, so the small values then mean the offsets that come next, and the
last of them one less than the most recent. -/
def resolve (recent : RecentOffsets) (sequence : Sequence) : Nat × RecentOffsets :=
  if 3 < sequence.value then
    let offset := sequence.value - 3
    (offset, ⟨offset, recent.first, recent.second⟩)
  else
    match sequence.value + (if sequence.literals = 0 then 1 else 0) with
    | 0 | 1 => (recent.first, recent)
    | 2 => (recent.second, ⟨recent.second, recent.first, recent.third⟩)
    | 3 => (recent.third, ⟨recent.third, recent.first, recent.second⟩)
    | _ => (recent.first - 1, ⟨recent.first - 1, recent.first, recent.second⟩)

end RecentOffsets

/-- What the sequences section of a block gives. -/
structure Sequences where
  items : List Sequence
  /-- The tables for the blocks that follow. -/
  tables : Option SequenceTables
  /-- Whether the coded data ends where the last sequence does. -/
  finished : Bool

namespace Sequences

/-- The states of the three tables. -/
structure States where
  literals : Nat
  offset : Nat
  length : Nat

/-- The state that follows a state of a table. -/
def advance (table : FseTable) (state : Nat) (stream : BitStream) : Nat × BitStream :=
  let cell := table.cell state
  let (bits, stream) := stream.read cell.bits
  (cell.base + bits, stream)

/-- The sequence that the states stand for. -/
def readItem (tables : SequenceTables) (states : States) (stream : BitStream) :
    Sequence × BitStream :=
  let (value, stream) := NumberCode.offsetValue.read (tables.offset.cell states.offset).symbol stream
  let (length, stream) := NumberCode.matchLength.read (tables.length.cell states.length).symbol stream
  let (literals, stream) :=
    NumberCode.literalCount.read (tables.literals.cell states.literals).symbol stream
  (⟨literals, length, value⟩, stream)

/-- Reads a number of sequences. The states do not move on after the last one. -/
def readItems (tables : SequenceTables) : (count : Nat) → States → BitStream → Array Sequence →
    Array Sequence × BitStream
  | 0, _, stream, items => (items, stream)
  | count + 1, states, stream, items =>
    let (item, stream) := readItem tables states stream
    let items := items.push item
    if count = 0 then (items, stream)
    else
      let (literals, stream) := advance tables.literals states.literals stream
      let (length, stream) := advance tables.length states.length stream
      let (offset, stream) := advance tables.offset states.offset stream
      readItems tables count ⟨literals, offset, length⟩ stream items

/-- The number of sequences at the front of a section, and the length of that number. -/
def readCount (data : Array UInt8) : Except Fault (Nat × Nat) :=
  let byte := bitsFrom data 8
  let length := if byte 0 < 128 then 1 else if byte 0 < 255 then 2 else 3
  if data.size < length then .error .wrongInputSize
  else if length = 1 then .ok (byte 0, 1)
  else if length = 2 then .ok ((byte 0 - 128) * 256 + byte 8, 2)
  else .ok (bitsFrom data 16 8 + 32512, 3)

/-- The tables that a section starts with, and the coded data after them. -/
def readTables (before : Option SequenceTables) (data : Array UInt8) :
    Except Fault (SequenceTables × Array UInt8) := do
  if data.size = 0 then .error .wrongInputSize
  if bitsFrom data 2 0 ≠ 0 then .error .corrupt
  let rest := data.extract 1 data.size
  let (literals, rest) ←
    NumberCode.literalCount.readTable (bitsFrom data 2 6) (before.map (·.literals)) rest
  let (offset, rest) ←
    NumberCode.offsetValue.readTable (bitsFrom data 2 4) (before.map (·.offset)) rest
  let (length, rest) ←
    NumberCode.matchLength.readTable (bitsFrom data 2 2) (before.map (·.length)) rest
  return (⟨literals, offset, length⟩, rest)

/-- The sequences section of a block with so much room, after blocks that left `tables`. -/
def read (room : Nat) (tables : Option SequenceTables) (data : Array UInt8) :
    Except Fault Sequences := do
  let (count, length) ← readCount data
  let rest := data.extract length data.size
  if count = 0 then
    if rest.size ≠ 0 then .error .corrupt
    return ⟨[], tables, true⟩
  let (tables, coded) ← readTables tables rest
  if room = 0 then .error .outputTooSmall
  match BitStream.ofBytes? coded with
  | none => .error .corrupt
  | some stream =>
    let (literals, stream) := stream.read tables.literals.log
    let (offset, stream) := stream.read tables.offset.log
    let (matched, stream) := stream.read tables.length.log
    let (items, stream) := readItems tables count ⟨literals, offset, matched⟩ stream #[]
    return ⟨items.toList, some tables, stream.finished⟩

end Sequences

/-- Where the output of a frame stands. -/
structure Progress where
  output : Array UInt8
  recent : RecentOffsets

namespace Progress

/-- Carries sequences out, in an output that may grow to `capacity` bytes. Gives the literals that are
left over. -/
def run (capacity : Nat) : List Sequence → (literals : Bytes) → Progress →
    Except Fault (Bytes × Progress)
  | [], literals, progress => .ok (literals, progress)
  | sequence :: sequences, literals, progress =>
    if capacity < progress.output.size + sequence.literals + sequence.length then
      .error .outputTooSmall
    else
      match Bytes.split? sequence.literals literals with
      | none => .error .corrupt
      | some (front, literals) =>
        let output := progress.output ++ front
        let (offset, recent) := progress.recent.resolve sequence
        if offset = 0 ∨ output.size < offset then .error .corrupt
        else run capacity sequences literals ⟨Bytes.copyBack offset sequence.length output, recent⟩

end Progress

end BufferBridge.Zstandard
