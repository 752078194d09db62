import BufferBridge.Zstandard.Huffman

/-! The literals of a compressed block: stored, one byte repeated, or Huffman-coded with a table of
their own or the one before. -/
namespace BufferBridge.Zstandard

/-- What the literals section of a block gives. -/
structure Literals where
  bytes : Array UInt8
  /-- The Huffman table for the blocks that follow. -/
  table : Option HuffmanTable
  length : Nat
  /-- The room that they leave to the output of the block. -/
  room : Nat

namespace Literals

/-- How much a block may produce. -/
structure Limits where
  /-- The most that a block of the frame may produce. -/
  blockMax : Nat
  /-- The room that is left in the output. -/
  room : Nat

/-- The room of a block whose literals are kept apart from its content. Where there is enough of it
they are kept in the output, behind the longest block that is allowed and 32 bytes of slack, and the
block has to end before them. -/
def Limits.roomBeside (limits : Limits) (count : Nat) : Nat :=
  if limits.blockMax + count + 64 < limits.room then limits.blockMax + 32 else limits.room

/-- Accepts a number of literals that a block may have and the output has room for. -/
def checkCount (limits : Limits) (count : Nat) : Except Fault Unit :=
  if limits.blockMax < count then .error .corrupt
  else if limits.room < count then .error .outputTooSmall
  else .ok ()

/-- The literal count of a section that is not Huffman-coded, and the length of its header. -/
def plainHeader (content : Array UInt8) : Nat × Nat :=
  let format := bitsFrom content 2 2
  if format = 1 then (bitsFrom content 12 4, 2)
  else if format = 3 then (bitsFrom content 20 4, 3)
  else (bitsFrom content 5 3, 1)

/-- Literals as they stand. They are used where they are as long as 32 more bytes of content follow. -/
def readStored (limits : Limits) (table : Option HuffmanTable) (content : Array UInt8) :
    Except Fault Literals := do
  let (count, header) := plainHeader content
  if content.size < header then .error .corrupt
  checkCount limits count
  if content.size < header + count then .error .corrupt
  let inPlace := header + count + 32 ≤ content.size
  return ⟨content.extract header (header + count), table, header + count,
    if inPlace then limits.room else limits.roomBeside count⟩

/-- One literal, repeated. -/
def readRepeated (limits : Limits) (table : Option HuffmanTable) (content : Array UInt8) :
    Except Fault Literals := do
  let (count, header) := plainHeader content
  if content.size < header + 1 then .error .corrupt
  checkCount limits count
  return ⟨Array.replicate count (content.getD header 0), table, header + 1,
    limits.roomBeside count⟩

/-- The fields of the header of Huffman-coded literals. -/
structure CodedHeader where
  /-- Whether all literals are in one stream. -/
  single : Bool
  count : Nat
  /-- The number of bytes that they take, table included. -/
  coded : Nat
  length : Nat

/-- The header of Huffman-coded literals: two sizes of equal width. -/
def codedHeader (content : Array UInt8) : CodedHeader :=
  let format := bitsFrom content 2 2
  let width := if format = 3 then 18 else if format = 2 then 14 else 10
  ⟨format = 0, bitsFrom content width 4, bitsFrom content width (4 + width), (4 + 2 * width) / 8⟩

/-- Huffman-coded literals, after the table `given` where that is not in front of them. -/
def readCoded (limits : Limits) (given : Option HuffmanTable) (content : Array UInt8) :
    Except Fault Literals := do
  if content.size < 5 then .error .corrupt
  let header := codedHeader content
  if limits.blockMax < header.count then .error .corrupt
  if !header.single ∧ header.count < 6 then .error .badLiteralsHeader
  if content.size < header.length + header.coded then .error .corrupt
  checkCount limits header.count
  let coded := content.extract header.length (header.length + header.coded)
  let (table, described) ← match given with
    | some table => .ok (table, 0)
    | none => HuffmanTable.read coded
  if given.isNone ∧ coded.size ≤ described then .error .corrupt
  let streams := coded.extract described coded.size
  let bytes ←
    if header.single then table.decodeStream streams header.count #[]
    else table.decodeFourStreams streams header.count
  return ⟨bytes, some table, header.length + header.coded, limits.roomBeside header.count⟩

/-- The literals section at the front of a compressed block, after blocks that left `table`. -/
def read (limits : Limits) (table : Option HuffmanTable) (content : Array UInt8) :
    Except Fault Literals := do
  if content.size < 2 then .error .corrupt
  match bitsFrom content 2 0 with
  | 0 => readStored limits table content
  | 1 => readRepeated limits table content
  | 2 => readCoded limits none content
  | _ =>
    match table with
    | none => .error .corruptDictionary
    | some table => readCoded limits (some table) content

end Literals

end BufferBridge.Zstandard
