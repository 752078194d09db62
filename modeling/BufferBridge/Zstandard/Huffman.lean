import BufferBridge.Zstandard.Fse

/-! Huffman codes for literals: the weights of the symbols, as they are described in the data, the
decoding table that follows from them, and the decoding of a stream. -/
namespace BufferBridge.Zstandard

/-- A decoding table: for every group of `log` bits, the symbol whose code it starts with and the
length of that code. -/
structure HuffmanTable where
  log : Nat
  entries : Array (UInt8 × Nat)
  deriving Repr, DecidableEq

namespace HuffmanTable

def maxLog : Nat := 12

/-- Weights given directly, two in a byte. -/
def directWeights (bytes : Array UInt8) (count : Nat) : Array Nat :=
  ((List.range count).map fun i =>
    let byte := (bytes.getD (i / 2) 0).toNat
    if i % 2 = 0 then byte / 16 else byte % 16).toArray

/-- Weights coded by two states in turn, until a state would need bits that are not there: then the
other state gives the last weight. -/
def codedWeights (table : FseTable) : (fuel : Nat) → (stream : BitStream) → (state other : Nat) →
    (weights : Array Nat) → Except Fault (Array Nat)
  | 0, _, _, _, _ => .error .corrupt
  | fuel + 1, stream, state, other, weights =>
    if 253 < weights.size then .error .corrupt
    else
      let cell := table.cell state
      let weights := weights.push cell.symbol
      let (bits, stream) := stream.read cell.bits
      if stream.overrun then .ok (weights.push (table.cell other).symbol)
      else codedWeights table fuel stream other (cell.base + bits) weights

/-- Weights in entropy-coded form. -/
def readCodedWeights (bytes : Array UInt8) : Except Fault (Array Nat) := do
  let (distribution, length) ← Distribution.read bytes 256 6
  let table := FseTable.ofDistribution distribution
  match BitStream.ofBytes? (bytes.extract length bytes.size) with
  | none => .error .corrupt
  | some stream =>
    let (first, stream) := stream.read table.log
    let (second, stream) := stream.read table.log
    if stream.overrun then .error .corrupt
    codedWeights table 256 stream first second #[]

/-- The number of table entries for a symbol of some weight. -/
def share (weight : Nat) : Nat := Nat.pow 2 weight / 2

/-- The weights with the last one, which is not described: it is what brings the sum of the shares to
a power of two. Some symbols have to have the longest code, and an even number of them. -/
def completeWeights (weights : Array Nat) : Except Fault (Nat × Array Nat) := do
  if weights.any (maxLog < ·) then .error .corrupt
  let total := weights.foldl (fun sum weight => sum + share weight) 0
  if total = 0 then .error .corrupt
  let log := Nat.log2 total + 1
  if maxLog < log then .error .corrupt
  -- the shares fill the table, so what is missing has to be the share of one symbol
  let rest := Nat.pow 2 log - total
  if Nat.pow 2 (Nat.log2 rest) ≠ rest then .error .corrupt
  let weights := weights.push (Nat.log2 rest + 1)
  let ones := (weights.filter (· = 1)).size
  if ones < 2 ∨ ones % 2 = 1 then .error .corrupt
  return (log, weights)

/-- The table for complete weights: longer codes come first and, at equal length, smaller symbols. -/
def ofWeights (log : Nat) (weights : Array Nat) : HuffmanTable :=
  let symbols := weights.toList.zipIdx
  let entries := (List.range log).flatMap fun i =>
    (symbols.filter fun (weight, _) => weight = i + 1).flatMap fun (weight, symbol) =>
      List.replicate (share weight) (UInt8.ofNat symbol, log + 1 - weight)
  ⟨log, entries.toArray⟩

/-- The table described at the front of `bytes` and the number of bytes that takes. -/
def read (bytes : Array UInt8) : Except Fault (HuffmanTable × Nat) := do
  let header := (bytes.getD 0 0).toNat
  let direct := 128 ≤ header
  let count := header - 127
  let length := if direct then (count + 1) / 2 else header
  if bytes.size < length + 1 then .error .corrupt
  let described := bytes.extract 1 (length + 1)
  let weights ← if direct then .ok (directWeights described count) else readCodedWeights described
  let (log, weights) ← completeWeights weights
  return (ofWeights log weights, length + 1)

def decodeSymbols (table : HuffmanTable) : (count : Nat) → (stream : BitStream) →
    (output : Array UInt8) → Array UInt8 × BitStream
  | 0, stream, output => (output, stream)
  | count + 1, stream, output =>
    let (symbol, length) := table.entries.getD (stream.peek table.log) (0, 0)
    decodeSymbols table count (stream.skip length) (output.push symbol)

/-- Decodes a stream that holds so many symbols and nothing else. -/
def decodeStream (table : HuffmanTable) (bytes : Array UInt8) (count : Nat)
    (output : Array UInt8) : Except Fault (Array UInt8) :=
  match BitStream.ofBytes? bytes with
  | none => .error .corrupt
  | some stream =>
    let (output, stream) := decodeSymbols table count stream output
    if stream.finished then .ok output else .error .corrupt

/-- Decodes four streams, the lengths of the first three in front of them. Each of these holds a
quarter of the symbols, rounded up. -/
def decodeFourStreams (table : HuffmanTable) (bytes : Array UInt8) (count : Nat) :
    Except Fault (Array UInt8) := do
  if bytes.size < 10 then .error .corrupt
  let first := bitsFrom bytes 16 0
  let second := bitsFrom bytes 16 16
  let third := bitsFrom bytes 16 32
  let quarter := (count + 3) / 4
  if bytes.size < 6 + first + second + third ∨ count < 3 * quarter then .error .corrupt
  let a := 6 + first
  let b := a + second
  let c := b + third
  let output ← table.decodeStream (bytes.extract 6 a) quarter #[]
  let output ← table.decodeStream (bytes.extract a b) quarter output
  let output ← table.decodeStream (bytes.extract b c) quarter output
  table.decodeStream (bytes.extract c bytes.size) (count - 3 * quarter) output

end HuffmanTable

end BufferBridge.Zstandard
