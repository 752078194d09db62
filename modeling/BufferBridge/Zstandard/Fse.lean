import BufferBridge.Zstandard.Bits
import BufferBridge.Zstandard.Fault

/-! Finite state entropy tables: how often each symbol occurs, as it is described in the data, and the
decoding table that follows from it. -/
namespace BufferBridge.Zstandard

/-- How the states of a table are shared out among the symbols. -/
structure Distribution where
  /-- The table has `2 ^ log` states. -/
  log : Nat
  /-- The number of states of each symbol, where `-1` stands for a symbol that has one state but is
  rarer than that. -/
  counts : Array Int
  deriving Repr, DecidableEq

namespace Distribution

/-- Where the reading of a description stands. -/
structure Progress where
  /-- The number of bits read. -/
  position : Nat
  /-- One more than the number of states to share out. -/
  remaining : Nat
  counts : Array Int

/-- The number of zero counts at a position, in groups of two bits of which the last is below three,
and the position after them. -/
def readZeros (bytes : Array UInt8) : (fuel : Nat) → (position zeros : Nat) → Nat × Nat
  | 0, position, zeros => (position, zeros)
  | fuel + 1, position, zeros =>
    let group := bitsFrom bytes 2 position
    if group = 3 then readZeros bytes fuel (position + 2) (zeros + 3)
    else (position + 2, zeros + group)

/-- One count, in as few bits as hold every number that may stand there. -/
def readCount (bytes : Array UInt8) (progress : Progress) : Progress :=
  let width := Nat.log2 progress.remaining + 1
  let half := Nat.pow 2 (width - 1)
  -- as many of the low numbers go without the highest bit as numbers cannot stand there
  let short := 2 * half - 1 - progress.remaining
  let low := bitsFrom bytes (width - 1) progress.position
  let (value, bits) :=
    if low < short then (low, width - 1)
    else
      let full := bitsFrom bytes width progress.position
      (if half ≤ full then full - short else full, width)
  let count : Int := value - 1
  ⟨progress.position + bits, progress.remaining - count.natAbs, progress.counts.push count⟩

/-- The counts of at most `symbols` symbols, once they share out all states. -/
def readCounts (bytes : Array UInt8) (symbols : Nat) : (fuel : Nat) → Progress →
    Except Fault Progress
  | 0, _ => .error .corrupt
  | fuel + 1, progress =>
    if progress.remaining ≤ 1 then .ok progress
    else if symbols ≤ progress.counts.size then .error .corrupt
    else
      let progress := readCount bytes progress
      if progress.counts.back? = some 0 ∧ 1 < progress.remaining then
        let (position, zeros) := readZeros bytes symbols progress.position 0
        readCounts bytes symbols fuel
          ⟨position, progress.remaining, progress.counts ++ Array.replicate (min zeros symbols) 0⟩
      else readCounts bytes symbols fuel progress

/-- The distribution described at the front of `bytes` and the number of bytes that takes. -/
def read (bytes : Array UInt8) (symbols maxLog : Nat) : Except Fault (Distribution × Nat) := do
  let log := bitsFrom bytes 4 0 + 5
  if maxLog < log then .error .corrupt
  let progress ← readCounts bytes symbols (symbols + 1) ⟨4, Nat.pow 2 log + 1, #[]⟩
  let length := (progress.position + 7) / 8
  if bytes.size < length then .error .corrupt
  return (⟨log, progress.counts⟩, length)

end Distribution

/-- What a state of a decoding table stands for. -/
structure FseCell where
  symbol : Nat
  /-- The number of bits that tell the next state. -/
  bits : Nat
  /-- What those bits are added to. -/
  base : Nat
  deriving Repr, DecidableEq, Inhabited

/-- A decoding table with `2 ^ log` states. -/
structure FseTable where
  log : Nat
  cells : Array FseCell
  deriving Repr, DecidableEq

namespace FseTable

def cell (table : FseTable) (state : Nat) : FseCell := table.cells.getD state default

/-- The symbol of every state. Rare symbols take the highest states, from the top; the others take,
each in as many steps as it has states, what a walk over all states with a fixed stride finds free. -/
def symbols (distribution : Distribution) : Array Nat :=
  let size := Nat.pow 2 distribution.log
  let counted := distribution.counts.toList.zipIdx
  let rare := (counted.filter fun (count, _) => count = -1).map Prod.snd
  let free := size - rare.length
  let common := counted.flatMap fun (count, symbol) => List.replicate count.toNat symbol
  let stride := size / 2 + size / 8 + 3
  let walk := ((List.range size).map fun i => i * stride % size).filter (· < free)
  let start := rare.zipIdx.foldl (fun states (symbol, i) => states.setIfInBounds (size - 1 - i) symbol)
    (Array.replicate size 0)
  (walk.zip common).foldl (fun states (state, symbol) => states.setIfInBounds state symbol) start

/-- The decoding table of a distribution. The states of a symbol that has `n` of them are numbered
from `n` to `2 * n - 1`, and each reads as many bits as lift its number to the size of the table. -/
def ofDistribution (distribution : Distribution) : FseTable :=
  let size := Nat.pow 2 distribution.log
  let first := distribution.counts.map fun count => count.natAbs
  let (cells, _) := (symbols distribution).foldl (fun (cells, next) symbol =>
    let number := next.getD symbol 1
    let bits := distribution.log - Nat.log2 number
    (cells.push ⟨symbol, bits, number * Nat.pow 2 bits - size⟩, next.setIfInBounds symbol (number + 1)))
    ((#[] : Array FseCell), first)
  ⟨distribution.log, cells⟩

/-- The table with one symbol that takes no bits. -/
def single (symbol : Nat) : FseTable := ⟨0, #[⟨symbol, 0, 0⟩]⟩

end FseTable

end BufferBridge.Zstandard
