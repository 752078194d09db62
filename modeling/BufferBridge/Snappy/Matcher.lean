import BufferBridge.Bytes

/-! Looking for earlier occurrences of the next four bytes, by a table of positions indexed by a hash
of the bytes found there. What the table answers is only a suggestion: whoever uses one compares the
bytes. -/
namespace BufferBridge.Snappy.Matcher

def byteAt (block : Array UInt8) (position : Nat) : UInt8 := block.getD position 0

/-- The four bytes from a position on, as a number, lowest first. -/
def wordAt (block : Array UInt8) (position : Nat) : UInt32 :=
  (byteAt block position).toUInt32 ||| (byteAt block (position + 1)).toUInt32 <<< 8 |||
    (byteAt block (position + 2)).toUInt32 <<< 16 ||| (byteAt block (position + 3)).toUInt32 <<< 24

/-- The last position seen for each hash. -/
structure Table where
  /-- How far a product is shifted down to become an index. -/
  shift : UInt32
  positions : Array Nat

/-- The bit count of the index and the number of entries for a block: the smallest table that has an
entry for every byte, within 256 and 16384 entries. -/
def tableBits (length : Nat) : Nat :=
  ((List.range 6).find? fun k => length ≤ Nat.pow 2 (8 + k)).elim 14 (8 + ·)

/-- The table for a block of some length, with every entry at the start of the block. -/
def Table.new (length : Nat) : Table :=
  let bits := tableBits length
  ⟨32 - UInt32.ofNat bits, Array.replicate (Nat.pow 2 bits) 0⟩

namespace Table

/-- The entry that a word belongs to. -/
def index (table : Table) (word : UInt32) : Nat :=
  ((word * 0x1E35A7BD) >>> table.shift).toNat

/-- The position stored for an entry. -/
def get (table : Table) (index : Nat) : Nat := table.positions.getD index 0

/-- The table with a position stored for an entry. -/
def set (table : Table) (index position : Nat) : Table :=
  { table with positions := table.positions.setIfInBounds index position }

end Table

/-- An occurrence worth trying: the bytes at `position` may be those at `earlier`. -/
structure Candidate where
  position : Nat
  earlier : Nat
  table : Table

/-- The first position of a block from which a match may not start any more. -/
def searchLimit (block : Array UInt8) : Nat := block.size - 15

/-- Looks for a candidate from `position` on, with `index` the table entry of the bytes there. The
longer nothing is found, the larger the steps: `skipped` counts towards the next larger one. -/
def search (block : Array UInt8) (position skipped index : Nat) (table : Table) :
    Option Candidate :=
  let step := (32 + skipped) / 32
  let next := position + step
  if searchLimit block < next then none
  else
    -- the entry is taken over whether or not the bytes turn out to be the same
    let earlier := table.get index
    let table := table.set index position
    if wordAt block position = wordAt block earlier then some ⟨position, earlier, table⟩
    else search block next (skipped + step) (table.index (wordAt block next)) table
termination_by searchLimit block - position
decreasing_by omega

def first (block : Array UInt8) : Option Candidate :=
  let table := Table.new block.size
  search block 1 0 (table.index (wordAt block 1)) table

/-- The next candidate after a match that ended at `stop`: right there, or else further on. -/
def next (block : Array UInt8) (stop : Nat) (table : Table) : Option Candidate :=
  if searchLimit block ≤ stop then none
  else
    -- of the positions inside a match only the last one is remembered
    let table := table.set (table.index (wordAt block (stop - 1))) (stop - 1)
    let index := table.index (wordAt block stop)
    let earlier := table.get index
    let table := table.set index stop
    if wordAt block stop = wordAt block earlier then some ⟨stop, earlier, table⟩
    else search block (stop + 1) 0 (table.index (wordAt block (stop + 1))) table

/-- How many bytes from `position` on are the same as those from `earlier` on. -/
def matchLength (block : Array UInt8) (position earlier : Nat) : Nat :=
  if position < block.size then
    if byteAt block position = byteAt block earlier then
      matchLength block (position + 1) (earlier + 1) + 1
    else 0
  else 0
termination_by block.size - position

end BufferBridge.Snappy.Matcher
