import BufferBridge.Snappy.Element
import BufferBridge.Snappy.Header
import BufferBridge.Snappy.Matcher

/-! Compressing: the input is cut into chunks of 64 KiB, each chunk becomes literals and copies within
the chunk, and their encodings follow the length header. Candidates for copies come from the matcher
and are used only as far as the bytes agree. -/
namespace BufferBridge.Snappy

open Matcher

/-- The most bytes that the compressed form of `n` bytes can have, or zero where the format has no
such form. -/
def maxCompressedLength (n : Nat) : Nat :=
  if maxInputLength < n then 0
  else if maxInputLength < 32 + n + n / 6 then 0
  else 32 + n + n / 6

/-- The bytes from `start` to `stop` of a block as a literal, unless there are none. -/
def literalBetween (block : Array UInt8) (start stop : Nat) : List Element :=
  if start < stop then [.literal (block.extract start stop).toList] else []

theorem add_matchLength_le (block : Array UInt8) (position earlier : Nat)
    (h : 0 < matchLength block position earlier) :
    position + matchLength block position earlier ≤ block.size := by
  fun_induction matchLength block position earlier with
  | case1 position earlier hlt heq ih =>
    by_cases hz : matchLength block (position + 1) (earlier + 1) = 0
    · omega
    · have := ih (by omega)
      omega
  | case2 => simp at h
  | case3 => simp at h

/-- The elements for the rest of a block from `emitted` on, where the next copy may come from
`candidate`. A candidate that lies before `emitted`, points forward or agrees in fewer than four
bytes ends the search; the matcher has none of these. -/
def elementsFrom (block : Array UInt8) (emitted : Nat) (candidate : Option Candidate) :
    List Element :=
  match candidate with
  | none => literalBetween block emitted block.size
  | some found =>
    let length := matchLength block found.position found.earlier
    if _ok : emitted ≤ found.position ∧ found.earlier < found.position ∧ 4 ≤ length then
      literalBetween block emitted found.position ++
        .copy (found.position - found.earlier) length ::
          elementsFrom block (found.position + length)
            (next block (found.position + length) found.table)
    else literalBetween block emitted block.size
termination_by block.size - emitted
decreasing_by
  have := add_matchLength_le block found.position found.earlier (by omega)
  omega

/-- Below this length a chunk is not searched for copies. -/
def minSearched : Nat := 17

def elementsOf (chunk : Bytes) : List Element :=
  if chunk.length < minSearched then [.literal chunk]
  else
    let block := chunk.toArray
    elementsFrom block 0 (first block)

def chunkLength : Nat := 65536

/-- The input in chunks of `chunkLength` bytes, with a shorter one at the end if need be. -/
def chunks (input : Bytes) : List Bytes :=
  if _h : input = [] then [] else input.take chunkLength :: chunks (input.drop chunkLength)
termination_by input.length
decreasing_by
  have : 0 < input.length := List.length_pos_iff.mpr _h
  simp only [List.length_drop, chunkLength]
  omega

def compress (input : Bytes) : Bytes :=
  encodeLength input.length ++
    (chunks input).flatMap fun chunk => (elementsOf chunk).flatMap Element.encode

end BufferBridge.Snappy
