import BufferBridge.Proofs.Snappy.Header
import BufferBridge.Snappy.Encoder

/-!
# The size of a compressed block

A literal costs one to three bytes more than its data, the longer ones more, and a copy always saves
at least one byte. Every literal but the last of a chunk is followed by a copy, so in sixtieths of a
byte a chunk grows by one for each of its bytes, and by sixty once. That is well within the room that
`maxCompressedLength` promises.
-/
namespace BufferBridge.Snappy

open Matcher

namespace Element

/-- The bytes before the data of a literal are worth one for every sixty bytes of data, and one more. -/
theorem length_encodeLiteral_le (data : Bytes) :
    60 * (encodeLiteral data).length ≤ 61 * data.length + 60 := by
  simp only [encodeLiteral]
  split
  · rw [List.length_cons]
    omega
  · split
    · simp only [List.length_cons]
      omega
    · simp only [List.length_cons, List.length_append, Bytes.length_ofNatLittleEndian]
      omega

/-- A copy is written in fewer bytes than it produces. -/
theorem length_encodeCopy_lt {offset length : Nat} (h : 4 ≤ length) :
    (encodeCopy offset length).length < length := by
  fun_induction encodeCopy offset length with
  | case1 length hlong ih =>
    have := ih (by omega)
    simp only [List.length_append, encodeFarCopy, List.length_cons, Bytes.length_ofNatLittleEndian]
    omega
  | case2 length hlong hmiddle ih =>
    have := ih (by omega)
    simp only [List.length_append, encodeFarCopy, List.length_cons, Bytes.length_ofNatLittleEndian]
    omega
  | case3 =>
    simp only [encodeNearCopy, List.length_cons, List.length_nil]
    omega
  | case4 =>
    simp only [encodeFarCopy, List.length_cons, Bytes.length_ofNatLittleEndian]
    omega

end Element

/-! ## Chunks -/

theorem length_literalBetween_le (block : Array UInt8) (start stop : Nat) :
    60 * ((literalBetween block start stop).flatMap Element.encode).length ≤
      61 * (stop - start) + 60 := by
  rw [literalBetween]
  split
  · have hlen : (block.extract start stop).toList.length ≤ stop - start := by
      rw [Array.length_toList, Array.size_extract]
      omega
    have := Element.length_encodeLiteral_le (block.extract start stop).toList
    rw [List.flatMap_singleton, Element.encode]
    omega
  · rw [List.flatMap_nil, List.length_nil]
    omega

/-- The bytes for the rest of a chunk, in sixtieths. The copy after a literal saves the byte that the
literal costs, so only the last literal is paid for by the sixty at the end. -/
theorem length_elementsFrom_le {block : Array UInt8} {emitted : Nat} (candidate : Option Candidate) :
    60 * ((elementsFrom block emitted candidate).flatMap Element.encode).length ≤
      61 * (block.size - emitted) + 60 := by
  fun_induction elementsFrom block emitted candidate with
  | case1 emitted => exact length_literalBetween_le block emitted block.size
  | case2 emitted found length hok ih =>
    have hmatch : found.position + length ≤ block.size :=
      add_matchLength_le block found.position found.earlier (by omega)
    have hliteral := length_literalBetween_le block emitted found.position
    have hcopy : (Element.encodeCopy (found.position - found.earlier) length).length < length :=
      Element.length_encodeCopy_lt hok.2.2
    rw [List.flatMap_append, List.flatMap_cons, List.length_append, List.length_append,
      Element.encode]
    omega
  | case3 emitted found length hnot => exact length_literalBetween_le block emitted block.size

theorem length_elementsOf_le (chunk : Bytes) :
    60 * ((elementsOf chunk).flatMap Element.encode).length ≤ 61 * chunk.length + 60 := by
  rw [elementsOf]
  split
  · rw [List.flatMap_singleton, Element.encode]
    exact Element.length_encodeLiteral_le chunk
  · exact length_elementsFrom_le (first chunk.toArray)

/-- A full chunk has more than sixty bytes, so what its last literal costs is one more sixtieth for
each of them. Only the chunk at the end may be shorter. -/
theorem length_chunks_le (input : Bytes) :
    60 * ((chunks input).flatMap fun chunk => (elementsOf chunk).flatMap Element.encode).length ≤
      62 * input.length + 60 * min input.length 1 := by
  fun_induction chunks input with
  | case1 => simp
  | case2 input hne ih =>
    have hpos : 0 < input.length := List.length_pos_iff.mpr hne
    have hchunk : (input.take chunkLength).length = min chunkLength input.length :=
      List.length_take
    have hrest : (input.drop chunkLength).length = input.length - chunkLength := List.length_drop
    have hfirst := length_elementsOf_le (input.take chunkLength)
    rw [List.flatMap_cons, List.length_append]
    simp only [chunkLength] at hchunk hrest hfirst ih ⊢
    omega

/-! ## Whole blocks -/

theorem le_maxInputLength {n : Nat} (h : 0 < maxCompressedLength n) : n ≤ maxInputLength := by
  rw [maxCompressedLength] at h
  split at h <;> omega

/-- **The promised room suffices.** -/
theorem length_compress_le {input : Bytes} (h : 0 < maxCompressedLength input.length) :
    (compress input).length ≤ maxCompressedLength input.length := by
  have hinput := le_maxInputLength h
  have hbound : maxCompressedLength input.length = 32 + input.length + input.length / 6 := by
    rw [maxCompressedLength, if_neg (by omega)] at h ⊢
    split at h
    · omega
    · rename_i hfits
      rw [if_neg hfits]
  -- five bytes for the header, and one for what the last literal costs
  have hheader : (encodeLength input.length).length ≤ 4 + 1 :=
    length_encodeLength_le (Nat.lt_of_le_of_lt hinput (by decide))
  have hchunks := length_chunks_le input
  rw [hbound, compress, List.length_append]
  omega

/-- Even the block of nothing at all has a header. -/
theorem length_compress_pos (input : Bytes) : 0 < (compress input).length := by
  have hheader : 0 < (encodeLength input.length).length := by
    rw [encodeLength]
    split <;> exact Nat.succ_pos _
  rw [compress, List.length_append]
  omega

end BufferBridge.Snappy
