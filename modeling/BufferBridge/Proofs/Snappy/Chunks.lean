import BufferBridge.Proofs.Snappy.Elements
import BufferBridge.Snappy.Encoder

/-!
# What a chunk is cut into

The elements for a chunk produce the chunk again, whatever the matcher suggests: a copy is taken only
as far as the bytes agree, so the invariant of the search is that the elements so far produce the
bytes before `emitted`. The chunks of an input produce the input one after another.
-/
namespace BufferBridge.Snappy

open Matcher

/-! ## Matches -/

/-- As far as a match goes, the bytes at both places agree. -/
theorem getD_of_lt_matchLength {block : Array UInt8} {position earlier i : Nat}
    (h : i < matchLength block position earlier) :
    block.getD (earlier + i) 0 = block.getD (position + i) 0 := by
  fun_induction matchLength block position earlier generalizing i with
  | case1 position earlier hlt hbyte ih =>
    cases i with
    | zero => exact hbyte.symm
    | succ i =>
      have := ih (Nat.lt_of_succ_lt_succ h)
      rwa [show earlier + 1 + i = earlier + (i + 1) from by omega,
        show position + 1 + i = position + (i + 1) from by omega] at this
  | case2 => exact absurd h (Nat.not_lt_zero i)
  | case3 => exact absurd h (Nat.not_lt_zero i)

/-- A match extends the bytes before it as a copy. -/
theorem copyBack_match (base block : Array UInt8) {position earlier : Nat}
    (hback : earlier < position) (hpos : 0 < matchLength block position earlier) :
    Bytes.copyBack (position - earlier) (matchLength block position earlier)
        (base ++ block.extract 0 position) =
      base ++ block.extract 0 (position + matchLength block position earlier) :=
  Bytes.copyBack_extract base block hback (add_matchLength_le block position earlier hpos)
    fun _ hi => getD_of_lt_matchLength hi

/-! ## One chunk -/

section Chunk

variable {reader : Reader} {declared : Nat} {base block : Array UInt8}

theorem size_append_extract {stop : Nat} (h : stop ≤ block.size) :
    (base ++ block.extract 0 stop).size = base.size + stop := by
  simp only [Array.size_append, Array.size_extract]
  omega

/-- The literal between two positions extends the bytes before the first to those before the second. -/
theorem decode_literalBetween {start stop : Nat} (after : Bytes) (hle : start ≤ stop)
    (hstop : stop ≤ block.size) (hchunk : block.size ≤ 65536)
    (hfit : base.size + stop ≤ declared) :
    decodeElements reader declared ((literalBetween block start stop).flatMap Element.encode ++ after)
        (base ++ block.extract 0 start) =
      decodeElements reader declared after (base ++ block.extract 0 stop) := by
  have hsize : (base ++ block.extract 0 start).size = base.size + start :=
    size_append_extract (by omega)
  rw [literalBetween]
  split
  · rename_i hlt
    have hlen : (block.extract start stop).toList.length = stop - start := by
      rw [Array.length_toList, Array.size_extract]
      omega
    rw [List.flatMap_singleton, Element.encode,
      Element.decode_encodeLiteral after (by omega) (by omega) (by omega),
      Element.appendTo_literal, Array.toArray_toList, Array.append_assoc,
      Array.extract_append_extract, Nat.min_eq_left (Nat.zero_le _), Nat.max_eq_right hle]
  · rw [show start = stop from by omega]
    rfl

/-- The elements for the rest of a chunk extend the bytes before `emitted` to the whole chunk. -/
theorem decode_elementsFrom {emitted : Nat} (candidate : Option Candidate) (after : Bytes)
    (hemitted : emitted ≤ block.size) (hchunk : block.size ≤ 65536)
    (hfit : base.size + block.size ≤ declared) :
    decodeElements reader declared ((elementsFrom block emitted candidate).flatMap Element.encode ++ after)
        (base ++ block.extract 0 emitted) =
      decodeElements reader declared after (base ++ block) := by
  have hrest : ∀ start, start ≤ block.size →
      decodeElements reader declared
          ((literalBetween block start block.size).flatMap Element.encode ++ after)
          (base ++ block.extract 0 start) =
        decodeElements reader declared after (base ++ block) := by
    intro start hstart
    rw [decode_literalBetween after hstart (Nat.le_refl _) hchunk hfit, Array.extract_size]
  fun_induction elementsFrom block emitted candidate with
  | case1 emitted => exact hrest emitted hemitted
  | case2 emitted found length hok ih =>
    have hmatch : found.position + length ≤ block.size :=
      add_matchLength_le block found.position found.earlier (by omega)
    have hsize : (base ++ block.extract 0 found.position).size = base.size + found.position :=
      size_append_extract (by omega)
    -- the literal extends the output to where the match begins, and the copy to where it ends
    rw [List.flatMap_append, List.append_assoc,
      decode_literalBetween _ hok.1 (by omega) hchunk (by omega), List.flatMap_cons,
      List.append_assoc, Element.encode,
      Element.decode_encodeCopy _ hok.2.2 (by omega) (by omega) (by omega) (by omega)]
    show decodeElements reader declared _ (Bytes.copyBack (found.position - found.earlier) length _) = _
    rw [copyBack_match base block hok.2.1 (by omega)]
    exact ih hmatch
  | case3 emitted found length hnot => exact hrest emitted hemitted

/-- The elements for a chunk append the chunk. -/
theorem decode_elementsOf {chunk : Bytes} (after : Bytes) (hpos : 0 < chunk.length)
    (hchunk : chunk.length ≤ 65536) (hfit : base.size + chunk.length ≤ declared) :
    decodeElements reader declared ((elementsOf chunk).flatMap Element.encode ++ after) base =
      decodeElements reader declared after (base ++ chunk.toArray) := by
  rw [elementsOf]
  split
  · rw [List.flatMap_singleton, Element.encode, Element.decode_encodeLiteral after hpos hchunk hfit,
      Element.appendTo_literal]
  · have hsize : chunk.toArray.size = chunk.length := List.size_toArray
    have hwhole := @decode_elementsFrom reader declared base chunk.toArray 0 (first chunk.toArray) after
      (Nat.zero_le _) (by omega) (show base.size + chunk.toArray.size ≤ declared by omega)
    rwa [Array.extract_zero, Array.append_empty] at hwhole

end Chunk

/-! ## All chunks -/

/-- The chunks of an input append the input. -/
theorem decode_chunks {reader : Reader} {declared : Nat} {input : Bytes} {base : Array UInt8} (after : Bytes)
    (hfit : base.size + input.length ≤ declared) :
    decodeElements reader declared
        (((chunks input).flatMap fun chunk => (elementsOf chunk).flatMap Element.encode) ++ after)
        base =
      decodeElements reader declared after (base ++ input.toArray) := by
  fun_induction chunks input generalizing base with
  | case1 => simp
  | case2 input hne ih =>
    have hpos : 0 < input.length := List.length_pos_iff.mpr hne
    have hchunk : (input.take chunkLength).length = min chunkLength input.length :=
      List.length_take
    have hrest : (input.drop chunkLength).length = input.length - chunkLength := List.length_drop
    have hbase : (base ++ (input.take chunkLength).toArray).size =
        base.size + (input.take chunkLength).length := by
      simp only [Array.size_append, List.size_toArray]
    have hsplit : (input.take chunkLength).toArray ++ (input.drop chunkLength).toArray =
        input.toArray := by
      simp only [List.append_toArray, List.take_append_drop]
    simp only [chunkLength] at hchunk hrest hbase hsplit ih ⊢
    rw [List.flatMap_cons, List.append_assoc, decode_elementsOf _ (by omega) (by omega) (by omega),
      ih (by omega), Array.append_assoc, hsplit]

end BufferBridge.Snappy
