import BufferBridge.Owned
import BufferBridge.Proofs.Snappy.Agreement
import BufferBridge.Proofs.Snappy.Bound
import BufferBridge.Proofs.Snappy.Chunks

/-!
# The Snappy codec on byte strings

What the codec's operations give on blocks that decode, and with that the round trip: whatever can be
compressed at all is compressed to a valid block that declares the right length and decompresses to
the input.
-/
namespace BufferBridge

variable {reader : Snappy.Reader}

/-! ## The encoder's blocks decode -/

theorem Snappy.decodes_compress {input : Bytes} (h : input.length ≤ maxInputLength) :
    Decodes reader (compress input) input := by
  refine ⟨_, readHeader_encodeLength _ h, ?_⟩
  have hchunks := @decode_chunks reader input.length input #[] [] (by simp)
  rw [List.append_nil, Array.empty_append, decodeElements_nil, if_pos List.size_toArray] at hchunks
  exact hchunks

/-! ## The codec's operations -/

namespace BlockCodec

theorem bound_eq_ok_iff {codec : BlockCodec} {length room : Nat} :
    codec.bound length = .ok room ↔ codec.maxCompressedLength length = room ∧ 0 < room := by
  rw [bound]
  split
  · rename_i hzero
    rw [hzero]
    constructor
    · intro h
      cases h
    · intro h
      obtain ⟨rfl, hpos⟩ := h
      cases hpos
  · rename_i hne
    constructor
    · intro h
      cases h
      exact ⟨rfl, Nat.pos_of_ne_zero hne⟩
    · intro h
      obtain ⟨rfl, -⟩ := h
      rfl

theorem snappy_compress {input : Bytes} {room : Nat}
    (hpos : 0 < Snappy.maxCompressedLength input.length)
    (hroom : Snappy.maxCompressedLength input.length ≤ room) :
    (snappy reader).compress input room =
      ⟨Snappy.compress input, .ok (Snappy.compress input).length⟩ := by
  simp only [snappy]
  rw [if_neg (by omega), if_neg (by omega)]

theorem snappy_compress_eq_ok_iff {input : Bytes} {room length : Nat} :
    ((snappy reader).compress input room).result = .ok length ↔
      (0 < Snappy.maxCompressedLength input.length ∧
        Snappy.maxCompressedLength input.length ≤ room) ∧
        length = (Snappy.compress input).length := by
  constructor
  · intro h
    simp only [snappy] at h
    split at h
    · cases h
    · split at h
      · cases h
      · cases h
        exact ⟨⟨by omega, by omega⟩, rfl⟩
  · intro h
    obtain ⟨⟨hpos, hroom⟩, rfl⟩ := h
    rw [snappy_compress hpos hroom]

theorem snappy_uncompressedLength {block output : Bytes} (h : Snappy.Decodes reader block output) :
    (snappy reader).uncompressedLength block = .ok output.length := by
  simp only [snappy, h.declaredLength]
  rfl

theorem snappy_uncompress {block output : Bytes} (h : Snappy.Decodes reader block output) :
    (snappy reader).uncompress block output.length = ⟨output, .ok ()⟩ := by
  simp only [snappy, h.decompress (Nat.le_refl _)]
  show (⟨output, if output.length ≠ output.length then _ else .ok ()⟩ : Outcome Unit) = _
  rw [if_neg (not_not_intro rfl)]

end BlockCodec

/-! ## Owned byte strings -/

namespace Owned

/-- A block that decodes is decompressed into room of the declared length and fills it. -/
theorem uncompressWith_snappy {block output : Bytes} (h : Snappy.Decodes reader block output) :
    uncompressWith (.snappy reader) block = .ok output := by
  have hdeclared : declaredLength (.snappy reader) block = .ok output.length := by
    rw [declaredLength, BlockCodec.snappy_uncompressedLength h]
    rfl
  rw [uncompressWith, hdeclared]
  show (do
    ((BlockCodec.snappy reader).uncompress block output.length).result
    return Bytes.fit output.length ((BlockCodec.snappy reader).uncompress block output.length).written) =
      _
  rw [BlockCodec.snappy_uncompress h]
  show Except.ok (Bytes.fit output.length output) = _
  rw [Bytes.fit_of_length rfl]

/-- An input with a bound is compressed within it, so nothing is cut off the block. -/
theorem compressWith_snappy {input : Bytes}
    (hpos : 0 < Snappy.maxCompressedLength input.length) :
    compressWith (.snappy reader) input = .ok (Snappy.compress input) := by
  have hbound : (BlockCodec.snappy reader).bound input.length =
      .ok (Snappy.maxCompressedLength input.length) :=
    BlockCodec.bound_eq_ok_iff.mpr ⟨rfl, hpos⟩
  have hlength : (Snappy.compress input).length ≤ Snappy.maxCompressedLength input.length :=
    Snappy.length_compress_le hpos
  rw [compressWith, hbound]
  show (do
    let length ← ((BlockCodec.snappy reader).compress input _).result
    return Bytes.fit (min length _) ((BlockCodec.snappy reader).compress input _).written) = _
  rw [BlockCodec.snappy_compress hpos (Nat.le_refl _)]
  show Except.ok (Bytes.fit (min _ _) _) = _
  rw [Nat.min_eq_left hlength, Bytes.fit_of_length rfl]

/-- **Compressing keeps to the promised room.** An input with a bound has one block, of at least one byte
and of no more than the bound. Any output with that much room takes the whole block at its front,
whatever it held, and keeps what it held behind it; and an output that is made just as large as the
bound is cut down to the block. -/
theorem compress_within_bound {input : Bytes} {bound : Nat}
    (hbound : BlockCodec.snappy.maxCompressedLength input.length = bound) (hpos : 0 < bound) :
    ∃ block : Bytes, 1 ≤ block.length ∧ block.length ≤ bound ∧
      (∀ output : Bytes, bound ≤ output.length →
        BlockCodec.snappy.compress input output.length = ⟨block, .ok block.length⟩ ∧
          Bytes.overlay output 0 block = block ++ output.drop block.length) ∧
      compressWith .snappy input = .ok block := by
  subst hbound
  have hlength : (Snappy.compress input).length ≤ Snappy.maxCompressedLength input.length :=
    Snappy.length_compress_le hpos
  refine ⟨Snappy.compress input, Snappy.length_compress_pos input, hlength, ?_,
    compressWith_snappy hpos⟩
  intro output hroom
  have hfits : 0 + (Snappy.compress input).length ≤ output.length := by
    rw [Nat.zero_add]
    exact Nat.le_trans hlength hroom
  refine ⟨BlockCodec.snappy_compress hpos hroom, ?_⟩
  rw [Bytes.overlay_of_le hfits, List.take_zero, List.nil_append, Nat.zero_add]

/-- Seventy different bytes: nothing to copy, and a literal whose length does not fit its tag. -/
theorem compress_within_bound_literal :
    BlockCodec.snappy.maxCompressedLength ((List.range 70).map UInt8.ofNat).length = 113 ∧
      ∃ block : Bytes, 1 ≤ block.length ∧ block.length ≤ 113 ∧
        (BlockCodec.snappy.compress ((List.range 70).map UInt8.ofNat) 113).result =
          .ok block.length ∧
        Bytes.overlay (List.replicate 113 0xFF) 0 block =
          block ++ (List.replicate 113 0xFF).drop block.length := by
  have hbound : BlockCodec.snappy.maxCompressedLength ((List.range 70).map UInt8.ofNat).length = 113 :=
    rfl
  obtain ⟨block, hpos, hle, hinto, -⟩ := compress_within_bound hbound (by decide)
  have hoverlay := hinto (List.replicate 113 0xFF) (by decide)
  exact ⟨hbound, block, hpos, hle, congrArg Outcome.result hoverlay.1, hoverlay.2⟩

/-- **Round trip.** Every byte string that has a bound is compressed, to a block that every release finds
valid, of the length of the byte string, and decompresses to it. -/
theorem uncompress_compress {input : Bytes} {room : Nat}
    (h : maxCompressedLength input.length = .ok room) :
    ∃ block, compress input = .ok block ∧ ∀ reader, uncompress block reader = .ok input ∧
      uncompressedLength block reader = .ok input.length ∧ isValid block reader = true := by
  obtain ⟨hroom, hpos⟩ := BlockCodec.bound_eq_ok_iff.mp h
  subst hroom
  refine ⟨Snappy.compress input, compressWith_snappy hpos, ?_⟩
  intro reader
  have hdecodes := @Snappy.decodes_compress reader input (Snappy.le_maxInputLength hpos)
  exact ⟨uncompressWith_snappy hdecodes, BlockCodec.snappy_uncompressedLength hdecodes,
    hdecodes.isValid⟩

/-- Forty bytes that repeat after three: long enough to be searched, and their block holds a copy that
runs into itself. -/
theorem uncompress_compress_repeated :
    maxCompressedLength ((List.range 40).map fun i => UInt8.ofNat (i % 3)).length = .ok 78 ∧
      ∃ block, compress ((List.range 40).map fun i => UInt8.ofNat (i % 3)) = .ok block ∧
        ∀ reader, uncompress block reader = .ok ((List.range 40).map fun i => UInt8.ofNat (i % 3)) ∧
          uncompressedLength block reader = .ok 40 ∧ isValid block reader = true :=
  ⟨rfl, uncompress_compress rfl⟩

end Owned

end BufferBridge
