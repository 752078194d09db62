import BufferBridge.Proofs.Snappy.RoundTrip
import BufferBridge.Proofs.Windows

/-!
# What the Snappy decoder takes

The decompressor, the codec and the operation on byte strings succeed on the same blocks, those that
decode, and give the same bytes. What differs is the room: the decompressor takes any output that is
large enough, the codec only one of just the declared length. So a block that any of them takes is
valid.
-/
namespace BufferBridge

variable {reader : Snappy.Reader}

namespace Snappy

/-- The decompressor succeeds on the blocks that decode, as soon as the output has the room. -/
theorem decompress_eq_ok_iff {block output : Bytes} {room length : Nat} :
    decompress reader block room = (output, .ok length) ↔
      Decodes reader block output ∧ output.length = length ∧ length ≤ room := by
  constructor
  · intro h
    rw [decompress] at h
    split at h
    · cases h
    · split at h
      · cases h
      · rename_i declared body hheader
        split at h
        · cases h
        · rename_i hroom
          rcases hdecode : decodeElements reader declared body #[] with ⟨result, status⟩
          rw [hdecode] at h
          cases status with
          | error fault => cases h
          | ok _ =>
            cases h
            have hlength : result.toList.length = declared := size_of_decodeElements hdecode
            refine ⟨⟨body, ?_, ?_⟩, hlength, Nat.not_lt.mp hroom⟩
            · rw [hlength, hheader]
            · rw [hlength, hdecode]
  · intro h
    obtain ⟨hdecodes, rfl, hroom⟩ := h
    exact hdecodes.decompress hroom

end Snappy

/-- The codec succeeds on the blocks that decode, given just the room for the output. -/
theorem BlockCodec.snappy_uncompress_eq_ok_iff {block : Bytes} {room : Nat} :
    ((snappy reader).uncompress block room).result = .ok () ↔
      ∃ output, Snappy.Decodes reader block output ∧ output.length = room := by
  constructor
  · intro h
    rcases hrun : Snappy.decompress reader block room with ⟨output, result⟩
    simp only [snappy, hrun, bind_eq_ok_iff, mapError_eq_ok_iff] at h
    obtain ⟨length, rfl, h⟩ := h
    obtain ⟨hdecodes, hlength, -⟩ := Snappy.decompress_eq_ok_iff.mp hrun
    split at h
    · cases h
    · rename_i hroom
      exact ⟨output, hdecodes, hlength.trans (Decidable.of_not_not hroom)⟩
  · intro h
    obtain ⟨output, hdecodes, rfl⟩ := h
    rw [snappy_uncompress hdecodes]

/-- Given just the room for its output, the codec refuses a valid block that is cramped. -/
theorem BlockCodec.snappy_uncompress_of_cramped {block : Bytes} {length : Nat}
    (hvalid : (snappy reader).isValid block = true)
    (hcramped : Snappy.Cramped reader.lookAhead block)
    (hlength : (snappy reader).uncompressedLength block = .ok length) :
    ∃ left room, left < reader.lookAhead ∧ ((snappy reader).uncompress block length).result =
      .error (.codec .uncompress (.snappy (.literalCut reader.lookAhead left room))) := by
  obtain ⟨left, room, hfault, hleft⟩ := Snappy.decompress_of_cramped hvalid hcramped
    (mapError_eq_ok_iff.mp hlength) (Nat.le_refl length)
  refine ⟨left, room, hleft, ?_⟩
  simp only [snappy, hfault]
  rfl

/-- A block decompresses to what it decodes to. -/
theorem Owned.uncompress_eq_ok_iff {block output : Bytes} :
    uncompress block reader = .ok output ↔ Snappy.Decodes reader block output := by
  constructor
  · intro h
    simp only [uncompress, uncompressWith, bind_eq_ok_iff] at h
    obtain ⟨length, hlength, _, hresult, h⟩ := h
    obtain ⟨found, hdecodes, rfl⟩ := BlockCodec.snappy_uncompress_eq_ok_iff.mp hresult
    rw [BlockCodec.snappy_uncompress hdecodes, Bytes.fit_of_length rfl] at h
    cases h
    exact hdecodes
  · exact uncompressWith_snappy

/-- **The decoder takes no blocks but valid ones**, whether it decompresses a byte string or fills an
output with whatever room: none of the blocks that it takes is reported invalid. Of the valid blocks it
takes all but those that are cramped for the release at hand, and where a release does not look ahead,
there are none of these. -/
theorem BlockCodec.snappy_isValid_iff {block : Bytes} :
    ((∃ output, Owned.uncompressWith (snappy reader) block = .ok output) ↔
        (snappy reader).isValid block = true ∧ ¬ Snappy.Cramped reader.lookAhead block) ∧
      ((∃ room length, (Snappy.decompress reader block room).2 = .ok length) ↔
        (snappy reader).isValid block = true ∧ ¬ Snappy.Cramped reader.lookAhead block) ∧
      (reader.lookAhead = 0 → ¬ Snappy.Cramped reader.lookAhead block) := by
  have hdecodes : (∃ output, Snappy.Decodes reader block output) ↔
      (snappy reader).isValid block = true ∧ ¬ Snappy.Cramped reader.lookAhead block :=
    Snappy.decodes_iff
  refine ⟨?_, ?_, ?_⟩
  · rw [← hdecodes]
    exact exists_congr fun _ => Owned.uncompress_eq_ok_iff
  · rw [← hdecodes]
    constructor
    · intro h
      obtain ⟨room, length, h⟩ := h
      exact ⟨_, (Snappy.decompress_eq_ok_iff.mp (Prod.ext rfl h)).1⟩
    · intro h
      obtain ⟨output, houtput⟩ := h
      refine ⟨output.length, output.length, ?_⟩
      rw [houtput.decompress (Nat.le_refl _)]
  · intro hnowhere
    rw [hnowhere]
    exact Snappy.not_cramped_zero block

end BufferBridge
