import BufferBridge.Proofs.Snappy.Agreement
import BufferBridge.Proofs.Snappy.Elements
import BufferBridge.Proofs.Snappy.Header

/-!
# Blocks of one byte over and over

A byte and a copy of it from one place back stand for any number of such bytes. Three bytes of a block
stand for sixty-four of what it decodes to, so no output is too long for a block that is far shorter.
-/
namespace BufferBridge.Snappy

/-- The block of a byte and of `copies` times sixty-four bytes that repeat it. -/
def run (byte : UInt8) (copies : Nat) : Bytes :=
  encodeLength (1 + 64 * copies) ++
    (Element.encodeLiteral [byte] ++ Element.encodeCopy 1 (64 * copies))

theorem decodes_run {reader : Reader} {byte : UInt8} {copies : Nat} (hpos : 0 < copies)
    (hsize : 1 + 64 * copies ≤ maxInputLength) :
    Decodes reader (run byte copies) (List.replicate (1 + 64 * copies) byte) := by
  have hliteral := @Element.decode_encodeLiteral reader (1 + 64 * copies) [byte]
    (Element.encodeCopy 1 (64 * copies)) #[] Nat.one_pos (by simp) (Nat.le_add_right _ _)
  have hfirst : (Element.literal [byte]).appendTo #[] = Array.replicate (0 + 1) byte := rfl
  have hcopy := @Element.decode_encodeCopy reader (1 + 64 * copies) 1 (64 * copies) []
    (Array.replicate (0 + 1) byte) (by omega) Nat.one_pos (by simp) (by decide) (by simp)
  refine ⟨Element.encodeLiteral [byte] ++ Element.encodeCopy 1 (64 * copies), ?_, ?_⟩
  · rw [List.length_replicate]
    exact readHeader_encodeLength _ hsize
  · rw [List.append_nil] at hcopy
    rw [List.length_replicate, hliteral, hfirst, hcopy, Element.appendTo, Bytes.copyBack_replicate,
      decodeElements_nil, if_pos (by simp)]
    simp

/-- Every copy takes three bytes, the last one like the others. -/
theorem length_encodeCopy (offset : Nat) (copies : Nat) :
    (Element.encodeCopy offset (64 * (copies + 1))).length = 3 * (copies + 1) := by
  induction copies with
  | zero =>
    rw [Element.encodeCopy]
    rfl
  | succ copies ih =>
    rw [Element.encodeCopy, if_pos (by omega), List.length_append,
      show 64 * (copies + 1 + 1) - 64 = 64 * (copies + 1) by omega, ih]
    simp only [Element.encodeFarCopy, List.length_cons, Bytes.length_ofNatLittleEndian]
    omega

theorem length_run (byte : UInt8) {copies : Nat} (hpos : 0 < copies) :
    (run byte copies).length = (encodeLength (1 + 64 * copies)).length + 2 + 3 * copies := by
  obtain ⟨fewer, rfl⟩ := Nat.exists_eq_succ_of_ne_zero (Nat.ne_of_gt hpos)
  rw [run, List.length_append, List.length_append, length_encodeCopy]
  simp only [Element.encodeLiteral]
  simp
  omega

end BufferBridge.Snappy
