import BufferBridge.Bytes

/-!
# Byte strings: parts, patches, numbers and repeated copies

The facts about byte strings that block formats rest on: parts that follow one another join up, a
patch changes no byte outside its place, a number written in base 256 reads back as itself, and a
run copied from earlier in an output reproduces any data in which the same bytes stand at both places.
-/
namespace BufferBridge.Bytes

/-! ## Parts -/

theorem length_slice {bytes : Bytes} {start length : Nat} (h : start + length ≤ bytes.length) :
    (slice bytes start length).length = length := by
  rw [slice, List.length_take, List.length_drop]
  omega

theorem getElem?_slice (bytes : Bytes) (start length i : Nat) :
    (slice bytes start length)[i]? = if i < length then bytes[start + i]? else none := by
  rw [slice, List.getElem?_take]
  split
  · rw [List.getElem?_drop]
  · rfl

theorem slice_append_slice (bytes : Bytes) (start first second : Nat) :
    slice bytes start first ++ slice bytes (start + first) second =
      slice bytes start (first + second) := by
  rw [slice, slice, slice, List.take_add, List.drop_drop]

/-- A part that stands behind `front` is what is cut out there. -/
theorem slice_append_append {front part back : Bytes} {start length : Nat}
    (hfront : front.length = start) (hpart : part.length = length) :
    slice (front ++ part ++ back) start length = part := by
  rw [slice, List.append_assoc, List.drop_left' hfront, List.take_left' hpart]

/-! ## Patches -/

theorem overlay_of_le {bytes patch : Bytes} {start : Nat}
    (h : start + patch.length ≤ bytes.length) :
    overlay bytes start patch = bytes.take start ++ patch ++ bytes.drop (start + patch.length) := by
  have hpatch : patch.take (bytes.length - start) = patch := List.take_of_length_le (by omega)
  rw [overlay, hpatch]

/-- A patch behind `front` leaves it, and what is behind the patch. -/
theorem overlay_append {front rest patch : Bytes} {start : Nat} (hfront : front.length = start)
    (hpatch : patch.length ≤ rest.length) :
    overlay (front ++ rest) start patch = front ++ patch ++ rest.drop patch.length := by
  have hstop : start + patch.length ≤ (front ++ rest).length := by
    rw [List.length_append]
    omega
  rw [overlay_of_le hstop, List.take_left' hfront, ← List.drop_drop, List.drop_left' hfront]

theorem overlay_all {bytes patch : Bytes} (h : patch.length = bytes.length) :
    overlay bytes 0 patch = patch := by
  rw [overlay_of_le (by omega), List.take_zero, List.nil_append, List.drop_of_length_le (by omega),
    List.append_nil]

/-- Where a patch fits, it is what stands there afterwards. -/
theorem slice_overlay {bytes patch : Bytes} {start : Nat}
    (h : start + patch.length ≤ bytes.length) :
    slice (overlay bytes start patch) start patch.length = patch := by
  rw [overlay_of_le h]
  apply slice_append_append _ rfl
  rw [List.length_take]
  omega

theorem getElem?_overlay_of_outside {bytes patch : Bytes} {start position : Nat}
    (h : position < start ∨ start + patch.length ≤ position) :
    (overlay bytes start patch)[position]? = bytes[position]? := by
  by_cases hlength : bytes.length ≤ position
  · rw [List.getElem?_eq_none hlength, List.getElem?_eq_none (by rwa [length_overlay])]
  · rw [overlay]
    rcases h with h | h
    · rw [List.append_assoc, List.getElem?_append_left (by rw [List.length_take]; omega),
        List.getElem?_take_of_lt h]
    · have hfront : (bytes.take start ++ patch.take (bytes.length - start)).length
          = start + patch.length := by
        rw [List.length_append, List.length_take, List.length_take]
        omega
      rw [List.getElem?_append_right (by omega), hfront, List.getElem?_drop,
        Nat.add_sub_cancel' h]

theorem getElem?_overlay_of_inside {bytes patch : Bytes} {start position : Nat}
    (hstart : start ≤ position) (hstop : position < start + patch.length) :
    (overlay bytes start patch)[position]? =
      if position < bytes.length then patch[position - start]? else none := by
  split
  · have hfront : (bytes.take start).length = start := by
      rw [List.length_take]
      omega
    have hcut : position - start < bytes.length - start := by omega
    rw [overlay, List.getElem?_append_left, List.getElem?_append_right (by omega), hfront,
      List.getElem?_take_of_lt hcut]
    rw [List.length_append, hfront, List.length_take]
    omega
  · apply List.getElem?_eq_none
    rw [length_overlay]
    omega

/-! ## Numbers in base 256 -/

theorem toNat_ofNat {n : Nat} (h : n < 256) : (UInt8.ofNat n).toNat = n :=
  UInt8.toNat_ofNat_of_lt' h

theorem littleEndian_ofNatLittleEndian {width n : Nat} (h : n < Nat.pow 256 width) :
    littleEndian (ofNatLittleEndian width n) = n := by
  induction width generalizing n with
  | zero =>
    have hn : n = 0 := Nat.lt_one_iff.mp h
    subst hn
    rfl
  | succ width ih =>
    have hhigh : n / 256 < Nat.pow 256 width := Nat.div_lt_of_lt_mul (by
      rw [Nat.mul_comm]; exact h)
    simp only [ofNatLittleEndian, littleEndian, ih hhigh, UInt8.toNat_ofNat']
    omega

theorem littleEndian_lt (bytes : Bytes) : littleEndian bytes < Nat.pow 256 bytes.length := by
  induction bytes with
  | nil => decide
  | cons byte rest ih =>
    have hbyte := byte.toNat_lt
    have hpow : Nat.pow 256 (byte :: rest).length = Nat.pow 256 rest.length * 256 := rfl
    rw [littleEndian, hpow]
    omega

theorem ofNatLittleEndian_littleEndian (bytes : Bytes) :
    ofNatLittleEndian bytes.length (littleEndian bytes) = bytes := by
  induction bytes with
  | nil => rfl
  | cons byte rest ih =>
    have hbyte := byte.toNat_lt
    have hhigh : (byte.toNat + 256 * littleEndian rest) / 256 = littleEndian rest := by omega
    have hlow : UInt8.ofNat (byte.toNat + 256 * littleEndian rest) = byte := by
      apply UInt8.toNat_inj.mp
      rw [UInt8.toNat_ofNat']
      omega
    simp only [littleEndian, List.length_cons, ofNatLittleEndian, hhigh, hlow, ih]

/-! ## Runs copied from earlier in the output -/

theorem size_append (output : Array UInt8) (bytes : Bytes) :
    (output ++ bytes).size = output.size + bytes.length := by
  rw [← Array.length_toList, Array.toList_appendList, List.length_append, Array.length_toList]

@[simp] theorem size_copyBack (offset length : Nat) (output : Array UInt8) :
    (copyBack offset length output).size = output.size + length := by
  induction length generalizing output with
  | zero => rfl
  | succ length ih =>
    rw [copyBack, ih, Array.size_push]
    omega

/-- A run may be copied in two parts. -/
theorem copyBack_add (offset first second : Nat) (output : Array UInt8) :
    copyBack offset (first + second) output =
      copyBack offset second (copyBack offset first output) := by
  induction first generalizing output with
  | zero => rw [Nat.zero_add]; rfl
  | succ first ih =>
    rw [show first + 1 + second = (first + second) + 1 from by omega, copyBack, copyBack, ih]

/-- A copy from one byte back repeats the last byte. -/
theorem copyBack_replicate (byte : UInt8) (n length : Nat) :
    copyBack 1 length (Array.replicate (n + 1) byte) = Array.replicate (n + 1 + length) byte := by
  induction length generalizing n with
  | zero => rfl
  | succ length ih =>
    have hlast : (Array.replicate (n + 1) byte).getD ((Array.replicate (n + 1) byte).size - 1) 0 =
        byte := by
      simp
    rw [copyBack, hlast, ← Array.replicate_succ, ih, Nat.add_right_comm, Nat.add_assoc]

/-- The byte that a copy appends to `base` and the first `position` bytes of `block` is the one that
stands `position - earlier` bytes before the end, byte `earlier` of the block. -/
theorem getD_append_extract (base block : Array UInt8) {position earlier : Nat}
    (hback : earlier < position) (hsize : position ≤ block.size) :
    (base ++ block.extract 0 position).getD
        ((base ++ block.extract 0 position).size - (position - earlier)) 0 =
      block.getD earlier 0 := by
  have hindex : (base ++ block.extract 0 position).size - (position - earlier) =
      base.size + earlier := by
    simp only [Array.size_append, Array.size_extract]
    omega
  rw [hindex, Array.getD_eq_getD_getElem?, Array.getD_eq_getD_getElem?,
    Array.getElem?_append_right (by omega), show base.size + earlier - base.size = earlier by omega]
  simp only [Array.getElem?_extract, Nat.zero_add, Nat.sub_zero]
  rw [if_pos (by omega)]

/-- Appending byte `position` of a block to its first `position` bytes gives one byte more of it. -/
theorem push_extract (base block : Array UInt8) {position : Nat} (h : position < block.size) :
    (base ++ block.extract 0 position).push (block.getD position 0) =
      base ++ block.extract 0 (position + 1) := by
  have hbyte : block.getD position 0 = block[position] := by
    rw [Array.getD_eq_getD_getElem?, Array.getElem?_eq_getElem h, Option.getD_some]
  rw [hbyte, ← Array.append_push, Array.push_extract_getElem, Nat.min_eq_left (Nat.zero_le _)]

/-- Where `length` bytes of a block from `position` on are those from `earlier` on, copying that many
bytes extends the first `position` bytes of the block by as many, whatever stands before the block.
The induction moves both places forward at once, so the copy may run into itself. -/
theorem copyBack_extract (base block : Array UInt8) {position earlier length : Nat}
    (hback : earlier < position) (hsize : position + length ≤ block.size)
    (hsame : ∀ i, i < length → block.getD (earlier + i) 0 = block.getD (position + i) 0) :
    copyBack (position - earlier) length (base ++ block.extract 0 position) =
      base ++ block.extract 0 (position + length) := by
  induction length generalizing position earlier with
  | zero => rfl
  | succ length ih =>
    have hbyte : block.getD earlier 0 = block.getD position 0 := hsame 0 (by omega)
    rw [copyBack, getD_append_extract base block hback (by omega), hbyte,
      push_extract base block (by omega)]
    have hrest : ∀ i, i < length →
        block.getD (earlier + 1 + i) 0 = block.getD (position + 1 + i) 0 := by
      intro i hi
      have := hsame (i + 1) (by omega)
      rwa [show earlier + (i + 1) = earlier + 1 + i from by omega,
        show position + (i + 1) = position + 1 + i from by omega] at this
    have hstep := ih (Nat.succ_lt_succ hback) (by omega) hrest
    rw [show position + 1 - (earlier + 1) = position - earlier from by omega] at hstep
    rw [hstep, show position + 1 + length = position + (length + 1) from by omega]

end BufferBridge.Bytes
