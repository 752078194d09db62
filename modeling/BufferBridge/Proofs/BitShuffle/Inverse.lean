import BufferBridge.Proofs.Bytes
import BufferBridge.Proofs.BitShuffle.Blocks
import BufferBridge.Proofs.BitShuffle.Transpose

/-!
# Shuffling and unshuffling undo each other

Both directions cut the elements into the same blocks and leave those after the last block as they
are, so that each block is transposed back by itself.
-/
namespace BufferBridge.BitShuffle

variable {width count : Nat} {input rest : Bytes} (direction : Direction)

theorem slice_elements_append (width : Nat) (input : Bytes) {start middle stop : Nat}
    (hfirst : start ≤ middle) (hsecond : middle ≤ stop) :
    Bytes.slice input (start * width) ((middle - start) * width) ++
        Bytes.slice input (middle * width) ((stop - middle) * width) =
      Bytes.slice input (start * width) ((stop - start) * width) := by
  obtain ⟨count, rfl⟩ := Nat.exists_eq_add_of_le hfirst
  obtain ⟨tail, rfl⟩ := Nat.exists_eq_add_of_le hsecond
  rw [Nat.add_sub_cancel_left, Nat.add_sub_cancel_left, Nat.add_assoc, Nat.add_sub_cancel_left,
    Nat.add_mul, Nat.add_mul, Bytes.slice_append_slice]

/-! ## A run of blocks -/

/-- The bytes that the blocks of a run come out as. -/
def regroupRun (direction : Direction) (width : Nat) (input : Bytes) (run : List Block) : Bytes :=
  run.flatMap fun block =>
    regroup direction width block.count
      (Bytes.slice input (block.start * width) (block.count * width))

theorem regroupRun_cons (width : Nat) (input : Bytes) (block : Block) (run : List Block) :
    regroupRun direction width input (block :: run) =
      regroup direction width block.count
          (Bytes.slice input (block.start * width) (block.count * width)) ++
        regroupRun direction width input run :=
  rfl

theorem length_regroupRun {start stop : Nat} {run : List Block} (h : Tiles start run stop) :
    (regroupRun direction width input run).length = (stop - start) * width := by
  induction run generalizing start with
  | nil =>
    cases h
    simp [regroupRun]
  | cons block run ih =>
    obtain ⟨-, -, hrun⟩ := h
    have hle := hrun.le
    rw [regroupRun_cons, List.length_append, length_regroup, ih hrun, ← Nat.add_mul,
      show block.count + (stop - (start + block.count)) = stop - start from by omega]

/-- The induction is on the run, with the blocks already regrouped as part of what stands in front. -/
theorem regroupRun_reverse_regroupRun {start stop : Nat} {run : List Block} {front back : Bytes}
    (htiles : Tiles start run stop) (hinput : stop * width ≤ input.length)
    (hfront : front.length = start * width) :
    regroupRun direction.reverse width (front ++ regroupRun direction width input run ++ back) run =
      Bytes.slice input (start * width) ((stop - start) * width) := by
  induction run generalizing start front with
  | nil =>
    cases htiles
    simp [regroupRun, Bytes.slice]
  | cons block run ih =>
    obtain ⟨rfl, hcount, hrun⟩ := htiles
    have hle := hrun.le
    have hstop : block.start * width + block.count * width ≤ input.length := by
      rw [← Nat.add_mul]
      exact Nat.le_trans (Nat.mul_le_mul_right width hle) hinput
    have hblock := Bytes.length_slice hstop
    rw [regroupRun_cons direction, ← List.append_assoc front]
    generalize hout : regroup direction width block.count
      (Bytes.slice input (block.start * width) (block.count * width)) = out
    have hlength : out.length = block.count * width := by rw [← hout, length_regroup]
    have hfront' : (front ++ out).length = (block.start + block.count) * width := by
      rw [List.length_append, hfront, hlength, Nat.add_mul]
    have hfirst : regroup direction.reverse width block.count out =
        Bytes.slice input (block.start * width) (block.count * width) := by
      rw [← hout, regroup_reverse_regroup direction hcount hblock]
    have hjoin := slice_elements_append width input (Nat.le_add_right block.start block.count) hle
    rw [Nat.add_sub_cancel_left] at hjoin
    rw [regroupRun_cons, ih hrun hfront', List.append_assoc (front ++ out),
      Bytes.slice_append_append hfront hlength, hfirst, hjoin]

/-! ## All elements -/

theorem transform_eq (width count : Nat) (input : Bytes) :
    transform direction width count input =
      regroupRun direction width input (blocks width count) ++
        Bytes.slice input (blockedCount count * width) ((count - blockedCount count) * width) :=
  rfl

theorem blocked_add_tail (width count : Nat) :
    blockedCount count * width + (count - blockedCount count) * width = count * width := by
  rw [← Nat.add_mul, Nat.add_sub_cancel' (blockedCount_le count)]

theorem length_regroupRun_blocks (width count : Nat) (input : Bytes) :
    (regroupRun direction width input (blocks width count)).length = blockedCount count * width :=
  length_regroupRun direction (tiles_blocks width count)

theorem regroupRun_blocks (h : blockedCount count * width ≤ input.length) :
    regroupRun direction.reverse width
        (regroupRun direction width input (blocks width count) ++ rest) (blocks width count) =
      Bytes.slice input (0 * width) ((blockedCount count - 0) * width) := by
  have hfront : ([] : Bytes).length = 0 * width := (Nat.zero_mul width).symm
  have hrun : regroupRun direction.reverse width
      ([] ++ regroupRun direction width input (blocks width count) ++ rest) (blocks width count) =
        Bytes.slice input (0 * width) ((blockedCount count - 0) * width) :=
    regroupRun_reverse_regroupRun direction (tiles_blocks width count) h hfront
  rwa [List.nil_append] at hrun

theorem length_transform (h : count * width ≤ input.length) :
    (transform direction width count input).length = count * width := by
  have htotal := blocked_add_tail width count
  rw [transform_eq, List.length_append, length_regroupRun_blocks, Bytes.length_slice (by omega),
    htotal]

/-- Whatever stands behind the elements is not looked at. -/
theorem transform_reverse_transform (h : count * width ≤ input.length) :
    transform direction.reverse width count (transform direction width count input ++ rest) =
      input.take (count * width) := by
  have htotal := blocked_add_tail width count
  have htail : (Bytes.slice input (blockedCount count * width)
      ((count - blockedCount count) * width)).length = (count - blockedCount count) * width :=
    Bytes.length_slice (by omega)
  rw [transform_eq direction.reverse, transform_eq direction,
    Bytes.slice_append_append (length_regroupRun_blocks direction width count input) htail,
    List.append_assoc, regroupRun_blocks direction (by omega),
    slice_elements_append width input (Nat.zero_le _) (blockedCount_le count), Nat.zero_mul]
  rfl

/-- Nothing but the elements: all of it comes back. -/
theorem transform_back (h : input.length = count * width) :
    transform direction.reverse width count (transform direction width count input) = input := by
  have hback := @transform_reverse_transform width count input [] direction (Nat.le_of_eq h.symm)
  rwa [List.append_nil, List.take_of_length_le (Nat.le_of_eq h)] at hback

/-! ## Whole calls -/

theorem checkedTotal_eq_ok_iff {inputLength outputLength total : Nat} :
    checkedTotal inputLength outputLength count width = .ok total ↔
      0 < width ∧ count * width ≤ maxSize ∧ count * width ≤ inputLength ∧
        count * width ≤ outputLength ∧ total = count * width := by
  simp only [checkedTotal]
  split
  · simp; omega
  · split
    · simp; omega
    · split
      · simp; omega
      · simp; omega

theorem apply_eq_ok {output : Bytes} (hwidth : 0 < width) (hmax : count * width ≤ maxSize)
    (hinput : count * width ≤ input.length) (houtput : count * width ≤ output.length) :
    apply direction input output count width =
      .ok (count * width,
        transform direction width count input ++ output.drop (count * width)) := by
  have htotal : checkedTotal input.length output.length count width = .ok (count * width) :=
    checkedTotal_eq_ok_iff.mpr ⟨hwidth, hmax, hinput, houtput, rfl⟩
  have hlength := length_transform direction hinput
  have hoverlay : Bytes.overlay output 0 (transform direction width count input) =
      transform direction width count input ++ output.drop (count * width) := by
    rw [Bytes.overlay_of_le (by omega), hlength, List.take_zero, List.nil_append, Nat.zero_add]
  rw [apply, htotal, ← hoverlay]
  rfl

/-- **One way and back again restores the elements**, whichever way comes first and whatever the two
outputs held before. -/
theorem apply_reverse_apply {first second : Bytes} (hwidth : 0 < width)
    (hmax : count * width ≤ maxSize) (hinput : count * width ≤ input.length)
    (hfirst : count * width ≤ first.length) (hsecond : count * width ≤ second.length) :
    ∃ middle last,
      apply direction input first count width = .ok (count * width, middle) ∧
      apply direction.reverse middle second count width = .ok (count * width, last) ∧
      last.take (count * width) = input.take (count * width) := by
  have hthere := apply_eq_ok direction hwidth hmax hinput hfirst
  have hmiddle := length_transform direction hinput
  have hsource : count * width ≤
      (transform direction width count input ++ first.drop (count * width)).length := by
    rw [List.length_append]
    omega
  have hback := apply_eq_ok direction.reverse hwidth hmax hsource hsecond
  refine ⟨_, _, hthere, hback, ?_⟩
  rw [transform_reverse_transform direction hinput, List.take_left']
  rw [List.length_take]
  omega

theorem apply_reverse_apply_with_tail :
    ∃ middle last,
      apply .unshuffle ((List.range 40).map UInt8.ofNat) (List.replicate 33 0xFF) 11 3 =
        .ok (33, middle) ∧
      apply .shuffle middle (List.replicate 35 0) 11 3 = .ok (33, last) ∧
      last.take 33 = (List.range 33).map UInt8.ofNat :=
  apply_reverse_apply .unshuffle (by decide) (by decide) (by decide) (by decide) (by decide)

end BufferBridge.BitShuffle
