import BufferBridge.Proofs.BitShuffle.Inverse
import BufferBridge.Proofs.BitShuffle.Scatter

/-!
# Shuffling in place

The loops over machine words have no fault, whatever the arguments: one check at the start bounds every
number that they come by, and every place that they reach for. They end, after as many turns as there
are full blocks, and leave what the blocks are regrouped to.
-/
namespace BufferBridge.BitShuffle

open Word (Fault)

variable {direction : Direction} {width count done : Nat} {input output : Bytes}

/-! ## One block -/

theorem regroupInto_eq {block : Bytes} (hwidth : 0 < width) (hcount : 8 ∣ count) (hpos : 0 < count)
    (hwords : count * width ≤ maxSize) (hblock : block.length = count * width)
    (houtput : output.length = count * width) :
    regroupInto direction width count block output = .ok (regroup direction width count block) := by
  obtain ⟨depth, rfl⟩ := hcount
  have hdepth : 8 * depth / 8 = depth := Nat.mul_div_cancel_left _ (by decide)
  rw [Nat.mul_assoc] at hwords hblock houtput
  cases direction with
  | shuffle =>
    rw [Nat.mul_comm depth] at hwords hblock houtput
    rw [regroup_shuffle width block (Nat.dvd_mul_right 8 depth), regroupInto, hdepth]
    exact scatter_eq_transpose hwords hwidth hblock houtput
  | unshuffle =>
    rw [regroup_unshuffle width block (Nat.dvd_mul_right 8 depth), regroupInto, hdepth]
    exact scatter_eq_transpose hwords (by omega) hblock houtput

/-- The output when a run of blocks, with `done` elements in all, is regrouped. -/
def progress (direction : Direction) (width : Nat) (input output : Bytes) (run : List Block)
    (done : Nat) : Bytes :=
  regroupRun direction width input run ++ output.drop (done * width)

theorem length_progress {run : List Block} (hrun : Tiles 0 run done)
    (houtput : done * width ≤ output.length) :
    (progress direction width input output run done).length = output.length := by
  rw [progress, List.length_append, length_regroupRun direction hrun, List.length_drop, Nat.sub_zero]
  omega

/-- One more block, laid over the output behind the run. -/
theorem overlay_progress {run : List Block} {block : Block} (hrun : Tiles 0 run done)
    (houtput : (done + block.count) * width ≤ output.length) (hstart : block.start = done) :
    Bytes.overlay (progress direction width input output run done) (done * width)
        (regroup direction width block.count
          (Bytes.slice input (done * width) (block.count * width))) =
      progress direction width input output (run ++ [block]) (done + block.count) := by
  have hfront : (regroupRun direction width input run).length = done * width :=
    length_regroupRun direction hrun
  have hfits : block.count * width ≤ (output.drop (done * width)).length := by
    rw [Nat.add_mul] at houtput
    rw [List.length_drop]
    omega
  rw [progress, Bytes.overlay_append hfront (by rwa [length_regroup]), length_regroup, List.drop_drop,
    ← Nat.add_mul, progress, regroupRun, regroupRun, List.flatMap_append, List.flatMap_singleton, hstart]

/-- One more block is regrouped without a fault. -/
theorem regroupAt_eq {run : List Block} (hwidth : 0 < width) (hrun : Tiles 0 run done)
    (hcount : 8 ∣ count) (hpos : 0 < count) (hwords : (done + count) * width ≤ maxSize)
    (hinput : (done + count) * width ≤ input.length)
    (houtput : (done + count) * width ≤ output.length) :
    regroupAt direction width done count input (progress direction width input output run done) =
      .ok (progress direction width input output (run ++ [⟨done, count⟩]) (done + count)) := by
  have hsum : (done + count) * width = done * width + count * width := Nat.add_mul ..
  have hnext : done + count ≤ (done + count) * width := Nat.le_mul_of_pos_right _ hwidth
  have hlength : (progress direction width input output run done).length = output.length :=
    length_progress hrun (by omega)
  have hsize : (done + count) * width - done * width = count * width := by omega
  have hblock := @Bytes.length_slice input (done * width) (count * width) (by omega)
  have hplace := @Bytes.length_slice (progress direction width input output run done) (done * width)
    (count * width) (by omega)
  rw [regroupAt, Word.mul_of_le (by omega), Word.ok_bind, Word.add_of_le (by omega), Word.ok_bind,
    Word.mul_of_le hwords, Word.ok_bind, Word.part_of_le (by omega) hinput, Word.ok_bind,
    Word.part_of_le (by omega) (by omega), Word.ok_bind, hsize,
    regroupInto_eq hwidth hcount hpos (by omega) hblock hplace, Word.ok_bind,
    ← overlay_progress hrun houtput rfl]
  rfl

/-! ## The loop over full blocks -/

theorem blockSizeInWords_eq (width : Nat) : blockSizeInWords width = .ok (blockSize width) := by
  have hrounded : 8192 / max width 1 / 8 * 8 ≤ maxSize := by
    have : 8192 / max width 1 ≤ 8192 := Nat.div_le_self ..
    rw [maxSize]
    omega
  rw [blockSizeInWords, Word.div_of_pos (by omega), Word.ok_bind, Word.mul_of_le hrounded, Word.ok_bind,
    blockSize, Nat.max_comm]
  rfl

theorem blockSize_pos (width : Nat) : 0 < blockSize width := by
  rw [blockSize]
  omega

/-- The first `n` of the full blocks. -/
def fullBlocks (size n : Nat) : List Block := (List.range n).map fun i => ⟨i * size, size⟩

theorem fullBlocks_succ (size n : Nat) :
    fullBlocks size (n + 1) = fullBlocks size n ++ [⟨n * size, size⟩] := by
  rw [fullBlocks, List.range_succ, List.map_append]
  rfl

/-- The loop from where `i` full blocks are done and `left` are still to do: each turn does one of them,
and one more turn finds none. The induction is on those to do. -/
theorem regroupFull_eq {size : Nat} (hwidth : 0 < width) (hsize : 0 < size) (h8 : 8 ∣ size)
    (hwords : count * width ≤ maxSize) (hinput : count * width ≤ input.length)
    (houtput : count * width ≤ output.length) {i left : Nat} (extra : Nat)
    (hcount : i + left = count / size) :
    regroupFull direction width size count input (left + 1 + extra) (i * size)
        (progress direction width input output (fullBlocks size i) (i * size)) =
      .ok (count / size * size,
        progress direction width input output (fullBlocks size (count / size))
          (count / size * size)) := by
  have hall : count = count / size * size + count % size := (Nat.div_add_mod' count size).symm
  have hlast := Nat.mod_lt count hsize
  induction left generalizing i with
  | zero =>
    obtain rfl : i = count / size := hcount
    rw [Nat.add_right_comm, regroupFull, Word.sub_of_le (by omega), Word.ok_bind, if_neg (by omega)]
    rfl
  | succ left ih =>
    have hdone : (i + 1 + left) * size = count / size * size := by
      rw [← hcount, Nat.add_right_comm, Nat.add_assoc]
    have hnext : (i + 1) * size = i * size + size := Nat.succ_mul ..
    rw [Nat.add_mul, hnext] at hdone
    have hfits : (i * size + size) * width ≤ count * width := Nat.mul_le_mul_right width (by omega)
    have hword : i * size + size ≤ (i * size + size) * width := Nat.le_mul_of_pos_right _ hwidth
    have htiles : Tiles 0 (fullBlocks size i) (i * size) := tiles_full h8 i
    rw [Nat.add_right_comm, regroupFull, Word.sub_of_le (by omega), Word.ok_bind, if_pos (by omega),
      regroupAt_eq hwidth htiles h8 hsize (by omega) (by omega) (by omega), Word.ok_bind,
      Word.add_of_le (by omega), Word.ok_bind, ← fullBlocks_succ, ← hnext]
    exact ih (by omega)

/-! ## The whole -/

theorem blocks_eq (width count : Nat) :
    blocks width count = fullBlocks (blockSize width) (count / blockSize width) ++
      if count % blockSize width / 8 * 8 = 0 then []
      else [⟨count / blockSize width * blockSize width, count % blockSize width / 8 * 8⟩] :=
  rfl

section

variable (hwidth : 0 < width) (hwords : count * width ≤ maxSize)
variable (hinput : count * width ≤ input.length) (houtput : count * width ≤ output.length)
include hwidth hwords hinput houtput

/-- What is left over is one more block, unless there are fewer than eight elements. -/
theorem regroupLast_eq :
    regroupLast direction width count input (count / blockSize width * blockSize width)
        (progress direction width input output
          (fullBlocks (blockSize width) (count / blockSize width))
          (count / blockSize width * blockSize width)) =
      .ok (blockedCount count,
        progress direction width input output (blocks width count) (blockedCount count)) := by
  have h8 := eight_dvd_blockSize width
  have hall := Nat.div_add_mod' count (blockSize width)
  have htiles : Tiles 0 (fullBlocks (blockSize width) (count / blockSize width))
      (count / blockSize width * blockSize width) := tiles_full h8 _
  have hremaining : count - count / blockSize width * blockSize width = count % blockSize width := by
    omega
  have hlast : count % blockSize width - count % blockSize width % 8 =
      count % blockSize width / 8 * 8 := by
    omega
  have hblocked := blockedCount_eq h8 count
  have hfits : blockedCount count * width ≤ count * width :=
    Nat.mul_le_mul_right width (blockedCount_le count)
  have hword : blockedCount count ≤ blockedCount count * width := Nat.le_mul_of_pos_right _ hwidth
  rw [regroupLast, Word.sub_of_le (by omega), Word.ok_bind, hremaining, Word.sub_of_le (Nat.mod_le ..),
    Word.ok_bind, hlast, blocks_eq]
  rw [hblocked] at hfits hword ⊢
  by_cases hzero : count % blockSize width / 8 * 8 = 0
  · rw [if_neg (by omega), if_pos hzero, hzero, Nat.add_zero, List.append_nil]
    rfl
  · rw [if_pos (by omega), if_neg hzero,
      regroupAt_eq hwidth htiles (Nat.dvd_mul_left 8 _) (by omega) (by omega) (by omega) (by omega),
      Word.ok_bind, Word.add_of_le (by omega), Word.ok_bind]
    rfl

omit hwidth in
theorem copyTail_eq :
    copyTail width count input (blockedCount count)
        (progress direction width input output (blocks width count) (blockedCount count)) =
      .ok (transform direction width count input ++ output.drop (count * width)) := by
  have hfits : blockedCount count * width ≤ count * width :=
    Nat.mul_le_mul_right width (blockedCount_le count)
  have hlength := @length_progress direction width (blockedCount count) input output _
    (tiles_blocks width count) (by omega)
  have hfront := length_regroupRun_blocks direction width count input
  have htail : count * width - blockedCount count * width = (count - blockedCount count) * width :=
    (Nat.sub_mul ..).symm
  have hsource := @Bytes.length_slice input (blockedCount count * width)
    ((count - blockedCount count) * width) (by omega)
  have htarget := @Bytes.length_slice
    (progress direction width input output (blocks width count) (blockedCount count))
    (blockedCount count * width) ((count - blockedCount count) * width) (by omega)
  have hstop : blockedCount count * width + (count - blockedCount count) * width = count * width :=
    blocked_add_tail width count
  have hrest : (Bytes.slice input (blockedCount count * width)
      ((count - blockedCount count) * width)).length ≤
      (output.drop (blockedCount count * width)).length := by
    rw [hsource, List.length_drop]
    omega
  rw [copyTail, Word.mul_of_le (by omega), Word.ok_bind, Word.mul_of_le hwords, Word.ok_bind,
    Word.part_of_le hfits hinput, Word.ok_bind, Word.part_of_le hfits (by omega), Word.ok_bind, htail,
    if_pos (hsource.trans htarget.symm), progress, Bytes.overlay_append hfront hrest, hsource,
    List.drop_drop, hstop, transform_eq]
  rfl

theorem regroupAll_eq (extra : Nat) :
    regroupAll direction (count / blockSize width + 1 + extra) width count input output =
      .ok (count * width, transform direction width count input ++ output.drop (count * width)) := by
  have hstart : output = progress direction width input output (fullBlocks (blockSize width) 0)
      (0 * blockSize width) := by
    rw [progress, Nat.zero_mul, Nat.zero_mul]
    rfl
  have hloop := @regroupFull_eq direction width count input output (blockSize width) hwidth
    (blockSize_pos width) (eight_dvd_blockSize width) hwords hinput houtput 0
    (count / blockSize width) extra (Nat.zero_add _)
  rw [← hstart, Nat.zero_mul] at hloop
  rw [regroupAll, blockSizeInWords_eq, Word.ok_bind, hloop, Word.ok_bind]
  simp only
  rw [regroupLast_eq hwidth hwords hinput houtput, Word.ok_bind]
  simp only
  rw [copyTail_eq hwords hinput houtput, Word.ok_bind, Word.mul_of_le hwords]
  rfl

end

/-! ## Whole calls -/

/-- So many elements cannot be regrouped from one place to the other. -/
def Unfit (inputLength outputLength count width : Nat) : Prop :=
  width = 0 ∨ maxSize < count * width ∨ inputLength < count * width ∨ outputLength < count * width

theorem exists_checkedTotal_eq_error_iff {inputLength outputLength : Nat} :
    (∃ cause, checkedTotal inputLength outputLength count width = .error cause) ↔
      Unfit inputLength outputLength count width := by
  cases h : checkedTotal inputLength outputLength count width with
  | error cause =>
    simp only [Except.error.injEq, exists_eq', true_iff]
    apply Classical.byContradiction
    intro hfit
    simp only [Unfit, not_or, Nat.not_lt] at hfit
    obtain ⟨hwidth, hwords, hinput, houtput⟩ := hfit
    have hok := checkedTotal_eq_ok_iff.mpr ⟨Nat.pos_of_ne_zero hwidth, hwords, hinput, houtput, rfl⟩
    rw [h] at hok
    cases hok
  | ok total =>
    obtain ⟨hwidth, hwords, hinput, houtput, -⟩ := checkedTotal_eq_ok_iff.mp h
    simp only [reduceCtorEq, exists_false, Unfit, false_iff]
    omega

/-- What a caller is left with: the result, and the output afterwards. -/
def outcome (output : Bytes) : Except BadRequest (Nat × Bytes) → Except Failure Nat × Bytes
  | .error cause => (.error (.invalid cause), output)
  | .ok (total, after) => (.ok total, after)

/-- The loops do what collecting the bits of every byte does. -/
theorem applyInPlace_eq (direction : Direction) (input output : Bytes) (count width extra : Nat) :
    applyInPlace direction (count / blockSize width + 1 + extra) input output count width =
      .ok (outcome output (apply direction input output count width)) := by
  cases h : checkedTotal input.length output.length count width with
  | error cause =>
    rw [applyInPlace, apply, h]
    rfl
  | ok total =>
    obtain ⟨hwidth, hwords, hinput, houtput, -⟩ := checkedTotal_eq_ok_iff.mp h
    rw [applyInPlace, h]
    simp only
    rw [regroupAll_eq hwidth hwords hinput houtput, apply_eq_ok direction hwidth hwords hinput houtput]
    rfl

/-- **Regrouping in place has no fault.** For all arguments and both directions, every number that the
loops come by is a word, every place that they reach for is inside, and the loop over full blocks ends
after as many turns as there are such blocks. The call fails, for a reason that lies in its arguments and
with the output as it was, just where the elements have no width, are more bytes than a word can count,
or are more than one of the two byte strings. Otherwise it tells how many bytes the elements are, and
what the output holds behind these stays. Either way it does what `apply` does. -/
theorem applyInPlace_without_fault (direction : Direction) (input output : Bytes)
    (count width extra : Nat) :
    ∃ result after,
      applyInPlace direction (count / blockSize width + 1 + extra) input output count width =
        .ok (result, after) ∧
      outcome output (apply direction input output count width) = (result, after) ∧
      ((∃ cause, result = .error (.invalid cause)) ∧ after = output ↔
        Unfit input.length output.length count width) ∧
      (¬ Unfit input.length output.length count width →
        result = .ok (count * width) ∧ after.length = output.length ∧
          after.drop (count * width) = output.drop (count * width)) := by
  refine ⟨_, _, applyInPlace_eq direction input output count width extra, rfl, ?_⟩
  rw [← exists_checkedTotal_eq_error_iff]
  cases h : checkedTotal input.length output.length count width with
  | error cause =>
    have hfails : apply direction input output count width = .error cause := by
      rw [apply, h]
      rfl
    rw [hfails]
    constructor
    · exact iff_of_true ⟨⟨cause, rfl⟩, rfl⟩ ⟨cause, rfl⟩
    · intro hfit
      exact absurd ⟨cause, rfl⟩ hfit
  | ok total =>
    obtain ⟨hwidth, hwords, hinput, houtput, -⟩ := checkedTotal_eq_ok_iff.mp h
    have hlength := length_transform direction hinput
    rw [apply_eq_ok direction hwidth hwords hinput houtput]
    refine ⟨iff_of_false ?_ ?_, fun _ => ⟨rfl, ?_, ?_⟩⟩
    · rintro ⟨⟨cause, hcause⟩, -⟩
      cases hcause
    · rintro ⟨cause, hcause⟩
      cases hcause
    · change (transform direction width count input ++ output.drop (count * width)).length = _
      rw [List.length_append, hlength, List.length_drop]
      omega
    · exact List.drop_left' hlength

end BufferBridge.BitShuffle
