import BufferBridge.Proofs.BitShuffle.InPlace

/-!
# Where shuffled bits stand

Inside a block of `m` elements the bits of one place in an element stand side by side, in a plane of
`m / 8` bytes; the planes follow one another as the places do. This says of every bit of the output what
it is, so nothing is left open that another reader of the layout would have to know.
-/
namespace BufferBridge.BitShuffle

variable {direction : Direction} {width count : Nat} {input output : Bytes}

/-! ## One block of many -/

theorem Tiles.of_mem {start stop : Nat} {run : List Block} {block : Block} (h : Tiles start run stop)
    (hblock : block ∈ run) : 8 ∣ block.count ∧ block.start + block.count ≤ stop := by
  induction run generalizing start with
  | nil => cases hblock
  | cons first rest ih =>
    obtain ⟨rfl, hcount, hrest⟩ := h
    cases hblock with
    | head => exact ⟨hcount, hrest.le⟩
    | tail _ hmem => exact ih hrest hmem

/-- What a run of blocks leaves at the place of one of them. The induction is on the run, with the blocks
before it as part of what stands in front. -/
theorem slice_regroupRun {start stop : Nat} {run : List Block} {block : Block} {front back : Bytes}
    (htiles : Tiles start run stop) (hfront : front.length = start * width) (hblock : block ∈ run) :
    Bytes.slice (front ++ regroupRun direction width input run ++ back) (block.start * width)
        (block.count * width) =
      regroup direction width block.count
        (Bytes.slice input (block.start * width) (block.count * width)) := by
  induction run generalizing start front with
  | nil => cases hblock
  | cons first rest ih =>
    obtain ⟨rfl, -, hrest⟩ := htiles
    rw [regroupRun_cons, ← List.append_assoc front]
    cases hblock with
    | head =>
      rw [List.append_assoc (front ++ _)]
      exact Bytes.slice_append_append hfront (length_regroup ..)
    | tail _ hmem =>
      apply ih hrest _ hmem
      rw [List.length_append, hfront, length_regroup, Nat.add_mul]

/-! ## Planes -/

/-- The bits of a block stand in planes: bit `k` of byte `j` of its element `i` is bit `i % 8` of byte
`i / 8` of plane `8 * j + k`, and every bit of the block is one of these. -/
structure InPlanes (width : Nat) (input output : Bytes) (block : Block) : Prop where
  bit : ∀ i j k, i < block.count → j < width → k < 8 →
    bitAt output (block.start * width + (8 * j + k) * (block.count / 8) + i / 8) (i % 8) =
      bitAt input ((block.start + i) * width + j) k
  every : ∀ position bit, block.start * width ≤ position →
    position < (block.start + block.count) * width → bit < 8 →
      ∃ i j k, i < block.count ∧ j < width ∧ k < 8 ∧
        position = block.start * width + (8 * j + k) * (block.count / 8) + i / 8 ∧ bit = i % 8

theorem inPlanes_of_slice {block : Block} (hcount : 8 ∣ block.count)
    (hslice : Bytes.slice output (block.start * width) (block.count * width) =
      regroup .shuffle width block.count
        (Bytes.slice input (block.start * width) (block.count * width))) :
    InPlanes width input output block := by
  obtain ⟨depth, hcount⟩ := hcount
  have hdepth : 8 * depth / 8 = depth := Nat.mul_div_cancel_left _ (by decide)
  have hsize : 8 * depth * width = 8 * (width * depth) := by rw [Nat.mul_assoc, Nat.mul_comm depth]
  rw [hcount, regroup_shuffle width _ (Nat.dvd_mul_right 8 depth), hdepth] at hslice
  refine ⟨fun i j k hi hj hk => ?_, fun position bit hstart hstop hbit => ?_⟩
  · rw [hcount] at hi
    have hplace := place_lt hi hj hk
    rw [← hsize] at hplace
    have hbyte : i * width + j < 8 * depth * width := row_lt hi hj
    rw [hcount, hdepth, Nat.add_assoc, ← bitAt_slice hplace, hslice,
      bitAt_transpose _ hi hj hk, bitAt_slice hbyte, Nat.add_mul block.start, Nat.add_assoc]
  · rw [Nat.add_mul, hcount, hsize] at hstop
    obtain ⟨i, j, k, hi, hj, hk, hposition, hplace⟩ :=
      @exists_place width depth (position - block.start * width) bit (by omega) hbit
    refine ⟨i, j, k, hcount ▸ hi, hj, hk, ?_, hplace⟩
    rw [hcount, hdepth]
    omega

theorem inPlanes_of_count_eq_zero (start : Nat) : InPlanes width input output ⟨start, 0⟩ where
  bit i _ _ hi := absurd hi (Nat.not_lt_zero i)
  every _ _ hstart hstop := absurd hstop (Nat.not_lt.mpr hstart)

/-! ## The whole -/

theorem inPlanes_transform {block : Block} (hblock : block ∈ blocks width count) (rest : Bytes) :
    InPlanes width input (transform .shuffle width count input ++ rest) block := by
  have htiles := tiles_blocks width count
  apply inPlanes_of_slice (htiles.of_mem hblock).1
  have hslice := @slice_regroupRun .shuffle width input 0 _ _ block []
    (Bytes.slice input (blockedCount count * width) ((count - blockedCount count) * width) ++ rest)
    htiles (Nat.zero_mul width).symm hblock
  rwa [List.nil_append, ← List.append_assoc, ← transform_eq] at hslice

/-- **The layout of shuffled elements.** The elements are cut into as many full blocks as there are, one
block of what is left, rounded down to a multiple of eight, and fewer than eight elements more. The bits
of each block stand in planes; the elements after the blocks are copied as they are, at their own place. -/
theorem shuffle_inPlanes (hwidth : 0 < width) (hwords : count * width ≤ maxSize)
    (hinput : count * width ≤ input.length) (houtput : count * width ≤ output.length) :
    ∃ after done,
      apply .shuffle input output count width = .ok (count * width, after) ∧
      (∀ extra, applyInPlace .shuffle (count / blockSize width + 1 + extra) input output count width =
        .ok (.ok (count * width), after)) ∧
      (∀ n, n < count / blockSize width →
        InPlanes width input after ⟨n * blockSize width, blockSize width⟩) ∧
      InPlanes width input after
        ⟨count / blockSize width * blockSize width, count % blockSize width / 8 * 8⟩ ∧
      done = count / blockSize width * blockSize width + count % blockSize width / 8 * 8 ∧
      done ≤ count ∧ count < done + 8 ∧
      Bytes.slice after (done * width) ((count - done) * width) =
        Bytes.slice input (done * width) ((count - done) * width) := by
  have hrun := apply_eq_ok .shuffle hwidth hwords hinput houtput
  have hblocks := blocks_eq width count
  refine ⟨_, blockedCount count, hrun, fun extra => ?_, fun n hn => ?_, ?_,
    blockedCount_eq (eight_dvd_blockSize width) count, blockedCount_le count, ?_, ?_⟩
  · rw [applyInPlace_eq, hrun]
    rfl
  · apply inPlanes_transform
    rw [hblocks]
    exact List.mem_append_left _ (List.mem_map.mpr ⟨n, List.mem_range.mpr hn, rfl⟩)
  · by_cases hlast : count % blockSize width / 8 * 8 = 0
    · rw [hlast]
      exact inPlanes_of_count_eq_zero _
    · apply inPlanes_transform
      rw [hblocks, if_neg hlast]
      exact List.mem_append_right _ (List.mem_singleton.mpr rfl)
  · rw [blockedCount]
    omega
  · have htail := blocked_add_tail width count
    rw [transform_eq]
    exact Bytes.slice_append_append (length_regroupRun_blocks .shuffle width count input)
      (Bytes.length_slice (by omega))

/-- A full block of 128 elements, one of eight, and three elements more. -/
theorem shuffle_inPlanes_wide :
    ∃ after done,
      apply .shuffle (List.replicate 14000 7) (List.replicate 13900 0) 139 100 = .ok (13900, after) ∧
      (∀ extra, applyInPlace .shuffle (1 + 1 + extra) (List.replicate 14000 7)
        (List.replicate 13900 0) 139 100 = .ok (.ok 13900, after)) ∧
      (∀ n, n < 1 → InPlanes 100 (List.replicate 14000 7) after ⟨n * 128, 128⟩) ∧
      InPlanes 100 (List.replicate 14000 7) after ⟨128, 8⟩ ∧
      done = 136 ∧ done ≤ 139 ∧ 139 < done + 8 ∧
      Bytes.slice after (done * 100) ((139 - done) * 100) =
        Bytes.slice (List.replicate 14000 7) (done * 100) ((139 - done) * 100) :=
  shuffle_inPlanes (by decide) (by decide)
    (Nat.le_trans (by decide) (Nat.le_of_eq List.length_replicate.symm))
    (Nat.le_of_eq List.length_replicate.symm)

end BufferBridge.BitShuffle
