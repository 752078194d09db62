import BufferBridge.BitShuffle

/-!
# Transposing the bits of one block

A block of `count` elements of `width` bytes is a table of bits with one row for each element.
Shuffling turns its columns into rows, each of `count / 8` bytes, and unshuffling turns them back.
Both are one transposition, with the two row lengths exchanged, so that they undo each other.
-/
namespace BufferBridge.BitShuffle

/-! ## The bits of a byte -/

theorem testBit_two_mul_add (high : Nat) (bit : Bool) (k : Nat) :
    (2 * high + bit.toNat).testBit k = if k = 0 then bit else high.testBit (k - 1) := by
  cases k with
  | zero =>
    rw [Nat.testBit_zero, Nat.mul_add_mod, if_pos rfl]
    cases bit <;> rfl
  | succ k =>
    rw [Nat.testBit_succ, Nat.mul_add_div (by decide), Nat.div_eq_of_lt bit.toNat_lt, Nat.add_zero]
    rfl

theorem testBit_gather (bit : Nat → Bool) (width high k : Nat) :
    (gather bit width high).testBit k = if k < width then bit k else high.testBit (k - width) := by
  induction width generalizing high with
  | zero => rfl
  | succ width ih =>
    rw [gather, ih, testBit_two_mul_add]
    rcases Nat.lt_trichotomy k width with hk | rfl | hk
    · rw [if_pos hk, if_pos (by omega)]
    · rw [if_neg (Nat.lt_irrefl k), Nat.sub_self, if_pos rfl, if_pos (Nat.lt_succ_self k)]
    · rw [if_neg (by omega), if_neg (by omega), if_neg (by omega), Nat.sub_sub]

theorem bitOf_byteOf (bit : Nat → Bool) {k : Nat} (h : k < 8) : bitOf (byteOf bit) k = bit k := by
  rw [bitOf, byteOf, UInt8.toNat_ofNat', Nat.testBit_mod_two_pow, testBit_gather, if_pos h]
  simp [h]

theorem bitOf_of_le (byte : UInt8) {k : Nat} (h : 8 ≤ k) : bitOf byte k = false := by
  apply Nat.testBit_lt_two_pow
  exact Nat.lt_of_lt_of_le byte.toNat_lt (Nat.pow_le_pow_right (by decide) h)

theorem eq_of_bitOf {first second : UInt8} (h : ∀ k, k < 8 → bitOf first k = bitOf second k) :
    first = second := by
  apply UInt8.toNat_inj.mp
  apply Nat.eq_of_testBit_eq
  intro k
  change bitOf first k = bitOf second k
  by_cases hk : k < 8
  · exact h k hk
  · rw [bitOf_of_le first (by omega), bitOf_of_le second (by omega)]

theorem bitOf_zero (k : Nat) : bitOf 0 k = false :=
  Nat.zero_testBit k

/-- Bit `k` of the byte at `position`. -/
def bitAt (bytes : Bytes) (position k : Nat) : Bool := bitOf (bytes.getD position 0) k

theorem bitAt_of_lt {bytes : Bytes} {position : Nat} (h : position < bytes.length) (k : Nat) :
    bitAt bytes position k = bitOf bytes[position] k := by
  rw [bitAt, List.getD_eq_getElem?_getD, List.getElem?_eq_getElem h, Option.getD_some]

/-- Byte strings of one length are told apart by a bit. -/
theorem eq_of_bitAt {first second : Bytes} (hlength : first.length = second.length)
    (h : ∀ position k, position < first.length → k < 8 →
      bitAt first position k = bitAt second position k) : first = second := by
  apply List.ext_getElem hlength
  intro position hfirst hsecond
  apply eq_of_bitOf
  intro k hk
  rw [← bitAt_of_lt hfirst, ← bitAt_of_lt hsecond]
  exact h position k hfirst hk

/-! ## The transposition -/

/-- Byte `p` of the transposed table of bits, for a table of `8 * depth` rows of `width` bytes. -/
def transposedByte (table : Array UInt8) (width depth p : Nat) : UInt8 :=
  byteOf fun i =>
    bitOf (table.getD ((8 * (p % depth) + i) * width + p / depth / 8) 0) (p / depth % 8)

/-- A table of `8 * depth` rows of `width` bytes, transposed to `8 * width` rows of `depth` bytes. -/
def transpose (width depth : Nat) (table : Bytes) : Bytes :=
  (List.range (8 * (width * depth))).map (transposedByte table.toArray width depth)

@[simp] theorem length_transpose (width depth : Nat) (table : Bytes) :
    (transpose width depth table).length = 8 * (width * depth) := by
  simp [transpose]

theorem getElem_transpose (width depth : Nat) (table : Bytes) {p : Nat}
    (h : p < (transpose width depth table).length) :
    (transpose width depth table)[p] = transposedByte table.toArray width depth p := by
  simp [transpose]

theorem row_div {depth column : Nat} (h : column < depth) (row : Nat) :
    (row * depth + column) / depth = row := by
  rw [Nat.mul_comm, Nat.mul_add_div (Nat.zero_lt_of_lt h), Nat.div_eq_of_lt h, Nat.add_zero]

theorem row_mod {depth column : Nat} (h : column < depth) (row : Nat) :
    (row * depth + column) % depth = column := by
  rw [Nat.mul_comm, Nat.mul_add_mod, Nat.mod_eq_of_lt h]

theorem row_lt {depth rows row column : Nat} (hrow : row < rows) (hcolumn : column < depth) :
    row * depth + column < rows * depth :=
  calc row * depth + column < row * depth + depth := Nat.add_lt_add_left hcolumn _
    _ = (row + 1) * depth := (Nat.succ_mul row depth).symm
    _ ≤ rows * depth := Nat.mul_le_mul_right depth hrow

/-! ## Where a bit goes -/

section

variable {width depth row column k : Nat}

theorem place_lt (hrow : row < 8 * depth) (hcolumn : column < width) (hk : k < 8) :
    (8 * column + k) * depth + row / 8 < 8 * (width * depth) := by
  rw [← Nat.mul_assoc]
  exact row_lt (by omega) (Nat.div_lt_of_lt_mul hrow)

/-- The place of a bit in the transposed table: byte `(8 * column + k) * depth + row / 8` there, for bit
`k` of the byte in column `column` of row `row`. -/
theorem bitAt_transpose (table : Bytes) (hrow : row < 8 * depth) (hcolumn : column < width)
    (hk : k < 8) :
    bitAt (transpose width depth table) ((8 * column + k) * depth + row / 8) (row % 8) =
      bitAt table (row * width + column) k := by
  have hbyte : row / 8 < depth := Nat.div_lt_of_lt_mul hrow
  have hplace := place_lt hrow hcolumn hk
  rw [← length_transpose width depth table] at hplace
  rw [bitAt_of_lt hplace, getElem_transpose, transposedByte, bitOf_byteOf _ (Nat.mod_lt _ (by decide)),
    row_div hbyte, row_mod hbyte, Nat.div_add_mod, Nat.mul_add_div (by decide), Nat.mul_add_mod,
    Nat.div_eq_of_lt hk, Nat.mod_eq_of_lt hk, Nat.add_zero, bitAt, List.getD_eq_getElem?_getD,
    Array.getD_eq_getD_getElem?, List.getElem?_toArray]

/-- Every bit of the transposed table is the place of one. -/
theorem exists_place {position bit : Nat} (hposition : position < 8 * (width * depth))
    (hbit : bit < 8) :
    ∃ row column k, row < 8 * depth ∧ column < width ∧ k < 8 ∧
      position = (8 * column + k) * depth + row / 8 ∧ bit = row % 8 := by
  have hdepth : 0 < depth := by
    apply Nat.pos_of_ne_zero
    rintro rfl
    simp at hposition
  have hbyte := Nat.mod_lt position hdepth
  have hplane : position / depth < 8 * width := by
    apply Nat.div_lt_of_lt_mul
    rwa [Nat.mul_comm, Nat.mul_assoc]
  refine ⟨8 * (position % depth) + bit, position / depth / 8, position / depth % 8, by omega, by omega,
    by omega, ?_, by omega⟩
  rw [Nat.div_add_mod, show (8 * (position % depth) + bit) / 8 = position % depth by omega,
    Nat.mul_comm, Nat.div_add_mod]

/-- The place of a place is where the bit was. -/
theorem transpose_transpose {table : Bytes} (h : table.length = 8 * (width * depth)) :
    transpose depth width (transpose width depth table) = table := by
  have hlength : (transpose depth width (transpose width depth table)).length = table.length := by
    rw [length_transpose, h, Nat.mul_comm depth]
  apply eq_of_bitAt hlength
  intro position bit hposition hbit
  rw [length_transpose] at hposition
  obtain ⟨row, column, k, hrow, hcolumn, hk, rfl, rfl⟩ := exists_place hposition hbit
  have hback := @bitAt_transpose width depth (8 * column + k) (row / 8) (row % 8) table (by omega)
    (by omega) (by omega)
  rw [Nat.div_add_mod, Nat.mul_add_div (by decide), Nat.mul_add_mod, Nat.div_eq_of_lt hk,
    Nat.mod_eq_of_lt hk, Nat.add_zero] at hback
  rw [bitAt_transpose _ hrow hcolumn hk, hback]

end

/-! ## One block, regrouped -/

theorem regroup_shuffle {count : Nat} (width : Nat) (block : Bytes) (h : 8 ∣ count) :
    regroup .shuffle width count block = transpose width (count / 8) block := by
  have hlength : count * width = 8 * (width * (count / 8)) := by
    rw [Nat.mul_left_comm, Nat.mul_div_cancel' h, Nat.mul_comm]
  rw [regroup, transpose, hlength]
  rfl

theorem regroup_unshuffle {count : Nat} (width : Nat) (block : Bytes) (h : 8 ∣ count) :
    regroup .unshuffle width count block = transpose (count / 8) width block := by
  have hlength : count * width = 8 * (count / 8 * width) := by
    rw [← Nat.mul_assoc, Nat.mul_div_cancel' h]
  rw [regroup, transpose, hlength]
  rfl

@[simp] theorem length_regroup (direction : Direction) (width count : Nat) (block : Bytes) :
    (regroup direction width count block).length = count * width := by
  cases direction <;> simp [regroup]

/-- The other way. -/
def Direction.reverse : Direction → Direction
  | .shuffle => .unshuffle
  | .unshuffle => .shuffle

theorem regroup_reverse_regroup {width count : Nat} {block : Bytes} (direction : Direction)
    (hcount : 8 ∣ count) (hblock : block.length = count * width) :
    regroup direction.reverse width count (regroup direction width count block) = block := by
  have hrows : count * width = 8 * (count / 8 * width) := by
    rw [← Nat.mul_assoc, Nat.mul_div_cancel' hcount]
  cases direction with
  | shuffle =>
    rw [Direction.reverse, regroup_shuffle width block hcount, regroup_unshuffle _ _ hcount]
    apply transpose_transpose
    rw [hblock, hrows, Nat.mul_comm width]
  | unshuffle =>
    rw [Direction.reverse, regroup_unshuffle width block hcount, regroup_shuffle _ _ hcount]
    apply transpose_transpose
    rw [hblock, hrows]

end BufferBridge.BitShuffle
