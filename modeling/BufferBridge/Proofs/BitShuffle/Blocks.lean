import BufferBridge.BitShuffle

/-!
# The blocks that elements are cut into

The blocks follow one another without a gap from the first element on, each holds a multiple of eight
elements, and together they hold all but the last `count % 8`. Nothing else about the size of a block
matters to what the blocks are good for.
-/
namespace BufferBridge.BitShuffle

/-! ## Tilings -/

/-- The blocks cover the elements from `start` up to `stop`, in order and eight at a time. -/
def Tiles : (start : Nat) → List Block → (stop : Nat) → Prop
  | start, [], stop => start = stop
  | start, block :: rest, stop =>
    block.start = start ∧ 8 ∣ block.count ∧ Tiles (start + block.count) rest stop

theorem Tiles.le {start stop : Nat} {run : List Block} (h : Tiles start run stop) :
    start ≤ stop := by
  induction run generalizing start with
  | nil => exact Nat.le_of_eq h
  | cons block rest ih =>
    obtain ⟨-, -, hrest⟩ := h
    have := ih hrest
    omega

theorem Tiles.append {start middle stop : Nat} {front back : List Block}
    (hfront : Tiles start front middle) (hback : Tiles middle back stop) :
    Tiles start (front ++ back) stop := by
  induction front generalizing start with
  | nil =>
    cases hfront
    exact hback
  | cons block rest ih =>
    obtain ⟨hstart, hcount, hrest⟩ := hfront
    exact ⟨hstart, hcount, ih hrest⟩

theorem tiles_singleton {start count : Nat} (h : 8 ∣ count) :
    Tiles start [⟨start, count⟩] (start + count) :=
  ⟨rfl, h, rfl⟩

theorem tiles_full {size : Nat} (h : 8 ∣ size) (n : Nat) :
    Tiles 0 ((List.range n).map fun i => ⟨i * size, size⟩) (n * size) := by
  induction n with
  | zero => exact (Nat.zero_mul size).symm
  | succ n ih =>
    rw [List.range_succ, List.map_append, Nat.succ_mul]
    exact ih.append (tiles_singleton h)

/-! ## The blocks of a count of elements -/

theorem eight_dvd_blockSize (width : Nat) : 8 ∣ blockSize width := by
  rw [blockSize]
  omega

/-- Elements in blocks are those of the full blocks and of the shorter one. -/
theorem blockedCount_eq {size : Nat} (h : 8 ∣ size) (count : Nat) :
    blockedCount count = count / size * size + count % size / 8 * 8 := by
  obtain ⟨eighth, rfl⟩ := h
  have hcount : count = 8 * (eighth * (count / (8 * eighth))) + count % (8 * eighth) := by
    rw [← Nat.mul_assoc, Nat.div_add_mod]
  have heighths : count / 8 = eighth * (count / (8 * eighth)) + count % (8 * eighth) / 8 := by
    conv => lhs; rw [hcount]
    exact Nat.mul_add_div (by decide) ..
  rw [blockedCount, heighths, Nat.add_mul, Nat.mul_comm (count / _), Nat.mul_assoc 8,
    Nat.mul_comm 8 (eighth * _)]

theorem tiles_blocks (width count : Nat) : Tiles 0 (blocks width count) (blockedCount count) := by
  have hsize := eight_dvd_blockSize width
  rw [blockedCount_eq hsize count]
  apply Tiles.append (tiles_full hsize _)
  by_cases hlast : count % blockSize width / 8 * 8 = 0
  · rw [if_pos hlast, hlast]
    rfl
  · rw [if_neg hlast]
    exact tiles_singleton (Nat.dvd_mul_left 8 _)

theorem blockedCount_le (count : Nat) : blockedCount count ≤ count :=
  Nat.div_mul_le_self count 8

end BufferBridge.BitShuffle
