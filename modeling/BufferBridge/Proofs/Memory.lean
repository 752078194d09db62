import BufferBridge.Memory
import BufferBridge.Proofs.Bytes

/-!
# Regions and what a write leaves alone

A write changes addresses of its region only, and two regions that do not overlap have no address in
common.
-/
namespace BufferBridge

namespace Region

theorem covers_part {region : Region} {offset length block position : Nat} :
    (region.part offset length).Covers block position ↔
      block = region.block ∧ region.start + offset ≤ position ∧
        position < region.start + offset + length :=
  .rfl

/-- Regions overlap just where they have an address in common. -/
theorem overlaps_eq_true_iff {first second : Region} :
    first.overlaps second = true ↔
      ∃ block position, first.Covers block position ∧ second.Covers block position := by
  simp only [overlaps, Covers, Bool.and_eq_true, beq_iff_eq, decide_eq_true_eq]
  constructor
  · intro h
    obtain ⟨⟨⟨⟨hblock, hfirst⟩, hsecond⟩, h⟩, h'⟩ := h
    refine ⟨first.block, max first.start second.start, ⟨rfl, ?_⟩, hblock, ?_⟩ <;> omega
  · intro h
    obtain ⟨block, position, ⟨rfl, hfirst⟩, hblock, hsecond⟩ := h
    refine ⟨⟨⟨⟨hblock, ?_⟩, ?_⟩, ?_⟩, ?_⟩ <;> omega

end Region

namespace Memory

variable (memory : Memory) (region : Region) (data : Bytes)

theorem block_write_of_ne {block : Nat} (h : block ≠ region.block) :
    (memory.write region data).block block = memory.block block := by
  simp only [Memory.block, write, List.getD_eq_getElem?_getD, List.getElem?_modify,
    if_neg (Ne.symm h), Option.map_eq_map, Option.map_id']

theorem block_write_self :
    (memory.write region data).block region.block =
      Bytes.overlay (memory.block region.block) region.start (data.take region.length) := by
  simp only [Memory.block, write, List.getD_eq_getElem?_getD, List.getElem?_modify]
  cases memory.blocks[region.block]? with
  | none => exact (List.eq_nil_of_length_eq_zero (Bytes.length_overlay ..)).symm
  | some bytes => simp

/-- A write touches no address that it has no byte for. -/
theorem byteAt?_write_of_not_written {block position : Nat}
    (h : ¬ (region.Covers block position ∧ position < region.start + data.length)) :
    (memory.write region data).byteAt? block position = memory.byteAt? block position := by
  rw [byteAt?, byteAt?]
  by_cases hblock : block = region.block
  · subst hblock
    rw [block_write_self]
    apply Bytes.getElem?_overlay_of_outside
    have hlength : (data.take region.length).length = min region.length data.length := List.length_take
    have houtside : ¬ ((region.start ≤ position ∧ position < region.start + region.length) ∧
        position < region.start + data.length) := fun hin => h ⟨⟨rfl, hin.1⟩, hin.2⟩
    omega
  · rw [block_write_of_ne memory region data hblock]

/-- A write does not touch an address outside its region. -/
theorem byteAt?_write_of_not_covers {block position : Nat} (h : ¬ region.Covers block position) :
    (memory.write region data).byteAt? block position = memory.byteAt? block position :=
  byteAt?_write_of_not_written memory region data fun hwritten => h hwritten.1

/-- A write changes no size of a block. -/
theorem length_block_write (block : Nat) :
    ((memory.write region data).block block).length = (memory.block block).length := by
  by_cases hblock : block = region.block
  · subst hblock
    rw [block_write_self, Bytes.length_overlay]
  · rw [block_write_of_ne memory region data hblock]

theorem byteAt?_write_of_covers {block position : Nat} (h : region.Covers block position)
    (hdata : position < region.start + data.length) :
    (memory.write region data).byteAt? block position =
      if position < (memory.block block).length then data[position - region.start]? else none := by
  obtain ⟨rfl, hstart, hstop⟩ := h
  have htaken : position < region.start + (data.take region.length).length := by
    rw [List.length_take]
    omega
  have hbyte : (data.take region.length)[position - region.start]? = data[position - region.start]? :=
    List.getElem?_take_of_lt (by omega)
  rw [byteAt?, block_write_self, Bytes.getElem?_overlay_of_inside hstart htaken, hbyte]

/-- A region reads the same in memories that hold the same bytes there. -/
theorem read_congr {memory other : Memory} {region : Region}
    (h : ∀ block position, region.Covers block position →
      other.byteAt? block position = memory.byteAt? block position) :
    other.read region = memory.read region := by
  apply List.ext_getElem?
  intro i
  rw [read, read, Bytes.getElem?_slice, Bytes.getElem?_slice]
  split
  · exact h _ _ ⟨rfl, by omega, by omega⟩
  · rfl

/-- A region of bytes that the memory has, and no more of them than a machine word counts. -/
structure Backs (memory : Memory) (region : Region) : Prop where
  stop_le : region.start + region.length ≤ (memory.block region.block).length
  length_le : region.length ≤ maxSize

variable {memory region data} in
theorem Backs.length_read {offset length : Nat} (h : memory.Backs region)
    (hwithin : offset + length ≤ region.length) :
    (memory.read (region.part offset length)).length = length := by
  have := h.stop_le
  apply Bytes.length_slice
  simp only [Region.part]
  omega

variable {memory region data} in
/-- What is written to the start of a part of a region is read back from there. -/
theorem Backs.read_write {offset room : Nat} (h : memory.Backs region)
    (hwithin : offset + room ≤ region.length) (hdata : data.length ≤ room) :
    (memory.write (region.part offset room) data).read (region.part offset data.length) = data := by
  have := h.stop_le
  have hblock := block_write_self memory (region.part offset room) data
  simp only [Region.part, List.take_of_length_le hdata] at hblock
  simp only [read, Region.part, hblock]
  exact Bytes.slice_overlay (by omega)

variable {memory region data} in
/-- What fills a part of a region is what stands there. -/
theorem Backs.read_write_part {offset length : Nat} (h : memory.Backs region)
    (hwithin : offset + length ≤ region.length) (hdata : data.length = length) :
    (memory.write (region.part offset length) data).read (region.part offset length) = data := by
  subst hdata
  exact h.read_write hwithin (Nat.le_refl _)

variable {memory region} in
theorem Backs.write {target : Region} (h : memory.Backs region) :
    (memory.write target data).Backs region := by
  refine ⟨?_, h.length_le⟩
  rw [length_block_write]
  exact h.stop_le

/-- Two memories have the same bytes, other than at the addresses where they may differ. -/
def SameBut (may : Nat → Nat → Prop) (before after : Memory) : Prop :=
  ∀ block position, ¬ may block position →
    after.byteAt? block position = before.byteAt? block position

variable {memory region}
variable {may may' : Nat → Nat → Prop}

theorem SameBut.refl (memory : Memory) : SameBut may memory memory :=
  fun _ _ _ => rfl

theorem SameBut.mono {after : Memory} (h : SameBut may memory after)
    (hmay : ∀ block position, may block position → may' block position) :
    SameBut may' memory after :=
  fun block position hnot => h block position fun hin => hnot (hmay block position hin)

theorem SameBut.trans {middle after : Memory} (h : SameBut may memory middle)
    (hnext : SameBut may middle after) : SameBut may memory after :=
  fun block position hnot => (hnext block position hnot).trans (h block position hnot)

theorem SameBut.write (h : ∀ block position, region.Covers block position → may block position) :
    SameBut may memory (memory.write region data) := by
  intro block position hnot
  exact byteAt?_write_of_not_covers memory region data fun hcovers => hnot (h _ _ hcovers)

/-- From one memory to the next, a region has received data and nothing else has changed. -/
structure Received (before : Memory) (region : Region) (data : Bytes) (after : Memory) : Prop where
  read_eq : after.read region = data
  same : SameBut region.Covers before after

theorem Backs.received_write {data : Bytes} {offset : Nat} (h : memory.Backs region)
    (hwithin : offset + data.length ≤ region.length) :
    memory.Received (region.part offset data.length) data
      (memory.write (region.part offset data.length) data) :=
  ⟨h.read_write hwithin (Nat.le_refl _), .write data fun _ _ => id⟩

/-- The bytes of a region are there, or it has none, wherever it is. -/
structure Shows (memory : Memory) (region : Region) : Prop where
  stop_le : region.length = 0 ∨ region.start + region.length ≤ (memory.block region.block).length
  length_le : region.length ≤ maxSize

theorem Backs.shows (h : memory.Backs region) : memory.Shows region := ⟨.inr h.stop_le, h.length_le⟩

theorem Shows.backs (h : memory.Shows region) (hlength : region.length ≠ 0) : memory.Backs region :=
  ⟨h.stop_le.resolve_left hlength, h.length_le⟩

theorem Shows.length_read {offset length : Nat} (h : memory.Shows region)
    (hwithin : offset + length ≤ region.length) :
    (memory.read (region.part offset length)).length = length := by
  by_cases hempty : region.length = 0
  · obtain rfl : length = 0 := by omega
    rw [read, Region.part, Bytes.slice, List.take_zero, List.length_nil]
  · exact (h.backs hempty).length_read hwithin

/-- What fills a part of a region is received there. -/
theorem Shows.received_write_part {data : Bytes} {offset length : Nat} (h : memory.Shows region)
    (hwithin : offset + length ≤ region.length) (hdata : data.length = length) :
    memory.Received (region.part offset length) data
      (memory.write (region.part offset length) data) := by
  refine ⟨?_, .write data fun _ _ => id⟩
  by_cases hempty : region.length = 0
  · obtain rfl : length = 0 := by omega
    rw [List.eq_nil_of_length_eq_zero hdata, read, Region.part, Bytes.slice, List.take_zero]
  · exact (h.backs hempty).read_write_part hwithin hdata

end Memory

end BufferBridge
