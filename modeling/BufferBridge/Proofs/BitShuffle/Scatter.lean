import BufferBridge.BitShuffle.InPlace
import BufferBridge.Proofs.Bytes
import BufferBridge.Proofs.BitShuffle.Transpose

/-!
# Sending the bits of a block is collecting them

The loops of a block send each set bit to its place in a cleared output. They run without a fault, since
every place lies inside the output, and since each place is that of one bit only, what they leave is the
transposed block.
-/
namespace BufferBridge.BitShuffle

open Word (Fault)

/-! ## Bits of byte strings -/

theorem bitAt_replicate_zero {length position : Nat} (h : position < length) (k : Nat) :
    bitAt (List.replicate length 0) position k = false := by
  rw [bitAt_of_lt (by rwa [List.length_replicate]), List.getElem_replicate, bitOf_zero]

theorem bitOf_or (first second : UInt8) (k : Nat) :
    bitOf (first ||| second) k = (bitOf first k || bitOf second k) := by
  rw [bitOf, UInt8.toNat_or, Nat.testBit_or]
  rfl

theorem bitOf_one_shiftLeft : ∀ bit < 8, ∀ k < 8,
    bitOf (1 <<< UInt8.ofNat bit) k = decide (k = bit) := by
  decide

theorem bitAt_slice {bytes : Bytes} {start length position : Nat} (h : position < length) (k : Nat) :
    bitAt (Bytes.slice bytes start length) position k = bitAt bytes (start + position) k := by
  rw [bitAt, bitAt, List.getD_eq_getElem?_getD, List.getD_eq_getElem?_getD, Bytes.getElem?_slice,
    if_pos h]

/-! ## Setting bits -/

/-- Given an output of `length` bytes, an operation runs without a fault; it sets the bits in `place`,
and leaves the others and the length as they are. -/
def Sets (length : Nat) (place : Nat → Nat → Prop) (op : Bytes → Except Fault Bytes) : Prop :=
  ∀ output, output.length = length → ∃ after, op output = .ok after ∧ after.length = length ∧
    ∀ position bit, position < length → bit < 8 →
      (bitAt after position bit = true ↔ bitAt output position bit = true ∨ place position bit)

namespace Sets

variable {length : Nat} {place : Nat → Nat → Prop} {op : Bytes → Except Fault Bytes}

theorem congr {place' : Nat → Nat → Prop} (h : Sets length place op)
    (hplace : ∀ position bit, place position bit ↔ place' position bit) : Sets length place' op := by
  intro output hlength
  obtain ⟨after, hrun, hafter, hbits⟩ := h output hlength
  refine ⟨after, hrun, hafter, fun position bit hposition hbit => ?_⟩
  rw [hbits position bit hposition hbit, hplace]

theorem nothing (h : ∀ position bit, ¬ place position bit) : Sets length place .ok := by
  intro output hlength
  refine ⟨output, rfl, hlength, fun position bit _ _ => ?_⟩
  simp only [h, or_false]

theorem setBit {position bit : Nat} (hposition : position < length) (hbit : bit < 8) :
    Sets length (fun p b => p = position ∧ b = bit) fun output => Word.setBit output position bit := by
  rintro output rfl
  refine ⟨output.set position (output[position] ||| 1 <<< UInt8.ofNat bit), ?_, List.length_set, ?_⟩
  · simp only [Word.setBit, dif_pos hposition, if_pos hbit]
  · intro p b hp hb
    rw [bitAt_of_lt (by rwa [List.length_set]), List.getElem_set]
    by_cases hsame : position = p
    · subst hsame
      rw [if_pos rfl, bitOf_or, bitOf_one_shiftLeft bit hbit b hb, bitAt_of_lt hp, Bool.or_eq_true,
        decide_eq_true_eq]
      simp only [true_and]
    · rw [if_neg hsame, bitAt_of_lt hp]
      simp only [Ne.symm hsame, false_and, or_false]

/-- The induction is on the items, of which each sets its own bits. -/
theorem forEach_from {α : Type} {step : Nat → α → Bytes → Except Fault Bytes}
    {places : Nat → α → Nat → Nat → Prop} {items : List α} {index : Nat}
    (hwords : index + items.length ≤ maxSize)
    (hstep : ∀ i item, items[i]? = some item → Sets length (places i item) (step (index + i) item)) :
    Sets length (fun p b => ∃ i item, items[i]? = some item ∧ places i item p b)
      (Word.forEach step index items) := by
  induction items generalizing index places with
  | nil =>
    apply nothing
    rintro p b ⟨i, item, hitem, -⟩
    rw [List.getElem?_nil] at hitem
    cases hitem
  | cons first rest ih =>
    rw [List.length_cons] at hwords
    have hrest : ∀ i item, rest[i]? = some item →
        Sets length (places (i + 1) item) (step (index + 1 + i) item) := by
      intro i item hitem
      have hsets := hstep (i + 1) item hitem
      rwa [show index + (i + 1) = index + 1 + i by omega] at hsets
    intro output hlength
    obtain ⟨middle, hfirst, hmiddle, hsets⟩ := hstep 0 first rfl output hlength
    obtain ⟨after, hrun, hafter, hbits⟩ := ih (by omega) hrest middle hmiddle
    refine ⟨after, ?_, hafter, fun p b hp hb => ?_⟩
    · rw [Word.forEach, Word.add_of_le (by omega), Word.ok_bind]
      rw [Nat.add_zero] at hfirst
      rw [hfirst, Word.ok_bind, hrun]
    · rw [hbits p b hp hb, hsets p b hp hb, or_assoc]
      apply or_congr_right
      constructor
      · rintro (h | ⟨i, item, hitem, h⟩)
        · exact ⟨0, first, rfl, h⟩
        · exact ⟨i + 1, item, hitem, h⟩
      · rintro ⟨i, item, hitem, h⟩
        cases i with
        | zero =>
          cases hitem
          exact .inl h
        | succ i => exact .inr ⟨i, item, hitem, h⟩

theorem forEach {α : Type} {step : Nat → α → Bytes → Except Fault Bytes}
    {places : Nat → α → Nat → Nat → Prop} {items : List α} (hwords : items.length ≤ maxSize)
    (hstep : ∀ i item, items[i]? = some item → Sets length (places i item) (step i item)) :
    Sets length (fun p b => ∃ i item, items[i]? = some item ∧ places i item p b)
      (Word.forEach step 0 items) := by
  apply forEach_from (by omega)
  intro i item hitem
  rw [Nat.zero_add]
  exact hstep i item hitem

end Sets

/-! ## The loops of a block -/

section

variable {width depth row column k : Nat}

/-- Bit `bit` of the byte at `position` is where bit `k` in some column of a row goes. -/
def IsPlace (depth row column k position bit : Nat) : Prop :=
  position = (8 * column + k) * depth + row / 8 ∧ bit = row % 8

theorem sets_scatterBit (hwords : 8 * (width * depth) ≤ maxSize) (hrow : row < 8 * depth)
    (hcolumn : column < width) (hk : k < 8) (isSet : Bool) :
    Sets (8 * (width * depth)) (fun p b => isSet = true ∧ IsPlace depth row column k p b)
      (scatterBit depth row column k isSet) := by
  cases isSet with
  | false => exact .nothing fun p b h => Bool.noConfusion h.1
  | true =>
    have hplace := place_lt hrow hcolumn hk
    have hplane : 8 * column + k ≤ (8 * column + k) * depth := Nat.le_mul_of_pos_right _ (by omega)
    have hrun : scatterBit depth row column k true = fun output =>
        Word.setBit output ((8 * column + k) * depth + row / 8) (row % 8) := by
      funext output
      rw [scatterBit, if_pos rfl, Word.mul_of_le (by omega), Word.ok_bind, Word.add_of_le (by omega),
        Word.ok_bind, Word.mul_of_le (by omega), Word.ok_bind, Word.add_of_le (by omega), Word.ok_bind]
    rw [hrun]
    exact (Sets.setBit hplace (Nat.mod_lt row (by decide))).congr fun p b => by
      simp only [IsPlace, true_and]

theorem length_bits (byte : UInt8) : (bits byte).length = 8 := by
  rw [bits, List.length_map, List.length_range]

theorem getElem?_map_range {α : Type} {f : Nat → α} {n i : Nat} {item : α} :
    ((List.range n).map f)[i]? = some item ↔ i < n ∧ f i = item := by
  rw [List.getElem?_map, Option.map_eq_some_iff]
  by_cases hi : i < n
  · simp only [List.getElem?_range hi, Option.some.injEq, exists_eq_left', hi, true_and]
  · simp [hi]

theorem getElem?_bits {byte : UInt8} {k : Nat} {isSet : Bool} :
    (bits byte)[k]? = some isSet ↔ k < 8 ∧ bitOf byte k = isSet :=
  getElem?_map_range

theorem sets_scatterByte (hwords : 8 * (width * depth) ≤ maxSize) (hrow : row < 8 * depth)
    (hcolumn : column < width) (byte : UInt8) :
    Sets (8 * (width * depth))
      (fun p b => ∃ k, k < 8 ∧ bitOf byte k = true ∧ IsPlace depth row column k p b)
      (scatterByte depth row column byte) := by
  by_cases hbyte : byte = 0
  · have hrun : scatterByte depth row column byte = .ok := by
      funext output
      rw [scatterByte, if_pos hbyte]
    rw [hrun]
    apply Sets.nothing
    rintro p b ⟨k, -, h, -⟩
    rw [hbyte, bitOf_zero] at h
    cases h
  · have hrun : scatterByte depth row column byte =
        Word.forEach (scatterBit depth row column) 0 (bits byte) := by
      funext output
      rw [scatterByte, if_neg hbyte]
    have hcount : (bits byte).length ≤ maxSize := by
      rw [length_bits]
      decide
    rw [hrun]
    refine (Sets.forEach hcount fun k isSet hk =>
      sets_scatterBit hwords hrow hcolumn (getElem?_bits.mp hk).1 isSet).congr fun p b => ?_
    constructor
    · rintro ⟨k, isSet, hk, rfl, hplace⟩
      exact ⟨k, (getElem?_bits.mp hk).1, (getElem?_bits.mp hk).2, hplace⟩
    · rintro ⟨k, hk, hbit, hplace⟩
      exact ⟨k, true, getElem?_bits.mpr ⟨hk, hbit⟩, rfl, hplace⟩

theorem sets_scatterRow {bytes : Bytes} (hwords : 8 * (width * depth) ≤ maxSize)
    (hrow : row < 8 * depth) (hbytes : bytes.length = width) :
    Sets (8 * (width * depth))
      (fun p b => ∃ column k, column < width ∧ k < 8 ∧ bitAt bytes column k = true ∧
        IsPlace depth row column k p b)
      (scatterRow depth row bytes) := by
  have hwidth : width ≤ width * depth := Nat.le_mul_of_pos_right _ (by omega)
  have hcolumn : ∀ {column byte}, bytes[column]? = some byte → column < width := by
    intro column byte h
    rw [← hbytes]
    exact (List.getElem?_eq_some_iff.mp h).1
  refine (Sets.forEach (by omega) fun column byte h =>
    sets_scatterByte hwords hrow (hcolumn h) byte).congr fun p b => ?_
  constructor
  · rintro ⟨column, byte, h, k, hk, hbit, hplace⟩
    obtain ⟨hlt, rfl⟩ := List.getElem?_eq_some_iff.mp h
    exact ⟨column, k, hcolumn h, hk, by rwa [bitAt_of_lt hlt], hplace⟩
  · rintro ⟨column, k, hlt, hk, hbit, hplace⟩
    rw [← hbytes] at hlt
    rw [bitAt_of_lt hlt] at hbit
    exact ⟨column, bytes[column], List.getElem?_eq_getElem hlt, k, hk, hbit, hplace⟩

theorem sets_scatterRows {table : Bytes} (hwords : 8 * (width * depth) ≤ maxSize) (hwidth : 0 < width)
    (htable : table.length = 8 * (width * depth)) :
    Sets (8 * (width * depth))
      (fun p b => ∃ row column k, row < 8 * depth ∧ column < width ∧ k < 8 ∧
        bitAt table (row * width + column) k = true ∧ IsPlace depth row column k p b)
      (Word.forEach (scatterRow depth) 0
        ((List.range (8 * depth)).map fun i => Bytes.slice table (i * width) width)) := by
  have hdepth : depth ≤ width * depth := Nat.le_mul_of_pos_left depth hwidth
  have hcount : ((List.range (8 * depth)).map
      fun i => Bytes.slice table (i * width) width).length ≤ maxSize := by
    rw [List.length_map, List.length_range]
    omega
  have hlength : ∀ {row : Nat} {bytes : Bytes}, ((List.range (8 * depth)).map
      fun i => Bytes.slice table (i * width) width)[row]? = some bytes → bytes.length = width := by
    intro row bytes h
    obtain ⟨hrow, rfl⟩ := getElem?_map_range.mp h
    apply Bytes.length_slice
    rw [htable, Nat.mul_left_comm, Nat.mul_comm width, ← Nat.succ_mul]
    exact Nat.mul_le_mul_right width hrow
  refine (Sets.forEach hcount fun row bytes h =>
    sets_scatterRow hwords (getElem?_map_range.mp h).1 (hlength h)).congr fun p b => ?_
  constructor
  · rintro ⟨row, bytes, h, column, k, hcolumn, hk, hbit, hplace⟩
    obtain ⟨hrow, rfl⟩ := getElem?_map_range.mp h
    rw [bitAt_slice hcolumn] at hbit
    exact ⟨row, column, k, hrow, hcolumn, hk, hbit, hplace⟩
  · rintro ⟨row, column, k, hrow, hcolumn, hk, hbit, hplace⟩
    rw [← bitAt_slice hcolumn] at hbit
    exact ⟨row, _, getElem?_map_range.mpr ⟨hrow, rfl⟩, column, k, hcolumn, hk, hbit, hplace⟩

/-- **A block of rows is transposed**, without a fault, whatever the output held. -/
theorem scatter_eq_transpose {table output : Bytes} (hwords : 8 * (width * depth) ≤ maxSize)
    (hwidth : 0 < width) (htable : table.length = 8 * (width * depth))
    (houtput : output.length = 8 * (width * depth)) :
    scatter width depth table output = .ok (transpose width depth table) := by
  have hcount : table.length / width = 8 * depth := by
    rw [htable, Nat.mul_left_comm, Nat.mul_div_cancel_left _ hwidth]
  obtain ⟨after, hrun, hlength, hbits⟩ := sets_scatterRows hwords hwidth htable
    (List.replicate output.length 0) (by rw [List.length_replicate, houtput])
  rw [scatter, Word.chunks_of_pos table hwidth, Word.ok_bind, hcount, hrun]
  refine congrArg _ (eq_of_bitAt (by rw [hlength, length_transpose]) fun p b hp hb => ?_)
  rw [hlength] at hp
  rw [Bool.eq_iff_iff, hbits p b hp hb, bitAt_replicate_zero (by rwa [houtput])]
  constructor
  · rintro (h | ⟨row, column, k, hrow, hcolumn, hk, hbit, rfl, rfl⟩)
    · cases h
    · rwa [bitAt_transpose table hrow hcolumn hk]
  · intro h
    obtain ⟨row, column, k, hrow, hcolumn, hk, rfl, rfl⟩ := exists_place hp hb
    rw [bitAt_transpose table hrow hcolumn hk] at h
    exact .inr ⟨row, column, k, hrow, hcolumn, hk, h, rfl, rfl⟩

end

end BufferBridge.BitShuffle
