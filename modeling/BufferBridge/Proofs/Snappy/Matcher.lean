import BufferBridge.Snappy.Encoder

/-!
# What the matcher suggests

The encoder compares the bytes of a candidate before it makes a copy of it. None fails the comparison:
four bytes that make the same word are the same, and every position in the table was set before the
search came to where it is. So the elements of a chunk are those of the search alone, each candidate
taken for what it is.
-/
namespace BufferBridge.Snappy

namespace Matcher

variable {block : Array UInt8} {table : Table} {position earlier : Nat}

/-! ## Words -/

/-- The bits of a word are those of its bytes. -/
theorem getLsbD_wordAt (block : Array UInt8) (position : Nat) {k i : Nat} (hk : k < 4) (hi : i < 8) :
    (wordAt block position).toBitVec.getLsbD (8 * k + i) =
      (byteAt block (position + k)).toBitVec.getLsbD i := by
  simp only [wordAt, UInt32.toBitVec_or, UInt32.toBitVec_shiftLeft, UInt8.toBitVec_toUInt32]
  rcases show k = 0 ∨ k = 1 ∨ k = 2 ∨ k = 3 from by omega with rfl | rfl | rfl | rfl <;> simp <;> grind

theorem byteAt_of_wordAt (h : wordAt block position = wordAt block earlier) {k : Nat} (hk : k < 4) :
    byteAt block (position + k) = byteAt block (earlier + k) := by
  apply UInt8.toBitVec_inj.mp
  apply BitVec.eq_of_getLsbD_eq
  intro i hi
  rw [← getLsbD_wordAt block position hk hi, h, getLsbD_wordAt block earlier hk hi]

/-- A match is at least as long as the bytes agree, inside the block. -/
theorem le_matchLength {n : Nat} (hroom : position + n ≤ block.size)
    (h : ∀ k < n, byteAt block (position + k) = byteAt block (earlier + k)) :
    n ≤ matchLength block position earlier := by
  induction n generalizing position earlier with
  | zero => exact Nat.zero_le _
  | succ n ih =>
    have hrest : n ≤ matchLength block (position + 1) (earlier + 1) := by
      refine ih (by omega) fun k hk => ?_
      have hnext := h (k + 1) (by omega)
      rwa [Nat.add_comm k, ← Nat.add_assoc, ← Nat.add_assoc] at hnext
    have hfirst : byteAt block position = byteAt block earlier := h 0 (Nat.succ_pos n)
    rw [matchLength, if_pos (by omega), if_pos hfirst]
    exact Nat.succ_le_succ hrest

/-! ## Tables -/

/-- Every position that a table knows lies before another one. -/
def Table.Before (table : Table) (position : Nat) : Prop := ∀ index, table.get index < position

theorem Table.before_new (length : Nat) : (Table.new length).Before 1 := by
  intro index
  simp only [new, get, Array.getD_eq_getD_getElem?, Array.getElem?_replicate]
  split <;> exact Nat.one_pos

theorem Table.Before.mono (h : table.Before position) {later : Nat} (hle : position ≤ later) :
    table.Before later :=
  fun index => Nat.lt_of_lt_of_le (h index) hle

theorem Table.Before.set (h : table.Before position) (hearlier : earlier < position) (index : Nat) :
    (table.set index earlier).Before position := by
  intro i
  have hold := h i
  simp only [get, Table.set, Array.getD_eq_getD_getElem?, Array.getElem?_setIfInBounds] at hold ⊢
  split
  · split
    · exact hearlier
    · exact Nat.lt_of_le_of_lt (Nat.zero_le _) hearlier
  · exact hold

/-! ## Candidates -/

/-- What is known of a candidate that is suggested where everything before `emitted` is dealt with. -/
structure Candidate.Sound (block : Array UInt8) (emitted : Nat) (found : Candidate) : Prop where
  emitted_le : emitted ≤ found.position
  earlier_lt : found.earlier < found.position
  four_le : 4 ≤ matchLength block found.position found.earlier
  table : found.table.Before (found.position + 1)

/-- Where a match may start, four bytes are left, so those of a word can all be compared. -/
theorem four_le_matchLength (hroom : position < searchLimit block)
    (h : wordAt block position = wordAt block earlier) : 4 ≤ matchLength block position earlier := by
  rw [searchLimit] at hroom
  exact le_matchLength (by omega) fun k hk => byteAt_of_wordAt h hk

/-- What a table that knows only earlier positions suggests for a position, if the words agree. -/
theorem sound_of_wordAt {index : Nat} (h : table.Before position) (hroom : position < searchLimit block)
    (hword : wordAt block position = wordAt block (table.get index)) :
    Candidate.Sound block position ⟨position, table.get index, table.set index position⟩ where
  emitted_le := Nat.le_refl _
  earlier_lt := h index
  four_le := four_le_matchLength hroom hword
  table := (h.mono (Nat.le_succ position)).set (Nat.lt_succ_self position) index

theorem Candidate.Sound.mono {found : Candidate} {emitted later : Nat} (h : found.Sound block later)
    (hle : emitted ≤ later) : found.Sound block emitted :=
  { h with emitted_le := Nat.le_trans hle h.emitted_le }

theorem search_sound {skipped index : Nat} {found : Candidate} (h : table.Before position)
    (hfound : search block position skipped index table = some found) :
    found.Sound block position := by
  fun_induction search block position skipped index table with
  | case1 => cases hfound
  | case2 position skipped index table step next hnext earlier later hword =>
    cases hfound
    exact sound_of_wordAt h (by omega) hword
  | case3 position skipped index table step next hnext earlier later hword ih =>
    have hstep : position < next := by omega
    have hlater : later.Before next := (h.mono (Nat.le_of_lt hstep)).set hstep index
    exact (ih hlater hfound).mono (Nat.le_of_lt hstep)

theorem first_sound {found : Candidate} (h : first block = some found) : found.Sound block 0 :=
  (search_sound (Table.before_new block.size) h).mono (Nat.zero_le 1)

/-- After a match the search goes on behind it, where the table knows nothing yet. -/
theorem next_sound {stop : Nat} {found : Candidate} (h : table.Before stop) (hpos : 0 < stop)
    (hfound : next block stop table = some found) : found.Sound block stop := by
  rw [next] at hfound
  split at hfound
  · cases hfound
  · rename_i hroom
    have hlast := h.set (Nat.sub_lt hpos Nat.one_pos) (table.index (wordAt block (stop - 1)))
    simp only at hfound
    split at hfound
    · rename_i hword
      cases hfound
      exact sound_of_wordAt hlast (by omega) hword
    · have hstop := (hlast.mono (Nat.le_succ stop)).set (Nat.lt_succ_self stop)
        ((table.set (table.index (wordAt block (stop - 1))) (stop - 1)).index (wordAt block stop))
      exact (search_sound hstop hfound).mono (Nat.le_succ stop)

end Matcher

/-! ## The elements of a chunk -/

open Matcher

/-- The elements for the rest of a block from `emitted` on, where every candidate is taken for what it is:
the bytes before it as a literal, a copy of all that agrees, and what the search finds behind that. -/
inductive Searched (block : Array UInt8) : Nat → Option Candidate → List Element → Prop
  | none {emitted : Nat} : Searched block emitted none (literalBetween block emitted block.size)
  | some {emitted length : Nat} {found : Candidate} {elements : List Element} :
      length = matchLength block found.position found.earlier →
      Searched block (found.position + length) (next block (found.position + length) found.table)
        elements →
      Searched block emitted (some found) (literalBetween block emitted found.position ++
        .copy (found.position - found.earlier) length :: elements)

theorem searched_elementsFrom {block : Array UInt8} {emitted : Nat} {candidate : Option Candidate}
    (h : ∀ found, candidate = some found → found.Sound block emitted) :
    Searched block emitted candidate (elementsFrom block emitted candidate) := by
  fun_induction elementsFrom block emitted candidate with
  | case1 emitted => exact .none
  | case2 emitted found length hok ih =>
    have hsound := h found rfl
    have htable : found.table.Before (found.position + length) :=
      hsound.table.mono (by omega)
    exact .some rfl (ih fun _ hnext => next_sound htable (by omega) hnext)
  | case3 emitted found length hnot =>
    have hsound := h found rfl
    exact absurd ⟨hsound.emitted_le, hsound.earlier_lt, hsound.four_le⟩ hnot

/-- **No candidate of the matcher fails the comparison**: a chunk that is searched at all becomes the
elements of the search. -/
theorem searched_elementsOf {chunk : Bytes} (h : minSearched ≤ chunk.length) :
    Searched chunk.toArray 0 (first chunk.toArray) (elementsOf chunk) := by
  rw [elementsOf, if_neg (Nat.not_lt.mpr h)]
  exact searched_elementsFrom fun _ hfirst => first_sound hfirst

end BufferBridge.Snappy
