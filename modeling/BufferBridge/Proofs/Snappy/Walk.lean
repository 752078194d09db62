import BufferBridge.Proofs.Snappy.Grammar
import BufferBridge.Snappy.Walk

/-!
# Walking over the elements of a block

The loop with a cursor has no fault on any bytes: each stretch of a turn leaves the cursor inside the
block, so the next difference and the next access are safe. A turn moves the cursor on by a byte at
least, so the loop ends in time, and it answers what `measure` does.
-/
namespace BufferBridge.Snappy

namespace Walk

/-! ## Stretches without a fault -/

/-- A stretch that has no fault: it gives a value or gives up. -/
def answer {α : Type} (value : Option α) : Stretch α := OptionT.mk (.ok value)

section

variable {α β : Type}

/-- A machine operation without a fault hands its result on. -/
@[simp] theorem lift_ok_bind (value : α) (next : α → Stretch β) :
    (liftM (Except.ok value : Except Word.Fault α) : Stretch α) >>= next = next value :=
  rfl

@[simp] theorem answer_some_bind (value : α) (next : α → Stretch β) :
    answer (some value) >>= next = next value :=
  rfl

@[simp] theorem answer_none_bind (next : α → Stretch β) : answer none >>= next = answer none :=
  rfl

end

variable {body : Bytes} {tag : UInt8} {position : Nat}

/-! ## One element -/

theorem number_cons (byte : UInt8) (rest : Bytes) :
    number (byte :: rest) = number rest <<< 8 ||| byte.toUInt64 := by
  simp only [number, List.foldl_reverse, List.foldr_cons]

theorem toNat_number {bytes : Bytes} (h : bytes.length ≤ 4) :
    (number bytes).toNat = Bytes.littleEndian bytes := by
  induction bytes with
  | nil => rfl
  | cons byte rest ih =>
    rw [List.length_cons] at h
    have hrest := ih (by omega)
    have hbyte := byte.toNat_lt
    have hlt : Bytes.littleEndian rest < 16777216 := by
      have hsize := Bytes.littleEndian_lt rest
      have hpow : Nat.pow 256 rest.length ≤ Nat.pow 256 3 :=
        Nat.pow_le_pow_right (by decide) (by omega)
      exact Nat.lt_of_lt_of_le hsize hpow
    have hshift : (number rest <<< 8).toNat = 2 ^ 8 * Bytes.littleEndian rest := by
      rw [UInt64.toNat_shiftLeft, hrest, Nat.shiftLeft_eq, Nat.mod_eq_of_lt] <;> simp <;> omega
    rw [number_cons, UInt64.toNat_or, hshift, UInt8.toNat_toUInt64,
      ← Nat.two_pow_add_eq_or_of_lt (by omega), Bytes.littleEndian]
    omega

/-! The parts of a tag. -/

theorem toNat_code (tag : UInt8) : (tag >>> 2).toNat = tag.toNat / 4 := by
  rw [UInt8.toNat_shiftRight, Nat.shiftRight_eq_div_pow]
  rfl

theorem toNat_top (tag : UInt8) : (tag >>> 5).toNat = tag.toNat / 32 := by
  rw [UInt8.toNat_shiftRight, Nat.shiftRight_eq_div_pow]
  rfl

theorem toNat_class (tag : UInt8) : (tag &&& 0b11).toNat = tag.toNat % 4 := by
  rw [UInt8.toNat_and]
  exact Nat.and_two_pow_sub_one_eq_mod tag.toNat 2

theorem toNat_nearLength (tag : UInt8) : (tag >>> 2 &&& 0b111).toNat = tag.toNat / 4 % 8 := by
  rw [UInt8.toNat_and, toNat_code]
  exact Nat.and_two_pow_sub_one_eq_mod (tag.toNat / 4) 3

section

variable (hbody : body.length ≤ Word.maxLength) (hplace : position ≤ body.length)
include hbody hplace

/-- What is cut off at a place ends at a later one, or at the end of the block. -/
theorem part_eq {count : Nat} (hcount : count ≤ 4) :
    (OptionT.mk (Word.part? body position count) : Stretch Bytes) =
      answer ((Bytes.split? count (body.drop position)).map Prod.fst) := by
  rw [Word.maxLength] at hbody
  rw [Word.part?_of_le (by rw [maxSize]; omega) hplace]
  rfl

theorem literalLength_eq :
    literalLength body tag position = answer (
      if tag.toNat / 4 < 60 then some (tag.toNat / 4 + 1, position)
      else (Bytes.split? (tag.toNat / 4 - 59) (body.drop position)).map fun (digits, after) =>
        (Bytes.littleEndian digits + 1, body.length - after.length)) := by
  have htag := tag.toNat_lt
  have hwords := hbody
  rw [Word.maxLength] at hwords
  rw [literalLength, toNat_code]
  by_cases hshort : tag.toNat / 4 < 60
  · simp only [if_pos hshort, Word.add_of_le (show tag.toNat / 4 + 1 ≤ maxSize by rw [maxSize]; omega)]
    rfl
  · simp only [if_neg hshort]
    rw [Word.sub_of_le (by omega), lift_ok_bind, part_eq hbody hplace (by omega)]
    cases hs : Bytes.split? (tag.toNat / 4 - 59) (body.drop position) with
    | none => rfl
    | some pair =>
      obtain ⟨digits, after⟩ := pair
      obtain ⟨hdigits, hdrop⟩ := Bytes.split?_eq_some hs
      have hlength := congrArg List.length hdrop
      rw [List.length_drop, List.length_append, hdigits] at hlength
      have hnumber := toNat_number (show digits.length ≤ 4 by omega)
      have hlt := Bytes.littleEndian_lt digits
      have hpow : Nat.pow 256 digits.length ≤ Nat.pow 256 4 :=
        Nat.pow_le_pow_right (by decide) (by omega)
      have hfour : Nat.pow 256 4 = 4294967296 := rfl
      have hend : position + (tag.toNat / 4 - 59) = body.length - after.length := by omega
      simp only [Option.map_some, answer_some_bind, hnumber]
      rw [Word.add_of_le (by rw [maxSize]; omega), lift_ok_bind,
        Word.add_of_le (by rw [maxSize]; omega), lift_ok_bind, hend]
      rfl

theorem literalData_eq (length : Nat) :
    literalData body length position = answer (
      (skipData length (body.drop position)).map fun (skipped, after) =>
        (skipped, body.length - after.length)) := by
  rw [literalData, Word.sub_of_le hplace, lift_ok_bind]
  rw [Word.maxLength] at hbody
  by_cases hleft : body.length - position < length
  · have hnone : Bytes.split? length (body.drop position) = none := by
      rw [Bytes.split?, if_neg (by rw [List.length_take, List.length_drop]; omega)]
    rw [if_pos hleft, skipData, hnone]
    rfl
  · have hsome : Bytes.split? length (body.drop position) =
        some ((body.drop position).take length, body.drop (position + length)) := by
      rw [Bytes.split?, if_pos (by rw [List.length_take, List.length_drop]; omega), List.drop_drop]
    have hend : position + length = body.length - (body.drop (position + length)).length := by
      rw [List.length_drop]
      omega
    rw [if_neg hleft, skipData, hsome, Word.add_of_le (by rw [maxSize]; omega), lift_ok_bind]
    simp only [Option.map_some]
    rw [← hend]
    rfl

theorem literal_eq (hclass : tag.toNat % 4 = 0) :
    literal body tag position = answer (
      (skipElement tag (body.drop position)).map fun (skipped, after) =>
        (skipped, body.length - after.length)) := by
  rw [literal, literalLength_eq hbody hplace, skipElement_literal _ hclass]
  by_cases hshort : tag.toNat / 4 < 60
  · simp only [if_pos hshort, answer_some_bind]
    exact literalData_eq hbody hplace _
  · simp only [if_neg hshort]
    cases hs : Bytes.split? (tag.toNat / 4 - 59) (body.drop position) with
    | none => rfl
    | some pair =>
      obtain ⟨digits, after⟩ := pair
      have hafter : after = body.drop (body.length - after.length) := by
        have hsuffix : after <:+ body :=
          List.IsSuffix.trans ⟨digits, (Bytes.split?_eq_some hs).2.symm⟩ (List.drop_suffix ..)
        exact (List.suffix_iff_eq_drop.mp hsuffix)
      simp only [Option.map_some, answer_some_bind, Option.bind_some]
      rw [literalData_eq hbody (Nat.sub_le ..), ← hafter]

theorem nearCopy_eq (hclass : tag.toNat % 4 = 1) :
    nearCopy body tag position = answer (
      (skipElement tag (body.drop position)).map fun (skipped, after) =>
        (skipped, body.length - after.length)) := by
  have htag := tag.toNat_lt
  rw [Word.maxLength] at hbody
  rw [nearCopy, skipElement_nearCopy _ hclass]
  by_cases hlow : position < body.length
  · have hcut : body.drop position = body[position] :: body.drop (position + 1) :=
      List.drop_eq_getElem_cons hlow
    have hend : position + 1 = body.length - (body.drop (position + 1)).length := by
      rw [List.length_drop]
      omega
    have hoffset : (tag >>> 5).toNat <<< 8 ||| body[position].toNat =
        Bytes.littleEndian [body[position]] + tag.toNat / 32 * 256 := by
      have hbyte := body[position].toNat_lt
      rw [Nat.shiftLeft_eq, Nat.mul_comm, ← Nat.two_pow_add_eq_or_of_lt hbyte, toNat_top]
      simp only [Bytes.littleEndian]
      omega
    rw [if_pos hlow, Word.byte_of_lt hlow, lift_ok_bind, Word.add_of_le (by rw [maxSize]; omega),
      lift_ok_bind, toNat_nearLength, Word.add_of_le (by rw [maxSize]; omega), lift_ok_bind, hcut,
      Bytes.split?, hoffset]
    simp only [List.take_succ_cons, List.take_zero, List.length_singleton, if_true, List.drop_succ_cons,
      List.drop_zero, Option.map_some]
    rw [← hend]
    rfl
  · rw [if_neg hlow, List.drop_eq_nil_of_le (by omega)]
    rfl

theorem wideCopy_eq {width : Nat} (hwidth : width ≤ 4)
    (hskip : skipElement tag (body.drop position) =
      (Bytes.split? width (body.drop position)).map fun (digits, after) =>
        (⟨tag.toNat / 4 + 1, some (Bytes.littleEndian digits + 0)⟩, after)) :
    wideCopy width body tag position = answer (
      (skipElement tag (body.drop position)).map fun (skipped, after) =>
        (skipped, body.length - after.length)) := by
  have htag := tag.toNat_lt
  have hwords := hbody
  rw [Word.maxLength] at hwords
  rw [wideCopy, part_eq hbody hplace hwidth, hskip]
  cases hs : Bytes.split? width (body.drop position) with
  | none => rfl
  | some pair =>
    obtain ⟨digits, after⟩ := pair
    obtain ⟨rfl, hdrop⟩ := Bytes.split?_eq_some hs
    have hlength := congrArg List.length hdrop
    rw [List.length_drop, List.length_append] at hlength
    have hend : position + digits.length = body.length - after.length := by omega
    have hdigits : Word.bytesAt digits 0 digits.length = .ok digits := Word.bytesAt_append [] digits
    simp only [Option.map_some, answer_some_bind]
    rw [Word.add_of_le (by rw [maxSize]; omega), lift_ok_bind, hdigits, lift_ok_bind, toNat_code,
      Word.add_of_le (by rw [maxSize]; omega), lift_ok_bind, hend]
    rfl

/-- An element is passed without a fault, and just where `skipElement` passes it. -/
theorem element_eq :
    element body tag position = answer (
      (skipElement tag (body.drop position)).map fun (skipped, after) =>
        (skipped, body.length - after.length)) := by
  rw [element, toNat_class]
  rcases show tag.toNat % 4 = 0 ∨ tag.toNat % 4 = 1 ∨ tag.toNat % 4 = 2 ∨ tag.toNat % 4 = 3 from by
    omega with hclass | hclass | hclass | hclass
  · simp only [hclass]
    exact literal_eq hbody hplace hclass
  · simp only [hclass]
    exact nearCopy_eq hbody hplace hclass
  · simp only [hclass]
    exact wideCopy_eq hbody hplace (by decide) (skipElement_farCopy _ hclass)
  · simp only [hclass]
    exact wideCopy_eq hbody hplace (by decide) (skipElement_wideCopy _ hclass)

end

/-! ## The loop -/

variable {limit : Nat} {cursor : Cursor}

theorem addWithin_eq (hlimit : limit ≤ maxSize) (first second : Nat) :
    addWithin limit first second = if limit < first + second then none else some (first + second) := by
  by_cases hpast : limit < first + second
  · rw [addWithin, if_neg (by omega), if_pos hpast]
  · rw [addWithin, if_pos (by omega), if_neg hpast]

section

variable (hbody : body.length ≤ Word.maxLength) (hlimit : limit ≤ maxSize)
include hbody hlimit

/-- What a turn does inside a block: it has no fault, and either it gives up where there is nothing to
measure, or it moves the cursor on, inside the block, and leaves what there is to measure. -/
theorem step_cases (hplace : cursor.position < body.length) :
    (step body limit cursor = answer none ∧
      measure limit cursor.produced (body.drop cursor.position) = none) ∨
    ∃ next, step body limit cursor = answer (some next) ∧
      cursor.position < next.position ∧ next.position ≤ body.length ∧ next.produced ≤ limit ∧
      measure limit cursor.produced (body.drop cursor.position) =
        measure limit next.produced (body.drop next.position) := by
  have hwords := hbody
  rw [Word.maxLength] at hwords
  have hcut : body.drop cursor.position = body[cursor.position] :: body.drop (cursor.position + 1) :=
    List.drop_eq_getElem_cons hplace
  rw [step, Word.byte_of_lt hplace, lift_ok_bind, Word.add_of_le (by rw [maxSize]; omega), lift_ok_bind,
    element_eq hbody (by omega), hcut, measure]
  cases hskip : skipElement body[cursor.position] (body.drop (cursor.position + 1)) with
  | none => exact .inl ⟨rfl, rfl⟩
  | some pair =>
    obtain ⟨skipped, after⟩ := pair
    simp only [Option.map_some, answer_some_bind]
    by_cases hreach : skipped.reach.any (fun reach => reach = 0 ∨ cursor.produced < reach)
    · rw [if_pos hreach, if_pos hreach]
      exact .inl ⟨rfl, rfl⟩
    · rw [if_neg hreach, if_neg hreach, addWithin_eq hlimit]
      by_cases hpast : limit < cursor.produced + skipped.length
      · rw [if_pos hpast, if_pos hpast]
        exact .inl ⟨rfl, rfl⟩
      · have hshorter := skipElement_shortens hskip
        rw [List.length_drop] at hshorter
        obtain ⟨element, payload, hpayload, -, -⟩ := written_of_skipElement hskip
        have hsuffix : after <:+ body :=
          List.IsSuffix.trans ⟨payload, hpayload.symm⟩ (List.drop_suffix ..)
        rw [if_neg hpast, if_neg hpast]
        refine .inr ⟨⟨body.length - after.length, cursor.produced + skipped.length⟩, rfl, ?_, ?_, ?_, ?_⟩
        · show cursor.position < body.length - after.length
          omega
        · exact Nat.sub_le ..
        · exact Nat.le_of_not_lt hpast
        · rw [← List.suffix_iff_eq_drop.mp hsuffix]

/-- The loop from a place inside a block on, with a turn for each byte that is left. -/
theorem steps_eq {turns : Nat} (hplace : cursor.position ≤ body.length)
    (hturns : body.length - cursor.position ≤ turns) :
    steps body limit turns cursor =
      answer (measure limit cursor.produced (body.drop cursor.position)) := by
  induction turns generalizing cursor with
  | zero =>
    rw [steps, if_neg (by omega), List.drop_eq_nil_of_le (by omega), measure]
    rfl
  | succ turns ih =>
    rw [steps]
    by_cases hleft : cursor.position < body.length
    · rw [if_pos hleft]
      rcases step_cases hbody hlimit hleft with ⟨hstep, hmeasure⟩ | ⟨next, hstep, hon, hin, -, hmeasure⟩
      · rw [hstep, hmeasure, answer_none_bind]
      · rw [hstep, hmeasure, answer_some_bind, ih hin (by omega)]
    · rw [if_neg hleft, List.drop_eq_nil_of_le (by omega), measure]
      rfl

end

/-- The places where the cursor stands before a turn, or at the end. -/
inductive Visits (body : Bytes) (limit : Nat) : Cursor → Prop
  | start : Visits body limit ⟨0, 0⟩
  | next {cursor after : Cursor} : Visits body limit cursor → cursor.position < body.length →
      (step body limit cursor).run = .ok (some after) → Visits body limit after

theorem Visits.bounds (hbody : body.length ≤ Word.maxLength) (hlimit : limit ≤ maxSize)
    (h : Visits body limit cursor) : cursor.position ≤ body.length ∧ cursor.produced ≤ limit := by
  induction h with
  | start => exact ⟨Nat.zero_le _, Nat.zero_le _⟩
  | next _ hleft hrun _ =>
    rcases step_cases hbody hlimit hleft with ⟨hstep, -⟩ | ⟨next, hstep, -, hin, hproduced, -⟩
    · rw [hstep] at hrun
      cases hrun
    · rw [hstep] at hrun
      cases hrun
      exact ⟨hin, hproduced⟩

end Walk

theorem measure_le {limit produced total : Nat} {source : Bytes} (hproduced : produced ≤ limit)
    (h : measure limit produced source = some total) : total ≤ limit := by
  fun_induction measure limit produced source with
  | case1 =>
    cases h
    exact hproduced
  | case2 | case3 | case4 => cases h
  | case5 _ _ _ _ _ _ _ hfit ih => exact ih (Nat.le_of_not_lt hfit) h

/-- What is measured is the sum of the lengths of the elements that make up all of the source. -/
theorem measure_eq_some_iff_written {limit total : Nat} {source : Bytes} :
    measure limit 0 source = some total ↔ total ≤ limit ∧
      ∃ elements, WrittenElements elements source ∧ InReach 0 elements ∧ totalSize elements = total := by
  constructor
  · intro h
    obtain ⟨elements, hwritten, hreach, htotal⟩ := written_of_measure h
    exact ⟨measure_le (Nat.zero_le _) h, elements, hwritten, hreach, by omega⟩
  · rintro ⟨hfit, elements, hwritten, hreach, rfl⟩
    have hmeasure := @measure_elements_append limit 0 elements source [] hwritten hreach (by omega)
    rwa [List.append_nil, measure_nil, Nat.zero_add] at hmeasure

section

variable {body : Bytes} {limit : Nat}

/-- **The walk is safe and bounded on all bytes.** Wherever the cursor stands it is inside the block or at
its end; a turn from there has no fault, so no access is outside and no sum or difference is no word, and
moves the cursor on, inside the block. The walk ends after no more turns than the block has bytes. It
answers a number just where the whole block is a sequence of elements that reach back to no place before
the start and whose lengths sum up to that number, which is at most the limit. -/
theorem walk_stays_inside (hbody : body.length ≤ Word.maxLength) (hlimit : limit ≤ maxSize) :
    (∀ cursor, Walk.Visits body limit cursor →
      cursor.position ≤ body.length ∧ (cursor.position < body.length →
        ∃ next, (Walk.step body limit cursor).run = .ok next ∧
          ∀ after, next = some after →
            cursor.position < after.position ∧ after.position ≤ body.length)) ∧
    ∃ answer, walk body limit = .ok answer ∧ ∀ n, answer = some n ↔ n ≤ limit ∧
      ∃ elements, WrittenElements elements body ∧ InReach 0 elements ∧ totalSize elements = n := by
  constructor
  · intro cursor hvisits
    refine ⟨(hvisits.bounds hbody hlimit).1, fun hleft => ?_⟩
    rcases Walk.step_cases hbody hlimit hleft with ⟨hstep, -⟩ | ⟨next, hstep, hon, hin, -, -⟩
    · refine ⟨none, by rw [hstep]; rfl, ?_⟩
      rintro after ⟨⟩
    · refine ⟨some next, by rw [hstep]; rfl, ?_⟩
      rintro after ⟨⟩
      exact ⟨hon, hin⟩
  · have hsteps : Walk.steps body limit body.length ⟨0, 0⟩ = Walk.answer (measure limit 0 body) :=
      Walk.steps_eq hbody hlimit (Nat.zero_le _) (Nat.le_refl _)
    refine ⟨measure limit 0 body, ?_, fun n => measure_eq_some_iff_written⟩
    rw [walk, hsteps]
    rfl

end

/-- Four bytes and a copy of them. -/
def doubledBody : Bytes := [0x0C, 0x61, 0x62, 0x63, 0x64, 0x01, 0x04]

theorem walk_stays_inside_doubled :
    doubledBody.length ≤ Word.maxLength ∧ 8 ≤ maxSize ∧ walk doubledBody 8 = .ok (some 8) ∧
      ∃ elements, WrittenElements elements doubledBody ∧ InReach 0 elements ∧ totalSize elements = 8 := by
  have hbody : doubledBody.length ≤ Word.maxLength := by decide
  have hlimit : 8 ≤ maxSize := by decide
  have hwalk : walk doubledBody 8 = .ok (some 8) := rfl
  obtain ⟨-, answer, hanswer, hwritten⟩ := walk_stays_inside hbody hlimit
  cases hwalk.symm.trans hanswer
  exact ⟨hbody, hlimit, hwalk, ((hwritten 8).mp rfl).2⟩

end BufferBridge.Snappy
