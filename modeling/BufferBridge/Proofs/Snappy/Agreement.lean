import BufferBridge.Proofs.Snappy.Elements
import BufferBridge.Proofs.Snappy.Header
import BufferBridge.Proofs.Snappy.Skipping

/-!
# The validator and the decoder agree

Both walk the same elements: where the decoder reads an element, the validator skips one of the same
length, and it lets the element pass under the conditions under which the decoder takes it. There is one
exception. A decoder that looks ahead does not take a long literal with too little of the block behind
its tag, which the validator lets pass. So a block decodes into an output of the length that it declares
if and only if it is valid and not cramped in that way.
-/
namespace BufferBridge.Snappy

variable {reader : Reader}

/-! ## One element -/

/-- The conditions on an element that was skipped: a copy reaches back to somewhere in the output, and
the declared length is not passed. -/
def Skipped.Allowed (declared produced : Nat) (skipped : Skipped) : Prop :=
  (∀ reach, skipped.reach = some reach → 0 < reach ∧ reach ≤ produced) ∧
    produced + skipped.length ≤ declared

theorem takeLiteral_eq_ok_iff {outputLeft length : Nat} {source after : Bytes} {element : Element} :
    takeLiteral outputLeft length source = .ok (element, after) ↔
      length ≤ outputLeft ∧
        ∃ data, Bytes.split? length source = some (data, after) ∧ element = .literal data := by
  rw [takeLiteral]
  by_cases hroom : outputLeft < length
  · rw [if_pos hroom]
    constructor
    · intro h
      cases h
    · intro h
      obtain ⟨hle, -⟩ := h
      omega
  · rw [if_neg hroom]
    cases hs : Bytes.split? length source with
    | none => simp
    | some pair =>
      obtain ⟨data, rest⟩ := pair
      constructor
      · intro h
        cases h
        exact ⟨by omega, data, rfl, rfl⟩
      · intro h
        obtain ⟨-, found, hfound, rfl⟩ := h
        cases hfound
        rfl

theorem readCopy_eq_ok_iff {declared produced length width high : Nat} {source after : Bytes}
    {element : Element} :
    readCopy declared produced length width high source = .ok (element, after) ↔
      ∃ digits, Bytes.split? width source = some (digits, after) ∧
        element = .copy (Bytes.littleEndian digits + high) length ∧
        0 < Bytes.littleEndian digits + high ∧ Bytes.littleEndian digits + high ≤ produced ∧
        produced + length ≤ declared := by
  rw [readCopy]
  cases hs : Bytes.split? width source with
  | none => simp
  | some pair =>
    obtain ⟨digits, rest⟩ := pair
    simp only
    constructor
    · intro h
      split at h
      · cases h
      · split at h
        · cases h
        · cases h
          exact ⟨digits, rfl, rfl, by omega, by omega, by omega⟩
    · intro h
      obtain ⟨found, hfound, rfl, hpos, hreach, hfit⟩ := h
      cases hfound
      rw [if_neg (by omega), if_neg (by omega)]

/-- A literal has at least one byte, so room for it also means that the output is not full. -/
theorem takeLiteral_agrees {declared produced length n : Nat} {source after : Bytes} :
    (∃ element, takeLiteral (declared - produced) (n + 1) source = .ok (element, after) ∧
        element.size = length) ↔
      ∃ skipped, skipData (n + 1) source = some (skipped, after) ∧ skipped.length = length ∧
        skipped.Allowed declared produced := by
  simp only [takeLiteral_eq_ok_iff, skipData_eq_some_iff, Skipped.Allowed]
  constructor
  · intro h
    obtain ⟨element, ⟨hroom, data, hs, rfl⟩, hlength⟩ := h
    have hdata : data.length = n + 1 := (Bytes.split?_eq_some hs).1
    refine ⟨_, ⟨⟨data, hs⟩, rfl⟩, by rw [← hlength, Element.size, hdata], by simp, ?_⟩
    simp only
    omega
  · intro h
    obtain ⟨skipped, ⟨⟨data, hs⟩, rfl⟩, rfl, -, hfit⟩ := h
    simp only at hfit
    exact ⟨_, ⟨by omega, data, hs, rfl⟩, (Bytes.split?_eq_some hs).1⟩

theorem readCopy_agrees {declared produced length n width high : Nat} {source after : Bytes} :
    (∃ element, readCopy declared produced n width high source = .ok (element, after) ∧
        element.size = length) ↔
      ∃ skipped, ((Bytes.split? width source).map fun (digits, rest) =>
          ((⟨n, some (Bytes.littleEndian digits + high)⟩, rest) : Skipped × Bytes)) =
            some (skipped, after) ∧
        skipped.length = length ∧ skipped.Allowed declared produced := by
  simp only [readCopy_eq_ok_iff, Skipped.Allowed, Option.map_eq_some_iff, Prod.exists, Prod.mk.injEq]
  constructor
  · intro h
    obtain ⟨element, ⟨digits, hs, rfl, hpos, hreach, hfit⟩, rfl⟩ := h
    refine ⟨_, ⟨digits, after, hs, rfl, rfl⟩, rfl, ?_, hfit⟩
    intro reach hr
    cases hr
    exact ⟨hpos, hreach⟩
  · intro h
    obtain ⟨skipped, ⟨digits, rest, hs, rfl, rfl⟩, rfl, hreach, hfit⟩ := h
    have := hreach _ rfl
    exact ⟨_, ⟨digits, hs, rfl, this.1, this.2, hfit⟩, rfl⟩

/-- A long literal is not looked at where there is too little behind its tag. -/
theorem readElement_short {declared produced : Nat} {tag : UInt8} {source : Bytes}
    (hlong : OpensLong tag) (hshort : source.length < reader.lookAhead) :
    readElement reader declared produced tag source =
      .error (.literalCut reader.lookAhead source.length (declared - produced)) := by
  rw [readElement_literal _ _ _ hlong.1, readLiteral, if_neg (Nat.not_lt.mpr hlong.2), if_pos hshort]

/-- The decoder takes an element exactly where it looks at it and the validator skips one of the same
length and lets it pass, and both go on at the same place. -/
theorem readElement_agrees {declared produced length : Nat} {tag : UInt8} {source after : Bytes} :
    (∃ element, readElement reader declared produced tag source = .ok (element, after) ∧
        element.size = length) ↔
      ¬ (OpensLong tag ∧ source.length < reader.lookAhead) ∧
        ∃ skipped, skipElement tag source = some (skipped, after) ∧ skipped.length = length ∧
          skipped.Allowed declared produced := by
  have hcopy : tag.toNat % 4 ≠ 0 → ¬ (OpensLong tag ∧ source.length < reader.lookAhead) :=
    fun hclass h => hclass h.1.1
  rcases show tag.toNat % 4 = 0 ∨ tag.toNat % 4 = 1 ∨ tag.toNat % 4 = 2 ∨ tag.toNat % 4 = 3 from by
    omega with h | h | h | h
  · rw [readElement_literal _ _ _ h, skipElement_literal _ h, readLiteral]
    split
    · rename_i hcode
      rw [and_iff_right fun hlong => Nat.not_lt.mpr hlong.1.2 hcode]
      exact takeLiteral_agrees
    · rename_i hcode
      split
      · rename_i hshort
        simp [OpensLong, h, Nat.le_of_not_lt hcode, hshort]
      · rename_i henough
        rw [and_iff_right fun hlong => henough hlong.2]
        cases hs : Bytes.split? (tag.toNat / 4 - 59) source with
        | none => simp
        | some pair => exact takeLiteral_agrees
  · rw [readElement_nearCopy _ _ _ h, skipElement_nearCopy _ h, and_iff_right (hcopy (by omega))]
    exact readCopy_agrees
  · rw [readElement_farCopy _ _ _ h, skipElement_farCopy _ h, and_iff_right (hcopy (by omega))]
    exact readCopy_agrees
  · rw [readElement_wideCopy _ _ _ h, skipElement_wideCopy _ h, and_iff_right (hcopy (by omega))]
    exact readCopy_agrees

/-! ## Elements that a reader looks past -/

theorem not_crampedElements_nil (ahead : Nat) : ¬ CrampedElements ahead [] := by
  rintro ⟨elements, front, tag, rest, hsplit, -⟩
  simp at hsplit

/-- Elements are cramped at the first of them or behind it. -/
theorem crampedElements_cons_iff {ahead : Nat} {tag : UInt8} {source after : Bytes} {skipped : Skipped}
    (h : skipElement tag source = some (skipped, after)) :
    CrampedElements ahead (tag :: source) ↔
      (OpensLong tag ∧ source.length < ahead) ∨ CrampedElements ahead after := by
  constructor
  · rintro ⟨elements, front, long, rest, hsplit, hwritten, hlong, hshort⟩
    cases hwritten with
    | nil =>
      cases hsplit
      exact .inl ⟨hlong, hshort⟩
    | @cons element elements first back hfirst hback =>
      obtain ⟨opening, payload, rfl⟩ := hfirst.exists_tag
      rw [List.append_assoc, List.cons_append] at hsplit
      cases hsplit
      rw [skipElement_of_written _ hfirst] at h
      cases h
      exact .inr ⟨elements, back, long, rest, rfl, hback, hlong, hshort⟩
  · intro hcramped
    rcases hcramped with ⟨hlong, hshort⟩ | ⟨elements, front, long, rest, rfl, hwritten, hlong, hshort⟩
    · exact ⟨[], [], tag, source, rfl, .nil, hlong, hshort⟩
    · obtain ⟨element, payload, rfl, hfirst, -⟩ := written_of_skipElement h
      exact ⟨element :: elements, (tag :: payload) ++ front, long, rest, by simp,
        .cons hfirst hwritten, hlong, hshort⟩

/-! ## All elements -/

theorem measure_nil (limit produced : Nat) : measure limit produced [] = some produced := by
  rw [measure]

/-- What the validator does with one element, in terms of the conditions on it. -/
theorem measure_cons_eq_some_iff {limit produced total : Nat} {tag : UInt8} {rest : Bytes} :
    measure limit produced (tag :: rest) = some total ↔
      ∃ skipped after, skipElement tag rest = some (skipped, after) ∧
        skipped.Allowed limit produced ∧
        measure limit (produced + skipped.length) after = some total := by
  rw [measure]
  split
  · rename_i hskip
    simp [hskip]
  · rename_i skipped after hskip
    have hreach : skipped.reach.any (fun reach => decide (reach = 0 ∨ produced < reach)) = false ↔
        ∀ reach, skipped.reach = some reach → 0 < reach ∧ reach ≤ produced := by
      cases skipped.reach with
      | none => simp
      | some reach =>
        simp only [Option.any_some, decide_eq_false_iff_not, Option.some.injEq, forall_eq']
        omega
    constructor
    · intro h
      split at h
      · cases h
      · rename_i hallowed
        split at h
        · cases h
        · exact ⟨skipped, after, hskip, ⟨hreach.mp (by simpa using hallowed), by omega⟩, h⟩
    · intro h
      obtain ⟨found, rest', hfound, hallowed, h⟩ := h
      rw [hskip] at hfound
      cases hfound
      rw [hreach.mpr hallowed.1, if_neg (by simp), if_neg (Nat.not_lt.mpr hallowed.2)]
      exact h

/-- The elements can be decoded if and only if their lengths add up to what is declared and none of them
is looked past. The induction is on the decoder's run; its output is as long as the validator's count. -/
theorem decodeElements_ok_iff {declared : Nat} {source : Bytes} {output : Array UInt8} :
    (decodeElements reader declared source output).2 = .ok () ↔
      measure declared output.size source = some declared ∧
        ¬ CrampedElements reader.lookAhead source := by
  fun_induction decodeElements reader declared source output with
  | case1 output hfull => simp [measure_nil, hfull, not_crampedElements_nil]
  | case2 output hshort => simp [measure_nil, hshort]
  | case3 output tag rest fault hread =>
    -- an element that is looked at, skipped and allowed would have been read
    simp only [reduceCtorEq, false_iff]
    rintro ⟨hmeasure, hroomy⟩
    obtain ⟨skipped, after, hskip, hallowed, -⟩ := measure_cons_eq_some_iff.mp hmeasure
    have hlooked := fun hlong => hroomy ((crampedElements_cons_iff hskip).mpr (.inl hlong))
    obtain ⟨element, htaken, -⟩ := readElement_agrees.mpr ⟨hlooked, skipped, hskip, rfl, hallowed⟩
    rw [hread] at htaken
    cases htaken
  | case4 output tag rest element after hread ih =>
    rw [Element.size_appendTo] at ih
    obtain ⟨hlooked, skipped, hskip, hlength, hallowed⟩ := readElement_agrees.mp ⟨element, hread, rfl⟩
    rw [ih, measure_cons_eq_some_iff, crampedElements_cons_iff hskip, or_iff_right hlooked, ← hlength]
    refine and_congr_left fun _ => ?_
    constructor
    · intro h
      exact ⟨skipped, after, hskip, hallowed, h⟩
    · rintro ⟨found, rest', hfound, -, h⟩
      rw [hskip] at hfound
      cases hfound
      exact h

/-- Where lengths add up but an element is looked past, decoding stops at that element. -/
theorem decodeElements_of_cramped {declared : Nat} {source : Bytes} {output : Array UInt8}
    (hmeasure : measure declared output.size source = some declared)
    (hcramped : CrampedElements reader.lookAhead source) :
    ∃ left room, (decodeElements reader declared source output).2 =
      .error (.literalCut reader.lookAhead left room) ∧ left < reader.lookAhead := by
  fun_induction decodeElements reader declared source output with
  | case1 => exact absurd hcramped (not_crampedElements_nil _)
  | case2 => exact absurd hcramped (not_crampedElements_nil _)
  | case3 output tag rest fault hread =>
    obtain ⟨skipped, after, hskip, hallowed, -⟩ := measure_cons_eq_some_iff.mp hmeasure
    by_cases hlong : OpensLong tag ∧ rest.length < reader.lookAhead
    · rw [readElement_short hlong.1 hlong.2] at hread
      cases hread
      exact ⟨_, _, rfl, hlong.2⟩
    · obtain ⟨element, htaken, -⟩ := readElement_agrees.mpr ⟨hlong, skipped, hskip, rfl, hallowed⟩
      rw [hread] at htaken
      cases htaken
  | case4 output tag rest element after hread ih =>
    obtain ⟨hlooked, skipped, hskip, hlength, -⟩ := readElement_agrees.mp ⟨element, hread, rfl⟩
    obtain ⟨found, rest', hfound, -, hrest⟩ := measure_cons_eq_some_iff.mp hmeasure
    rw [hskip] at hfound
    cases hfound
    refine ih ?_ (((crampedElements_cons_iff hskip).mp hcramped).resolve_left hlooked)
    rwa [Element.size_appendTo, ← hlength]

/-- Elements that can be decoded fill the output to the declared length. -/
theorem size_of_decodeElements {declared : Nat} {source : Bytes} {output result : Array UInt8}
    (h : decodeElements reader declared source output = (result, .ok ())) : result.size = declared := by
  fun_induction decodeElements reader declared source output with
  | case1 output hfull =>
    cases h
    exact hfull
  | case2 => cases h
  | case3 => cases h
  | case4 _ _ _ _ _ _ ih => exact ih h

/-! ## Whole blocks -/

/-- A block decodes to `output`: its header is readable, and its elements produce `output`, which has
the length that the header declares. -/
def Decodes (reader : Reader) (block output : Bytes) : Prop :=
  ∃ body, readHeader reader block = .ok (output.length, body) ∧
    decodeElements reader output.length body #[] = (output.toArray, .ok ())

theorem declaredLength_of_readHeader {block : Bytes} {header : Nat × Bytes}
    (h : readHeader reader block = .ok header) : declaredLength reader block = .ok header.1 := by
  cases block with
  | nil => simp at h
  | cons byte rest => simp [declaredLength, h, Except.map]

theorem bodyOf_of_readHeader {block body : Bytes} {declared : Nat}
    (h : readHeader reader block = .ok (declared, body)) : bodyOf block = some body := by
  rw [readHeader] at h
  split at h
  · cases h
  · rename_i hgroups
    simp only at h
    split at h
    · cases h
    · cases h
      exact bodyOf_of_readGroups hgroups

theorem isValid_of_readHeader {block body : Bytes} {declared : Nat}
    (h : readHeader reader block = .ok (declared, body)) :
    isValid reader block = true ↔ measure declared 0 body = some declared := by
  simp only [isValid, declaredLength_of_readHeader h, bodyOf_of_readHeader h, beq_iff_eq]

theorem isValid_of_readHeader_error {block : Bytes} {fault : Fault}
    (h : readHeader reader block = .error fault) : isValid reader block = false := by
  cases block with
  | nil => rfl
  | cons byte rest =>
    simp only [isValid, declaredLength, h, List.isEmpty_cons, Bool.false_eq_true, if_false,
      Except.map]

theorem declaredLength_of_isValid {block : Bytes} (h : isValid reader block = true) :
    ∃ length, declaredLength reader block = .ok length := by
  cases hheader : readHeader reader block with
  | error fault =>
    rw [isValid_of_readHeader_error hheader] at h
    cases h
  | ok header => exact ⟨header.1, declaredLength_of_readHeader hheader⟩

theorem cramped_iff {ahead : Nat} {block body : Bytes} (h : bodyOf block = some body) :
    Cramped ahead block ↔ CrampedElements ahead body := by
  constructor
  · rintro ⟨header, found, rfl, hclosed, hcramped⟩
    rw [hclosed.bodyOf_append] at h
    cases h
    exact hcramped
  · intro hcramped
    obtain ⟨header, rfl, hclosed⟩ := closed_of_bodyOf h
    exact ⟨header, body, rfl, hclosed, hcramped⟩

/-- No block is cramped for a reader that does not look ahead. -/
theorem not_cramped_zero (block : Bytes) : ¬ Cramped 0 block := by
  rintro ⟨header, body, -, -, elements, front, tag, rest, -, -, -, hshort⟩
  exact Nat.not_lt_zero _ hshort

theorem decodes_of_decodeElements {block body : Bytes} {declared : Nat}
    (hheader : readHeader reader block = .ok (declared, body))
    (h : (decodeElements reader declared body #[]).2 = .ok ()) :
    ∃ output, Decodes reader block output := by
  rcases hdecode : decodeElements reader declared body #[] with ⟨result, status⟩
  rw [hdecode] at h
  cases h
  have hlength : result.toList.length = declared := size_of_decodeElements hdecode
  refine ⟨result.toList, body, ?_, ?_⟩
  · rw [hlength, hheader]
  · rw [hlength, hdecode]

/-- **The blocks that decode are the valid ones that are not cramped.** -/
theorem decodes_iff {block : Bytes} :
    (∃ output, Decodes reader block output) ↔
      isValid reader block = true ∧ ¬ Cramped reader.lookAhead block := by
  cases hheader : readHeader reader block with
  | error fault =>
    rw [isValid_of_readHeader_error hheader]
    constructor
    · rintro ⟨output, body, hread, -⟩
      rw [hheader] at hread
      cases hread
    · rintro ⟨h, -⟩
      cases h
  | ok header =>
    obtain ⟨declared, body⟩ := header
    have helements := @decodeElements_ok_iff reader declared body #[]
    rw [isValid_of_readHeader hheader, cramped_iff (bodyOf_of_readHeader hheader)]
    refine Iff.trans ?_ helements
    constructor
    · rintro ⟨output, body', hread, hdecode⟩
      rw [hheader] at hread
      cases hread
      rw [hdecode]
    · exact decodes_of_decodeElements hheader

theorem Decodes.isValid {block output : Bytes} (h : Decodes reader block output) :
    isValid reader block = true := by
  exact (decodes_iff.mp ⟨output, h⟩).1

/-- What the decompressor makes of a block that is valid but cramped, given room for it. -/
theorem decompress_of_cramped {block : Bytes} {declared room : Nat} (hvalid : isValid reader block = true)
    (hcramped : Cramped reader.lookAhead block)
    (hdeclared : declaredLength reader block = .ok declared) (hroom : declared ≤ room) :
    ∃ left outputLeft, (decompress reader block room).2 =
      .error (.literalCut reader.lookAhead left outputLeft) ∧ left < reader.lookAhead := by
  cases hheader : readHeader reader block with
  | error fault =>
    rw [isValid_of_readHeader_error hheader] at hvalid
    cases hvalid
  | ok header =>
    obtain ⟨found, body⟩ := header
    rw [declaredLength_of_readHeader hheader] at hdeclared
    cases hdeclared
    rw [isValid_of_readHeader hheader] at hvalid
    rw [cramped_iff (bodyOf_of_readHeader hheader)] at hcramped
    obtain ⟨left, outputLeft, hfault, hleft⟩ :=
      @decodeElements_of_cramped reader found body #[] hvalid hcramped
    refine ⟨left, outputLeft, ?_, hleft⟩
    cases block with
    | nil => simp at hheader
    | cons byte rest =>
      simp only [decompress, List.isEmpty_cons, Bool.false_eq_true, if_false, hheader,
        Nat.not_lt.mpr hroom, hfault, Except.map]

/-- What the decompressor makes of a block that decodes, given room for it. -/
theorem Decodes.decompress {block output : Bytes} {room : Nat} (h : Decodes reader block output)
    (hroom : output.length ≤ room) : decompress reader block room = (output, .ok output.length) := by
  obtain ⟨body, hheader, hdecode⟩ := h
  cases block with
  | nil => simp at hheader
  | cons byte rest =>
    simp only [Snappy.decompress, List.isEmpty_cons, Bool.false_eq_true, if_false, hheader,
      Nat.not_lt.mpr hroom, hdecode, Except.map]

theorem Decodes.declaredLength {block output : Bytes} (h : Decodes reader block output) :
    declaredLength reader block = .ok output.length := by
  obtain ⟨body, hheader, -⟩ := h
  exact declaredLength_of_readHeader hheader

end BufferBridge.Snappy
