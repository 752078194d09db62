import BufferBridge.BlockCodec
import BufferBridge.Proofs.Snappy.Agreement
import BufferBridge.Proofs.Windows
import BufferBridge.Snappy.Grammar

/-!
# The validator and the grammar

A block is valid just where it is formed by the rules of the format. Each reader that the validator is
made of is shown to accept the forms that the grammar has for it, whatever follows them, and no others.
-/
namespace BufferBridge

namespace Snappy

variable {reader : Reader}

/-! ## The header -/

theorem readGroups_of_written {n limit : Nat} {header : Bytes} (after : Bytes)
    (h : WrittenGroups n header) (hlimit : header.length ≤ limit) :
    readGroups limit (header ++ after) = some (n, after) := by
  induction h generalizing limit with
  | @last low hlow =>
    cases limit with
    | zero => simp at hlimit
    | succ limit =>
      have hbyte := Bytes.toNat_ofNat (show low < 256 by omega)
      simp [readGroups, hbyte, hlow]
  | @more low high bytes hlow _ ih =>
    cases limit with
    | zero => simp at hlimit
    | succ limit =>
      have hbyte := Bytes.toNat_ofNat (show low + 128 < 256 by omega)
      have hrest := ih (show bytes.length ≤ limit by simpa using hlimit)
      rw [List.cons_append, readGroups, hbyte, if_neg (by omega), hrest]
      simp

theorem written_of_readGroups {n limit : Nat} {bytes after : Bytes}
    (h : readGroups limit bytes = some (n, after)) :
    ∃ header, bytes = header ++ after ∧ WrittenGroups n header ∧ header.length ≤ limit := by
  induction limit generalizing n bytes with
  | zero => simp [readGroups] at h
  | succ limit ih =>
    cases bytes with
    | nil => simp [readGroups] at h
    | cons byte rest =>
      rw [readGroups] at h
      by_cases hlast : byte.toNat < 128
      · rw [if_pos hlast] at h
        cases h
        refine ⟨[byte], rfl, ?_, by simp⟩
        have hgroup := WrittenGroups.last hlast
        rwa [UInt8.ofNat_toNat] at hgroup
      · rw [if_neg hlast] at h
        obtain ⟨⟨high, last⟩, hrest, hpair⟩ := Option.map_eq_some_iff.mp h
        cases hpair
        obtain ⟨header, rfl, hgroups, hlength⟩ := ih hrest
        refine ⟨byte :: header, rfl, ?_, by simpa using hlength⟩
        have hlow : byte.toNat - 128 < 128 := by
          have := byte.toNat_lt
          omega
        have hgroup := WrittenGroups.more hlow hgroups
        rwa [Nat.sub_add_cancel (Nat.le_of_not_lt hlast), UInt8.ofNat_toNat] at hgroup

/-- The header of a block is read just where one is written there. -/
theorem readHeader_eq_ok_iff {block body : Bytes} {n : Nat} :
    readHeader reader block = .ok (n, body) ↔
      ∃ header, block = header ++ body ∧ WrittenHeader reader n header := by
  constructor
  · intro h
    rw [readHeader] at h
    cases hgroups : readGroups reader.headerLimit block with
    | none => simp [hgroups] at h
    | some pair =>
      obtain ⟨whole, rest⟩ := pair
      simp only [hgroups] at h
      split at h
      · cases h
      · rename_i hsize
        cases h
        obtain ⟨header, rfl, hwritten, hlength⟩ := written_of_readGroups hgroups
        exact ⟨header, rfl, ⟨whole, hwritten, rfl⟩, hlength,
          Nat.lt_succ_of_le (Nat.le_of_not_lt hsize)⟩
  · rintro ⟨header, rfl, hwritten⟩
    obtain ⟨whole, hwhole, hn⟩ := hwritten.groups
    have hgroups : readGroups reader.headerLimit (header ++ body) = some (whole, body) :=
      readGroups_of_written body hwhole hwritten.length_le
    have hsize : ¬ maxInputLength < n := Nat.not_lt.mpr (Nat.le_of_lt_succ hwritten.lt)
    simp [readHeader, hgroups, hn, hsize]

theorem WrittenGroups.closed {n : Nat} {header : Bytes} (h : WrittenGroups n header) :
    Closed header := by
  induction h with
  | @last low hlow =>
    refine ⟨[], _, rfl, by simp, ?_⟩
    rwa [Bytes.toNat_ofNat (by omega)]
  | @more low high bytes hlow _ ih =>
    have hbyte := Bytes.toNat_ofNat (show low + 128 < 256 by omega)
    exact ih.cons (by omega)

/-- A header is just what ends itself and is accepted as the declaration of a length. -/
theorem writtenHeader_iff {n : Nat} {header : Bytes} :
    WrittenHeader reader n header ↔
      Closed header ∧ (BlockCodec.snappy reader).uncompressedLength header = .ok n := by
  have hdeclared : (BlockCodec.snappy reader).uncompressedLength header = .ok n ↔
      declaredLength reader header = .ok n := mapError_eq_ok_iff
  rw [hdeclared]
  constructor
  · intro h
    have hread : readHeader reader header = .ok (n, []) :=
      readHeader_eq_ok_iff.mpr ⟨header, (List.append_nil header).symm, h⟩
    obtain ⟨whole, hwhole, -⟩ := h.groups
    exact ⟨hwhole.closed, declaredLength_of_readHeader hread⟩
  · rintro ⟨hclosed, hlength⟩
    have hbody := hclosed.bodyOf_append []
    rw [List.append_nil] at hbody
    cases hheader : readHeader reader header with
    | error fault =>
      cases header with
      | nil => cases hbody
      | cons byte rest => simp [declaredLength, hheader, Except.map] at hlength
    | ok pair =>
      obtain ⟨found, body⟩ := pair
      rw [declaredLength_of_readHeader hheader] at hlength
      cases hlength
      rw [bodyOf_of_readHeader hheader] at hbody
      cases hbody
      obtain ⟨written, rfl, h⟩ := readHeader_eq_ok_iff.mp hheader
      rwa [List.append_nil]

/-! ## All elements -/

theorem Element.allowed_skipped_iff {declared produced : Nat} {element : Element} :
    element.skipped.Allowed declared produced ↔
      element.Reaches produced ∧ produced + element.size ≤ declared := by
  cases element <;> simp [Skipped.Allowed, skipped, Reaches, size, Nat.one_le_iff_ne_zero,
    Nat.pos_iff_ne_zero]

/-- Past an element that it skips and lets pass, the validator goes on with the rest. -/
theorem measure_written_append {limit produced : Nat} {element : Element} {front after : Bytes}
    (h : element.Written front) (hreach : element.Reaches produced)
    (hfit : produced + element.size ≤ limit) :
    measure limit produced (front ++ after) = measure limit (produced + element.size) after := by
  obtain ⟨tag, payload, rfl⟩ := h.exists_tag
  have hskip := skipElement_of_written after h
  have hallowed := Element.allowed_skipped_iff.mpr ⟨hreach, hfit⟩
  apply Option.ext
  intro total
  rw [List.cons_append, measure_cons_eq_some_iff]
  constructor
  · rintro ⟨skipped, rest, hfound, -, htotal⟩
    rw [hskip] at hfound
    cases hfound
    rwa [Element.length_skipped] at htotal
  · intro htotal
    exact ⟨_, after, hskip, hallowed, by rwa [Element.length_skipped]⟩

/-- Past all the elements of a sequence, the validator has counted what they produce. -/
theorem measure_elements_append {limit produced : Nat} {elements : List Element} {front : Bytes}
    (after : Bytes) (h : WrittenElements elements front) (hreach : InReach produced elements)
    (hfit : produced + totalSize elements ≤ limit) :
    measure limit produced (front ++ after) = measure limit (produced + totalSize elements) after := by
  induction h generalizing produced with
  | nil => rfl
  | @cons element elements front back hwritten _ ih =>
    obtain ⟨hfirst, hrest⟩ := hreach
    rw [totalSize] at hfit ⊢
    rw [List.append_assoc, measure_written_append hwritten hfirst (by omega),
      ih hrest (by omega), Nat.add_assoc]

/-- What the validator gets to the end of is a sequence of elements. -/
theorem written_of_measure {limit produced total : Nat} {source : Bytes}
    (h : measure limit produced source = some total) :
    ∃ elements, WrittenElements elements source ∧ InReach produced elements ∧
      produced + totalSize elements = total := by
  fun_induction measure limit produced source with
  | case1 produced =>
    cases h
    exact ⟨[], .nil, trivial, rfl⟩
  | case2 => cases h
  | case3 => cases h
  | case4 => cases h
  | case5 produced tag rest skipped after hskip hreach hfit ih =>
    obtain ⟨element, payload, rfl, hwritten, rfl⟩ := written_of_skipElement hskip
    rw [Element.length_skipped] at ih h
    obtain ⟨elements, helements, hrest, htotal⟩ := ih h
    have hfirst : element.Reaches produced := by
      cases element with
      | literal data => trivial
      | copy offset length =>
        simp only [Element.skipped, Option.any_some, decide_eq_true_eq] at hreach
        exact ⟨by omega, by omega⟩
    refine ⟨element :: elements, .cons hwritten helements, ⟨hfirst, hrest⟩, ?_⟩
    rw [totalSize, ← htotal, Nat.add_assoc]

/-! ## Whole blocks -/

theorem isValid_iff_formed {block : Bytes} : isValid reader block = true ↔ Formed reader block := by
  constructor
  · intro h
    cases hheader : readHeader reader block with
    | error fault =>
      rw [isValid_of_readHeader_error hheader] at h
      cases h
    | ok pair =>
      obtain ⟨n, body⟩ := pair
      obtain ⟨elements, helements, hreach, htotal⟩ :=
        written_of_measure ((isValid_of_readHeader hheader).mp h)
      obtain ⟨header, rfl, hwritten⟩ := readHeader_eq_ok_iff.mp hheader
      rw [Nat.zero_add] at htotal
      subst htotal
      refine ⟨?_, header, body, elements, rfl, hwritten, helements, hreach⟩
      intro hempty
      rw [hempty, readHeader_nil] at hheader
      cases hheader
  · intro h
    obtain ⟨header, body, elements, rfl, hwritten, helements, hreach⟩ := h.splits
    have hheader : readHeader reader (header ++ body) = .ok (totalSize elements, body) :=
      readHeader_eq_ok_iff.mpr ⟨header, rfl, hwritten⟩
    rw [isValid_of_readHeader hheader]
    have hmeasure := @measure_elements_append (totalSize elements) 0 elements body [] helements hreach
      (by omega)
    rwa [List.append_nil, measure_nil, Nat.zero_add] at hmeasure

end Snappy

/-- **The validator accepts the grammar of the format, no more and no less**, whatever the release that
reads the header: a header and elements, each in one of its forms, that reach back to no place before
the start and produce together just the length in the header. What the grammar takes for a header is
what ends itself and declares a length. -/
theorem BlockCodec.snappy_isValid_iff_formed (reader : Snappy.Reader) :
    (∀ block, (snappy reader).isValid block = true ↔ Snappy.Formed reader block) ∧
      ∀ n header, Snappy.WrittenHeader reader n header ↔
        Snappy.Closed header ∧ (snappy reader).uncompressedLength header = .ok n :=
  ⟨fun _ => Snappy.isValid_iff_formed, fun _ _ => Snappy.writtenHeader_iff⟩

-- a header of six bytes
example : (BlockCodec.snappy .former).isValid [0x80, 0x80, 0x80, 0x80, 0x80, 0] = true ∧
    (BlockCodec.snappy .current).isValid [0x80, 0x80, 0x80, 0x80, 0x80, 0] = false := by
  constructor <;> cbv

end BufferBridge
