import BufferBridge.Proofs.Bytes
import BufferBridge.Snappy.Grammar
import BufferBridge.Snappy.Validator

/-!
# One element, skipped

The validator skips an element just where one is written, in whichever of its forms, and whatever
follows it.
-/
namespace BufferBridge.Snappy

/-! ## Skipping by the class of a tag -/

theorem skipData_eq_some_iff {length : Nat} {source after : Bytes} {skipped : Skipped} :
    skipData length source = some (skipped, after) ↔
      (∃ data, Bytes.split? length source = some (data, after)) ∧ skipped = ⟨length, none⟩ := by
  rw [skipData]
  cases hs : Bytes.split? length source with
  | none => simp
  | some pair =>
    obtain ⟨data, rest⟩ := pair
    constructor
    · intro h
      cases h
      exact ⟨⟨data, rfl⟩, rfl⟩
    · intro h
      obtain ⟨⟨found, hfound⟩, rfl⟩ := h
      cases hfound
      rfl

/-! The validator takes the bytes of an offset one by one, the decoder cuts them out. -/

theorem skipElement_literal {tag : UInt8} (source : Bytes) (h : tag.toNat % 4 = 0) :
    skipElement tag source =
      if tag.toNat / 4 < 60 then skipData (tag.toNat / 4 + 1) source
      else (Bytes.split? (tag.toNat / 4 - 59) source).bind fun (digits, rest) =>
        skipData (Bytes.littleEndian digits + 1) rest := by
  simp only [skipElement, h]
  rfl

theorem skipElement_nearCopy {tag : UInt8} (source : Bytes) (h : tag.toNat % 4 = 1) :
    skipElement tag source = (Bytes.split? 1 source).map fun (digits, rest) =>
      (⟨4 + tag.toNat / 4 % 8, some (Bytes.littleEndian digits + tag.toNat / 32 * 256)⟩, rest) := by
  simp only [skipElement, h]
  rw [show tag.toNat / 32 = tag.toNat / 4 / 8 from by omega]
  match source with
  | [] => rfl
  | low :: rest =>
    have hsum : tag.toNat / 4 / 8 * 256 + low.toNat =
        Bytes.littleEndian [low] + tag.toNat / 4 / 8 * 256 := by
      simp only [Bytes.littleEndian]
      omega
    simp only [hsum]
    rfl

theorem skipElement_farCopy {tag : UInt8} (source : Bytes) (h : tag.toNat % 4 = 2) :
    skipElement tag source = (Bytes.split? 2 source).map fun (digits, rest) =>
      (⟨tag.toNat / 4 + 1, some (Bytes.littleEndian digits + 0)⟩, rest) := by
  simp only [skipElement, h]
  match source with
  | [] | [_] => rfl
  | _ :: _ :: _ => rfl

theorem skipElement_wideCopy {tag : UInt8} (source : Bytes) (h : tag.toNat % 4 = 3) :
    skipElement tag source = (Bytes.split? 4 source).map fun (digits, rest) =>
      (⟨tag.toNat / 4 + 1, some (Bytes.littleEndian digits + 0)⟩, rest) := by
  simp only [skipElement, h]
  match source with
  | [] | [_] | [_, _] | [_, _, _] => rfl
  | _ :: _ :: _ :: _ :: _ => rfl

/-- A copy that has its offset in bytes of its own, be it two or four. -/
theorem skipElement_copy {tag : UInt8} {width : Nat} {source : Bytes}
    (h : tag.toNat % 4 = 2 ∧ width = 2 ∨ tag.toNat % 4 = 3 ∧ width = 4) :
    skipElement tag source = (Bytes.split? width source).map fun (digits, rest) =>
      (⟨tag.toNat / 4 + 1, some (Bytes.littleEndian digits + 0)⟩, rest) := by
  rcases h with ⟨hclass, rfl⟩ | ⟨hclass, rfl⟩
  · exact skipElement_farCopy source hclass
  · exact skipElement_wideCopy source hclass

/-! ## Forms of an element -/

/-- What the validator knows of an element. -/
def Element.skipped : Element → Skipped
  | literal data => ⟨data.length, none⟩
  | copy offset length => ⟨length, some offset⟩

@[simp] theorem Element.length_skipped (element : Element) : element.skipped.length = element.size := by
  cases element <;> rfl

theorem Element.Written.exists_tag {element : Element} {written : Bytes} (h : element.Written written) :
    ∃ tag payload, written = tag :: payload := by
  cases h <;> exact ⟨_, _, rfl⟩

theorem Element.Written.size_pos {element : Element} {written : Bytes} (h : element.Written written) :
    0 < element.size := by
  cases h <;> simp only [Element.size] <;> omega

theorem skipData_append (data after : Bytes) :
    skipData data.length (data ++ after) = some (⟨data.length, none⟩, after) := by
  simp [skipData, Bytes.split?_append]

/-! ### What is written is skipped -/

theorem skipElement_shortLiteral {data : Bytes} (hpos : 0 < data.length) (hlength : data.length ≤ 60)
    (after : Bytes) :
    skipElement (UInt8.ofNat (4 * (data.length - 1))) (data ++ after) =
      some ((Element.literal data).skipped, after) := by
  have htag := Bytes.toNat_ofNat (show 4 * (data.length - 1) < 256 by omega)
  have hcode : 4 * (data.length - 1) / 4 + 1 = data.length := by omega
  rw [skipElement_literal _ (by omega), htag, if_pos (by omega), hcode]
  exact skipData_append data after

theorem skipElement_longLiteral {data : Bytes} {width : Nat} (hpos : 0 < data.length)
    (hwidth : 0 < width) (hwide : width ≤ 4) (hlength : data.length ≤ Nat.pow 256 width)
    (after : Bytes) :
    skipElement (UInt8.ofNat (4 * (59 + width)))
        (Bytes.ofNatLittleEndian width (data.length - 1) ++ data ++ after) =
      some ((Element.literal data).skipped, after) := by
  have htag := Bytes.toNat_ofNat (show 4 * (59 + width) < 256 by omega)
  have hcode : 4 * (59 + width) / 4 - 59 = width := by omega
  have hdigits := Bytes.split?_append (Bytes.ofNatLittleEndian width (data.length - 1)) (data ++ after)
  rw [Bytes.length_ofNatLittleEndian] at hdigits
  have hvalue : Bytes.littleEndian (Bytes.ofNatLittleEndian width (data.length - 1)) + 1 =
      data.length := by
    rw [Bytes.littleEndian_ofNatLittleEndian (by omega)]
    omega
  rw [skipElement_literal _ (by omega), htag, if_neg (by omega), hcode, List.append_assoc, hdigits]
  simp only [Option.bind_some, hvalue]
  exact skipData_append data after

theorem skipElement_near {offset length : Nat} (hoffset : offset < 2048) (hpos : 4 ≤ length)
    (hlength : length ≤ 11) (after : Bytes) :
    skipElement (UInt8.ofNat (32 * (offset / 256) + 4 * (length - 4) + 1))
        (UInt8.ofNat offset :: after) =
      some ((Element.copy offset length).skipped, after) := by
  have htag := Bytes.toNat_ofNat (show 32 * (offset / 256) + 4 * (length - 4) + 1 < 256 by omega)
  have hlow : (UInt8.ofNat offset).toNat = offset % 256 := UInt8.toNat_ofNat'
  rw [skipElement_nearCopy _ (by omega), htag]
  simp only [Bytes.split?, List.take, List.length_singleton, List.drop, if_pos, Option.map_some,
    Bytes.littleEndian, hlow, Element.skipped, Option.some.injEq, Prod.mk.injEq, Skipped.mk.injEq,
    and_true]
  omega

/-- A copy that has its offset in bytes of its own, be it two or four. -/
theorem skipElement_offset {tag : UInt8} {width offset length : Nat}
    (hclass : tag.toNat % 4 = 2 ∧ width = 2 ∨ tag.toNat % 4 = 3 ∧ width = 4)
    (hlength : tag.toNat / 4 + 1 = length) (hoffset : offset < Nat.pow 256 width) (after : Bytes) :
    skipElement tag (Bytes.ofNatLittleEndian width offset ++ after) =
      some ((Element.copy offset length).skipped, after) := by
  have hdigits := Bytes.split?_append (Bytes.ofNatLittleEndian width offset) after
  rw [Bytes.length_ofNatLittleEndian] at hdigits
  rw [skipElement_copy hclass, hdigits]
  simp [Bytes.littleEndian_ofNatLittleEndian hoffset, hlength, Element.skipped]

/-- The validator skips every form of an element, whatever follows it. -/
theorem skipElement_of_written {element : Element} {tag : UInt8} {payload : Bytes} (after : Bytes)
    (h : element.Written (tag :: payload)) :
    skipElement tag (payload ++ after) = some (element.skipped, after) := by
  cases h with
  | shortLiteral hpos hlength => exact skipElement_shortLiteral hpos hlength after
  | longLiteral hpos hwidth hwide hlength =>
    exact skipElement_longLiteral hpos hwidth hwide hlength after
  | nearCopy hoffset hpos hlength => exact skipElement_near hoffset hpos hlength after
  | @farCopy offset length hoffset hpos hlength =>
    have htag := Bytes.toNat_ofNat (show 4 * (length - 1) + 2 < 256 by omega)
    exact skipElement_offset (.inl ⟨by omega, rfl⟩) (by omega) hoffset after
  | @wideCopy offset length hoffset hpos hlength =>
    have htag := Bytes.toNat_ofNat (show 4 * (length - 1) + 3 < 256 by omega)
    exact skipElement_offset (.inr ⟨by omega, rfl⟩) (by omega) hoffset after

/-! ### What is skipped is written -/

/-- What is cut off the front for a number is that number as written. -/
theorem eq_ofNatLittleEndian_of_split? {width : Nat} {source digits after : Bytes}
    (h : Bytes.split? width source = some (digits, after)) :
    digits = Bytes.ofNatLittleEndian width (Bytes.littleEndian digits) ∧
      Bytes.littleEndian digits < Nat.pow 256 width ∧ source = digits ++ after := by
  obtain ⟨rfl, hsource⟩ := Bytes.split?_eq_some h
  exact ⟨(Bytes.ofNatLittleEndian_littleEndian digits).symm, Bytes.littleEndian_lt digits, hsource⟩

/-- Behind a tag stands the rest of an element that is skipped so, and then `after`. -/
def OpensElement (tag : UInt8) (source : Bytes) (skipped : Skipped) (after : Bytes) : Prop :=
  ∃ (element : Element) (payload : Bytes), source = payload ++ after ∧
    element.Written (tag :: payload) ∧ skipped = element.skipped

section

variable {tag : UInt8} {source after : Bytes} {skipped : Skipped}

theorem eq_ofNat_of_toNat {n : Nat} (h : n = tag.toNat) : tag = UInt8.ofNat n := by
  rw [h, UInt8.ofNat_toNat]

theorem opensElement_literal (hclass : tag.toNat % 4 = 0)
    (h : skipElement tag source = some (skipped, after)) : OpensElement tag source skipped after := by
  have htag := tag.toNat_lt
  rw [skipElement_literal _ hclass] at h
  split at h
  · rename_i hshort
    obtain ⟨⟨data, hs⟩, rfl⟩ := skipData_eq_some_iff.mp h
    obtain ⟨hlength, rfl⟩ := Bytes.split?_eq_some hs
    refine ⟨.literal data, data, rfl, ?_, by rw [Element.skipped, hlength]⟩
    rw [@eq_ofNat_of_toNat tag (4 * (data.length - 1)) (by omega)]
    exact .shortLiteral (by omega) (by omega)
  · rename_i hlong
    obtain ⟨⟨digits, rest⟩, hdigits, hskip⟩ := Option.bind_eq_some_iff.mp h
    obtain ⟨⟨data, hs⟩, rfl⟩ := skipData_eq_some_iff.mp hskip
    obtain ⟨hlength, rfl⟩ := Bytes.split?_eq_some hs
    obtain ⟨hwritten, hlt, rfl⟩ := eq_ofNatLittleEndian_of_split? hdigits
    refine ⟨.literal data, digits ++ data, (List.append_assoc ..).symm, ?_,
      by rw [Element.skipped, hlength]⟩
    rw [@eq_ofNat_of_toNat tag (4 * (59 + (tag.toNat / 4 - 59))) (by omega), hwritten,
      show Bytes.littleEndian digits = data.length - 1 by omega]
    exact .longLiteral (by omega) (by omega) (by omega) (by omega)

theorem opensElement_nearCopy (hclass : tag.toNat % 4 = 1)
    (h : skipElement tag source = some (skipped, after)) : OpensElement tag source skipped after := by
  have htag := tag.toNat_lt
  rw [skipElement_nearCopy _ hclass] at h
  obtain ⟨⟨digits, rest⟩, hdigits, hpair⟩ := Option.map_eq_some_iff.mp h
  cases hpair
  obtain ⟨hwritten, hlt, rfl⟩ := eq_ofNatLittleEndian_of_split? hdigits
  have hbyte : Bytes.littleEndian digits < 256 := hlt
  let offset := Bytes.littleEndian digits + tag.toNat / 32 * 256
  have hlow : [UInt8.ofNat offset] = digits := by
    rw [hwritten]
    simp only [Bytes.ofNatLittleEndian, List.cons.injEq, and_true]
    apply UInt8.toNat_inj.mp
    simp only [UInt8.toNat_ofNat', offset]
    omega
  have hform : (Element.copy offset (4 + tag.toNat / 4 % 8)).Written _ :=
    .nearCopy (by simp only [offset]; omega) (by omega) (by omega)
  rw [← @eq_ofNat_of_toNat tag _ (by simp only [offset]; omega), hlow] at hform
  exact ⟨_, digits, rfl, hform, rfl⟩

theorem opensElement_offset {width : Nat}
    (hclass : tag.toNat % 4 = 2 ∧ width = 2 ∨ tag.toNat % 4 = 3 ∧ width = 4)
    (h : skipElement tag source = some (skipped, after)) : OpensElement tag source skipped after := by
  have htag := tag.toNat_lt
  rw [skipElement_copy hclass] at h
  obtain ⟨⟨digits, rest⟩, hdigits, hpair⟩ := Option.map_eq_some_iff.mp h
  cases hpair
  obtain ⟨hwritten, hlt, rfl⟩ := eq_ofNatLittleEndian_of_split? hdigits
  have hform : (Element.copy (Bytes.littleEndian digits) (tag.toNat / 4 + 1)).Written
      (tag :: Bytes.ofNatLittleEndian width (Bytes.littleEndian digits)) := by
    rcases hclass with ⟨hclass, rfl⟩ | ⟨hclass, rfl⟩
    · have hform := @Element.Written.farCopy _ (tag.toNat / 4 + 1) hlt (by omega) (by omega)
      rwa [← @eq_ofNat_of_toNat tag _ (by omega)] at hform
    · have hform := @Element.Written.wideCopy _ (tag.toNat / 4 + 1) hlt (by omega) (by omega)
      rwa [← @eq_ofNat_of_toNat tag _ (by omega)] at hform
  rw [← hwritten] at hform
  exact ⟨_, digits, rfl, hform, rfl⟩

end

/-- What the validator skips is a form of an element. -/
theorem written_of_skipElement {tag : UInt8} {source after : Bytes} {skipped : Skipped}
    (h : skipElement tag source = some (skipped, after)) : OpensElement tag source skipped after := by
  rcases show tag.toNat % 4 = 0 ∨ tag.toNat % 4 = 1 ∨ tag.toNat % 4 = 2 ∨ tag.toNat % 4 = 3 from by
    omega with hclass | hclass | hclass | hclass
  · exact opensElement_literal hclass h
  · exact opensElement_nearCopy hclass h
  · exact opensElement_offset (.inl ⟨hclass, rfl⟩) h
  · exact opensElement_offset (.inr ⟨hclass, rfl⟩) h

end BufferBridge.Snappy
