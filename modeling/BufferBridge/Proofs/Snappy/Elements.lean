import BufferBridge.Proofs.Bytes
import BufferBridge.Snappy.Decoder

/-!
# Elements as written, decoded

A literal or a copy that fits the output so far decodes from its written form to itself. A long copy
is written as several, and their runs make up the long one. So the elements of a well-formed list
can be decoded one after another, whatever bytes follow them.
-/
namespace BufferBridge.Snappy

variable {reader : Reader}

/-! ## Reading one element by the class of its tag -/

theorem readElement_literal {tag : UInt8} (declared produced : Nat) (source : Bytes)
    (h : tag.toNat % 4 = 0) : readElement reader declared produced tag source =
      readLiteral reader (declared - produced) (tag.toNat / 4) source := by
  simp only [readElement, h]

theorem readElement_nearCopy {tag : UInt8} (declared produced : Nat) (source : Bytes)
    (h : tag.toNat % 4 = 1) : readElement reader declared produced tag source =
      readCopy declared produced (4 + tag.toNat / 4 % 8) 1 (tag.toNat / 32 * 256) source := by
  simp only [readElement, h]

theorem readElement_farCopy {tag : UInt8} (declared produced : Nat) (source : Bytes)
    (h : tag.toNat % 4 = 2) : readElement reader declared produced tag source =
      readCopy declared produced (tag.toNat / 4 + 1) 2 0 source := by
  simp only [readElement, h]

theorem readElement_wideCopy {tag : UInt8} (declared produced : Nat) (source : Bytes)
    (h : tag.toNat % 4 = 3) : readElement reader declared produced tag source =
      readCopy declared produced (tag.toNat / 4 + 1) 4 0 source := by
  simp only [readElement, h]

/-- With enough bytes behind its tag, the length of a literal is read from them. -/
theorem readLiteral_long {outputLeft code : Nat} {digits source : Bytes} (hlong : 60 ≤ code)
    (hwidth : digits.length = code - 59) (hahead : reader.lookAhead ≤ (digits ++ source).length) :
    readLiteral reader outputLeft code (digits ++ source) =
      takeLiteral outputLeft (Bytes.littleEndian digits + 1) source := by
  rw [readLiteral, if_neg (Nat.not_lt.mpr hlong), if_neg (Nat.not_lt.mpr hahead), ← hwidth,
    Bytes.split?_append]

theorem takeLiteral_append {outputLeft : Nat} (data after : Bytes) (h : data.length ≤ outputLeft) :
    takeLiteral outputLeft data.length (data ++ after) = .ok (.literal data, after) := by
  simp only [takeLiteral, Bytes.split?_append]
  rw [if_neg (by omega)]

theorem readCopy_append {declared produced length high offset : Nat} {digits : Bytes}
    (after : Bytes) (hvalue : Bytes.littleEndian digits + high = offset) (hpos : 0 < offset)
    (hreach : offset ≤ produced) (hfit : produced + length ≤ declared) :
    readCopy declared produced length digits.length high (digits ++ after) =
      .ok (.copy offset length, after) := by
  simp only [readCopy, Bytes.split?_append, hvalue]
  rw [if_neg (by omega), if_neg (by omega)]

/-! ## One step of decoding -/

theorem decodeElements_nil (declared : Nat) (output : Array UInt8) :
    decodeElements reader declared [] output =
      if output.size = declared then (output, .ok ())
      else (output, .error (.lengthMismatch declared output.size)) := by
  rw [decodeElements]

theorem decodeElements_cons_ok {declared : Nat} {tag : UInt8} {rest after : Bytes}
    {output : Array UInt8} {element : Element}
    (h : readElement reader declared output.size tag rest = .ok (element, after)) :
    decodeElements reader declared (tag :: rest) output =
      decodeElements reader declared after (element.appendTo output) := by
  rw [decodeElements]
  split
  · rename_i hread
    rw [h] at hread
    cases hread
  · rename_i hread
    rw [h] at hread
    cases hread
    rfl

namespace Element

theorem appendTo_literal (data : Bytes) (output : Array UInt8) :
    (literal data).appendTo output = output ++ data.toArray :=
  Array.toList_inj.mp (by simp [appendTo])

@[simp] theorem size_appendTo (element : Element) (output : Array UInt8) :
    (element.appendTo output).size = output.size + element.size := by
  cases element with
  | literal data => simp only [appendTo_literal, Array.size_append, List.size_toArray, size]
  | copy offset length => exact Bytes.size_copyBack offset length output

/-! ## The written forms -/

/-- A literal of up to 64 KiB decodes from its written form to itself. -/
theorem decode_encodeLiteral {declared : Nat} {data : Bytes} (after : Bytes) {output : Array UInt8}
    (hpos : 0 < data.length) (hlen : data.length ≤ 65536)
    (hfit : output.size + data.length ≤ declared) :
    decodeElements reader declared (encodeLiteral data ++ after) output =
      decodeElements reader declared after ((literal data).appendTo output) := by
  have htake : takeLiteral (declared - output.size) (data.length - 1 + 1) (data ++ after) =
      .ok (.literal data, after) := by
    rw [Nat.sub_add_cancel hpos]
    exact takeLiteral_append data after (by omega)
  simp only [encodeLiteral]
  split
  · rename_i hshort
    have htag := Bytes.toNat_ofNat (show (data.length - 1) * 4 < 256 by omega)
    apply decodeElements_cons_ok
    rw [readElement_literal _ _ _ (by omega), htag, Nat.mul_div_cancel _ (by decide), readLiteral,
      if_pos hshort]
    exact htake
  · rename_i hlong
    -- more bytes follow than any reader looks ahead
    have hahead : ∀ digits : Bytes, reader.lookAhead ≤ (digits ++ (data ++ after)).length := by
      intro digits
      have := reader.lookAhead_le_four
      simp only [List.length_append]
      omega
    split
    · rename_i hbyte
      apply decodeElements_cons_ok
      rw [readElement_literal _ _ _ rfl]
      show readLiteral reader _ 60 ([UInt8.ofNat (data.length - 1)] ++ (data ++ after)) = _
      rw [readLiteral_long (by decide) rfl (hahead _)]
      show takeLiteral _ ((UInt8.ofNat (data.length - 1)).toNat + 256 * 0 + 1) _ = _
      rw [Bytes.toNat_ofNat hbyte]
      exact htake
    · have hvalue : Bytes.littleEndian (Bytes.ofNatLittleEndian 2 (data.length - 1)) =
          data.length - 1 :=
        Bytes.littleEndian_ofNatLittleEndian (show data.length - 1 < 65536 by omega)
      apply decodeElements_cons_ok
      rw [readElement_literal _ _ _ rfl, List.append_eq, List.append_assoc]
      show readLiteral reader _ 61 (Bytes.ofNatLittleEndian 2 (data.length - 1) ++ (data ++ after)) = _
      rw [readLiteral_long (by decide) (Bytes.length_ofNatLittleEndian ..) (hahead _), hvalue]
      exact htake

/-- A copy of up to 64 bytes from less than 64 KiB back decodes from its three bytes to itself. -/
theorem decode_encodeFarCopy {declared offset length : Nat} (after : Bytes) {output : Array UInt8}
    (hpos : 0 < length) (hlen : length ≤ 64) (hback : 0 < offset) (hreach : offset ≤ output.size)
    (hwide : offset < 65536) (hfit : output.size + length ≤ declared) :
    decodeElements reader declared (encodeFarCopy offset length ++ after) output =
      decodeElements reader declared after ((copy offset length).appendTo output) := by
  have htag := Bytes.toNat_ofNat (show (length - 1) * 4 + 2 < 256 by omega)
  have hvalue : Bytes.littleEndian (Bytes.ofNatLittleEndian 2 offset) + 0 = offset :=
    Bytes.littleEndian_ofNatLittleEndian hwide
  have hread := readCopy_append after hvalue hback hreach hfit
  rw [Bytes.length_ofNatLittleEndian] at hread
  apply decodeElements_cons_ok
  rw [readElement_farCopy _ _ _ (by omega), htag,
    show ((length - 1) * 4 + 2) / 4 + 1 = length from by omega]
  exact hread

/-- A copy of 4 to 11 bytes from less than 2048 back decodes from its two bytes to itself. -/
theorem decode_encodeNearCopy {declared offset length : Nat} (after : Bytes) {output : Array UInt8}
    (hpos : 4 ≤ length) (hlen : length ≤ 11) (hback : 0 < offset) (hreach : offset ≤ output.size)
    (hnear : offset < 2048) (hfit : output.size + length ≤ declared) :
    decodeElements reader declared (encodeNearCopy offset length ++ after) output =
      decodeElements reader declared after ((copy offset length).appendTo output) := by
  have htag := Bytes.toNat_ofNat (show offset / 256 * 32 + (length - 4) * 4 + 1 < 256 by omega)
  have hvalue : Bytes.littleEndian [UInt8.ofNat offset] + offset / 256 * 256 = offset := by
    simp only [Bytes.littleEndian, UInt8.toNat_ofNat']
    omega
  have hread := readCopy_append after hvalue hback hreach hfit
  apply decodeElements_cons_ok
  rw [readElement_nearCopy _ _ _ (by omega), htag,
    show 4 + (offset / 256 * 32 + (length - 4) * 4 + 1) / 4 % 8 = length from by omega,
    show (offset / 256 * 32 + (length - 4) * 4 + 1) / 32 * 256 = offset / 256 * 256 from by omega]
  exact hread

/-- A copy may be written as a first part of up to 64 bytes and then the rest. Both reach equally far
back, so the rest continues the run of the first part. -/
theorem decode_encodeFarCopy_append {declared offset part length : Nat} {written : Bytes}
    (after : Bytes) {output : Array UInt8} (hpos : 0 < part) (hlen : part ≤ 64) (hle : part ≤ length)
    (hback : 0 < offset) (hreach : offset ≤ output.size) (hwide : offset < 65536)
    (hfit : output.size + length ≤ declared)
    (hrest : decodeElements reader declared (written ++ after) ((copy offset part).appendTo output) =
      decodeElements reader declared after
        ((copy offset (length - part)).appendTo ((copy offset part).appendTo output))) :
    decodeElements reader declared (encodeFarCopy offset part ++ written ++ after) output =
      decodeElements reader declared after ((copy offset length).appendTo output) := by
  rw [List.append_assoc, decode_encodeFarCopy _ hpos hlen hback hreach hwide (by omega), hrest]
  simp only [appendTo]
  rw [← Bytes.copyBack_add, Nat.add_sub_cancel' hle]

/-- A copy of any length from 4 on decodes from its written form to itself. -/
theorem decode_encodeCopy {declared offset length : Nat} (after : Bytes) {output : Array UInt8}
    (hpos : 4 ≤ length) (hback : 0 < offset) (hreach : offset ≤ output.size)
    (hwide : offset < 65536) (hfit : output.size + length ≤ declared) :
    decodeElements reader declared (encodeCopy offset length ++ after) output =
      decodeElements reader declared after ((copy offset length).appendTo output) := by
  fun_induction encodeCopy offset length generalizing output with
  | case1 length hlong ih =>
    have hpart : ((copy offset 64).appendTo output).size = output.size + 64 := size_appendTo ..
    exact decode_encodeFarCopy_append after (by decide) (by decide) (by omega) hback hreach hwide hfit
      (ih (by omega) (by omega) (by omega))
  | case2 length hlong hmiddle ih =>
    -- sixty bytes and not sixty-four, so that at least four are left for the rest
    have hpart : ((copy offset 60).appendTo output).size = output.size + 60 := size_appendTo ..
    exact decode_encodeFarCopy_append after (by decide) (by decide) (by omega) hback hreach hwide hfit
      (ih (by omega) (by omega) (by omega))
  | case3 length hlong hmiddle hnear =>
    exact decode_encodeNearCopy after hpos hnear.1 hback hreach hnear.2 hfit
  | case4 length hlong hmiddle hfar =>
    exact decode_encodeFarCopy after (by omega) (by omega) hback hreach hwide hfit

end Element

end BufferBridge.Snappy
