import BufferBridge.Proofs.Snappy.Acceptance
import BufferBridge.Proofs.Snappy.Grammar

/-!
# Cut and prolonged blocks

No valid block is the front of another one. The elements of a valid block fill the declared length, and
every element produces something, so nothing can follow them.
-/
namespace BufferBridge

variable {reader : Snappy.Reader}

namespace Snappy

/-- Where the limit is reached, no element passes any more. -/
theorem measure_full_cons (limit : Nat) (tag : UInt8) (rest : Bytes) :
    measure limit limit (tag :: rest) = none := by
  cases hmeasure : measure limit limit (tag :: rest) with
  | none => rfl
  | some total =>
    obtain ⟨skipped, after, hskip, ⟨-, hfit⟩, -⟩ := measure_cons_eq_some_iff.mp hmeasure
    obtain ⟨element, payload, -, hwritten, rfl⟩ := written_of_skipElement hskip
    have hpos := hwritten.size_pos
    rw [Element.length_skipped] at hfit
    omega

/-- Elements that fill the limit are followed by none. -/
theorem eq_nil_of_measure_append {limit produced : Nat} {front rest : Bytes}
    (hfront : measure limit produced front = some limit)
    (hall : measure limit produced (front ++ rest) = some limit) : rest = [] := by
  obtain ⟨elements, helements, hreach, htotal⟩ := written_of_measure hfront
  rw [measure_elements_append rest helements hreach (by omega), htotal] at hall
  cases rest with
  | nil => rfl
  | cons tag rest =>
    rw [measure_full_cons] at hall
    cases hall

/-- A header is read from the front of a block, whatever follows. -/
theorem readHeader_append {block body : Bytes} {n : Nat} (h : readHeader reader block = .ok (n, body))
    (rest : Bytes) : readHeader reader (block ++ rest) = .ok (n, body ++ rest) := by
  obtain ⟨header, rfl, hwritten⟩ := readHeader_eq_ok_iff.mp h
  exact readHeader_eq_ok_iff.mpr ⟨header, List.append_assoc .., hwritten⟩

theorem eq_nil_of_isValid_append {front rest : Bytes} (hfront : isValid reader front = true)
    (hall : isValid reader (front ++ rest) = true) : rest = [] := by
  cases hheader : readHeader reader front with
  | error fault =>
    rw [isValid_of_readHeader_error hheader] at hfront
    cases hfront
  | ok pair =>
    obtain ⟨n, body⟩ := pair
    rw [isValid_of_readHeader hheader] at hfront
    rw [isValid_of_readHeader (readHeader_append hheader rest)] at hall
    exact eq_nil_of_measure_append hfront hall

end Snappy

/-! ## What becomes of an invalid block -/

/-- A block that is no use: it is reported invalid, and whoever decompresses it, into an output of any
size or into bytes of its own, is told of a failure to decompress. -/
structure BlockCodec.Rejects (codec : BlockCodec) (block : Bytes) : Prop where
  invalid : codec.isValid block = false
  into : ∀ room, ∃ cause, (codec.uncompress block room).result = .error (.codec .uncompress cause)
  owned : ∃ cause, Owned.uncompressWith codec block = .error (.codec .uncompress cause)

namespace BlockCodec

/-- Whatever is wrong with a block that is decompressed, it is told as a failure to decompress. -/
theorem snappy_uncompress_eq_error {block : Bytes} {room : Nat} {failure : Failure}
    (h : ((snappy reader).uncompress block room).result = .error failure) :
    ∃ cause, failure = .codec .uncompress cause := by
  rcases hrun : Snappy.decompress reader block room with ⟨written, result⟩
  simp only [snappy, hrun] at h
  cases result with
  | error fault =>
    cases h
    exact ⟨_, rfl⟩
  | ok length =>
    change (if length ≠ room then _ else Except.ok ()) = _ at h
    split at h
    · cases h
      exact ⟨_, rfl⟩
    · cases h

/-- A header that cannot be read counts as a failure to decompress, once that was asked for. -/
theorem snappy_declaredLength_eq_error {block : Bytes} {failure : Failure}
    (h : Owned.declaredLength (snappy reader) block = .error failure) :
    ∃ cause, failure = .codec .uncompress cause := by
  change ((Snappy.declaredLength reader block).mapError _).mapError _ = _ at h
  cases hlength : Snappy.declaredLength reader block with
  | ok length =>
    rw [hlength] at h
    cases h
  | error fault =>
    rw [hlength] at h
    cases h
    exact ⟨_, rfl⟩

theorem snappy_rejects {block : Bytes} (h : (snappy reader).isValid block = false) :
    (snappy reader).Rejects block := by
  have hinto : ∀ room, ∃ cause,
      ((snappy reader).uncompress block room).result = .error (.codec .uncompress cause) := by
    intro room
    cases hresult : ((snappy reader).uncompress block room).result with
    | ok _ =>
      obtain ⟨output, hdecodes, -⟩ := snappy_uncompress_eq_ok_iff.mp hresult
      have hvalid : (snappy reader).isValid block = true := hdecodes.isValid
      rw [h] at hvalid
      cases hvalid
    | error failure =>
      obtain ⟨cause, rfl⟩ := snappy_uncompress_eq_error hresult
      exact ⟨cause, rfl⟩
  refine ⟨h, hinto, ?_⟩
  rw [Owned.uncompressWith]
  cases hlength : Owned.declaredLength (snappy reader) block with
  | error failure =>
    obtain ⟨cause, rfl⟩ := snappy_declaredLength_eq_error hlength
    exact ⟨cause, rfl⟩
  | ok length =>
    obtain ⟨cause, hcause⟩ := hinto length
    refine ⟨cause, ?_⟩
    change ((snappy reader).uncompress block length).result >>= _ = _
    rw [hcause]
    rfl

/-- **No valid block is the front of another.** So a valid block that is cut anywhere, be it between two
elements, is rejected, and so is one with more bytes behind it, be they an element. -/
theorem snappy_isValid_prefixFree {front rest : Bytes} (h : rest ≠ []) :
    ¬ ((snappy reader).isValid front = true ∧ (snappy reader).isValid (front ++ rest) = true) ∧
      ((snappy reader).isValid (front ++ rest) = true → (snappy reader).Rejects front) ∧
      ((snappy reader).isValid front = true → (snappy reader).Rejects (front ++ rest)) := by
  have hnot : ¬ ((snappy reader).isValid front = true ∧
      (snappy reader).isValid (front ++ rest) = true) := by
    intro hboth
    exact h (Snappy.eq_nil_of_isValid_append hboth.1 hboth.2)
  refine ⟨hnot, ?_, ?_⟩
  · intro hall
    apply snappy_rejects
    cases hfront : (snappy reader).isValid front with
    | false => rfl
    | true => exact absurd ⟨hfront, hall⟩ hnot
  · intro hfront
    apply snappy_rejects
    cases hall : (snappy reader).isValid (front ++ rest) with
    | false => rfl
    | true => exact absurd ⟨hfront, hall⟩ hnot

/-- A literal of four bytes and a copy of them: cut between the two, and with a literal behind them. -/
theorem snappy_isValid_prefixFree_doubled :
    snappy.isValid ([8, 12, 97, 98, 99, 100] ++ [1, 4]) = true ∧
      snappy.Rejects [8, 12, 97, 98, 99, 100] ∧
      snappy.Rejects ([8, 12, 97, 98, 99, 100, 1, 4] ++ [0, 122]) := by
  have hvalid : snappy.isValid [8, 12, 97, 98, 99, 100, 1, 4] = true := by cbv
  have hcut := @snappy_isValid_prefixFree .current [8, 12, 97, 98, 99, 100] [1, 4] (by decide)
  have hlonger := @snappy_isValid_prefixFree .current [8, 12, 97, 98, 99, 100, 1, 4] [0, 122] (by decide)
  exact ⟨hvalid, hcut.2.1 hvalid, hlonger.2.2 hvalid⟩

end BlockCodec

end BufferBridge
