import BufferBridge.Proofs.Decompression
import BufferBridge.Proofs.Separation
import BufferBridge.Proofs.Snappy.Prefix

/-!
# What a corrupt block is told as

A block that cannot be decompressed promises a length all the same, as often as not one that no buffer
could hold. Whatever it promises, it is told as corrupt, and windows that are too small are told of
only where the block is sound.
-/
namespace BufferBridge.Dispatch

open Op (Ensures)

variable {codec : BlockCodec} {input output : Buffer} {window : Window} {offset length : Nat}
variable {host middle : Host} {src dst : Guard} {source : Region} {failure : Failure}

/-! ## Blocks that do not get as far as the codec -/

/-- A header that cannot be read is the end of it, in the words of a failure to decompress. -/
theorem uncompress_of_header (hresolve : resolvePair input output host = (.ok (src, dst), middle))
    (hspan : src.span window = .ok source)
    (hheader : (codec.uncompressedLength (host.memory.read source)).mapError
      Failure.whileUncompressing = .error failure) :
    (uncompress codec input window output offset host).1 = .error failure := by
  refine withPair_of_resolvePair (fun result _ => result = .error failure) hresolve fun _ _ => ?_
  exact .bind_ok hspan (.bind_read (.bind_note (.bind_error hheader rfl)))

/-- Where the declared length does not fit, the block is looked at before the windows are. -/
theorem uncompress_of_not_fitting
    (hresolve : resolvePair input output host = (.ok (src, dst), middle))
    (hspan : src.span window = .ok source)
    (hlength : codec.uncompressedLength (host.memory.read source) = .ok length)
    (hfits : ¬ offset + length ≤ dst.capacity)
    (hsplit : splitWindows src window dst ⟨offset, length⟩ = .error failure) :
    (uncompress codec input window output offset host).1 =
      .error (if codec.isValid (host.memory.read source) then failure
        else .codec .uncompress (.corruptDeclaring length)) := by
  refine withPair_of_resolvePair (fun result _ => result =
    .error (if codec.isValid (host.memory.read source) then failure
      else .codec .uncompress (.corruptDeclaring length))) hresolve fun _ _ => ?_
  refine .bind_ok hspan (.bind_read (.bind_note (.bind_ok (mapError_eq_ok_iff.mpr hlength) ?_)))
  extract_lets target fits decode
  have hnot : fits = false := by
    cases hcheck : target.checkWithin dst.capacity with
    | ok _ => exact absurd (Window.checkWithin_eq_ok_iff.mp hcheck).2 hfits
    | error refusal =>
      simp only [fits, hcheck]
      rfl
  simp only [hnot, decode, Bool.not_false, Bool.true_and, if_true]
  refine .bind_note ?_
  cases hvalid : codec.isValid (host.memory.read source) with
  | false => exact .fail rfl
  | true => exact .bind_error hsplit rfl

/-! ## Attempts on a block -/

/-- An attempt to decompress where all is well but, maybe, the block itself and the room for what it
declares: the buffers can be had, the source window lies in its buffer, the output may be written, and
where the output window fits, it shares no byte with the source window. -/
structure Attempt (reader : Snappy.Reader) (input : Buffer) (window : Window) (output : Buffer)
    (offset : Nat) (host : Host) (block : Bytes) : Prop where
  lends : host.Lends input output
  source_size : input.region.length ≤ maxSize
  source_within : window.offset + window.length ≤ input.region.length
  target_size : output.region.length ≤ maxSize
  writable : output.writable = true
  read_eq : host.memory.read (input.region.part window.offset window.length) = block
  disjoint : ∀ length, (BlockCodec.snappy reader).uncompressedLength block = .ok length →
    offset + length ≤ output.region.length →
    ∀ position place, (input.region.part window.offset window.length).Covers position place →
      ¬ (output.region.part offset length).Covers position place

namespace Attempt

variable {reader : Snappy.Reader} {block : Bytes}

/-- With the room for the declared length, all is ready. -/
theorem ready (h : Attempt reader input window output offset host block)
    (hlength : (BlockCodec.snappy reader).uncompressedLength block = .ok length)
    (hfits : offset + length ≤ output.region.length) :
    Ready input window output ⟨offset, length⟩ host where
  resolved := h.lends
  source_size := h.source_size
  source_within := h.source_within
  target_size := h.target_size
  target_within := hfits
  disjoint := Region.overlaps_eq_false_iff.mpr (h.disjoint length hlength hfits)
  writable := h.writable

/-- Without that room, it depends on the block what is to blame. -/
theorem uncompress_of_too_long (h : Attempt reader input window output offset host block)
    (hlength : (BlockCodec.snappy reader).uncompressedLength block = .ok length)
    (hfits : ¬ offset + length ≤ output.region.length) :
    ∃ cause, (uncompress (.snappy reader) input window output offset host).1 =
      .error (if (BlockCodec.snappy reader).isValid block then .invalid cause
        else .codec .uncompress (.corruptDeclaring length)) := by
  obtain ⟨src, dst, middle, hresolve, hsrc, hdst⟩ := h.lends.guards
  have hspan := hsrc.span_of_within h.source_size h.source_within
  obtain rfl := h.read_eq
  rw [← hdst.capacity_eq] at hfits
  have hnot : ¬ src.Separate dst window ⟨offset, length⟩ := fun hseparate =>
    hfits hseparate.target_within
  obtain ⟨cause, hsplit⟩ := splitWindows_of_not_separate hnot
  exact ⟨cause, uncompress_of_not_fitting hresolve hspan hlength hfits hsplit⟩

theorem uncompress_of_invalid (h : Attempt reader input window output offset host block)
    (hinvalid : (BlockCodec.snappy reader).isValid block = false) :
    ∃ cause, (uncompress (.snappy reader) input window output offset host).1 =
      .error (.codec .uncompress cause) := by
  cases hheader : ((BlockCodec.snappy reader).uncompressedLength block).mapError Failure.whileUncompressing with
  | error failure =>
    obtain ⟨src, dst, middle, hresolve, hsrc, -⟩ := h.lends.guards
    have hspan := hsrc.span_of_within h.source_size h.source_within
    obtain rfl := h.read_eq
    obtain ⟨cause, rfl⟩ := BlockCodec.snappy_declaredLength_eq_error hheader
    exact ⟨cause, uncompress_of_header hresolve hspan hheader⟩
  | ok length =>
    have hlength := mapError_eq_ok_iff.mp hheader
    by_cases hfits : offset + length ≤ output.region.length
    · obtain ⟨src, dst, middle, hresolve, hsrc, hdst⟩ := h.lends.guards
      have hsplit := (h.ready hlength hfits).splitWindows hsrc hdst
      obtain rfl := h.read_eq
      obtain ⟨cause, hresult⟩ := (BlockCodec.snappy_rejects hinvalid).into length
      refine ⟨cause, ?_⟩
      rw [(uncompress_of_splitWindows hresolve hlength hsplit).1, hresult]
      rfl
    · obtain ⟨_, hresult⟩ := h.uncompress_of_too_long hlength hfits
      rw [hinvalid] at hresult
      exact ⟨.corruptDeclaring length, hresult⟩

theorem uncompress_of_fitting (h : Attempt reader input window output offset host block)
    (hvalid : (BlockCodec.snappy reader).isValid block = true)
    (hroomy : ¬ Snappy.Cramped reader.lookAhead block)
    (hlength : (BlockCodec.snappy reader).uncompressedLength block = .ok length)
    (hfits : offset + length ≤ output.region.length) :
    (uncompress (.snappy reader) input window output offset host).1 = .ok length := by
  obtain ⟨result, hdecodes⟩ := Snappy.decodes_iff.mpr ⟨hvalid, hroomy⟩
  obtain rfl : result.length = length :=
    Except.ok.inj ((BlockCodec.snappy_uncompressedLength hdecodes).symm.trans hlength)
  exact uncompress_of_decodes hdecodes h.read_eq (h.ready hlength hfits)

theorem uncompress_of_cramped (h : Attempt reader input window output offset host block)
    (hvalid : (BlockCodec.snappy reader).isValid block = true)
    (hcramped : Snappy.Cramped reader.lookAhead block)
    (hlength : (BlockCodec.snappy reader).uncompressedLength block = .ok length)
    (hfits : offset + length ≤ output.region.length) :
    ∃ cause, (uncompress (.snappy reader) input window output offset host).1 =
      .error (.codec .uncompress cause) := by
  obtain ⟨left, room, -, hresult⟩ := BlockCodec.snappy_uncompress_of_cramped hvalid hcramped hlength
  rw [uncompress_of_ready hlength h.read_eq (h.ready hlength hfits), hresult]
  exact ⟨_, rfl⟩

end Attempt

/-- **A corrupt block is told as corrupt.** Whatever length it declares, wherever its output would go and
whether or not there is room for it, a block that is not valid ends an attempt as a failure to decompress.
The arguments are to blame just where the block is valid and what it declares reaches past the end of the
output; where it does not, a valid block is decompressed, unless it is cramped for the release. -/
theorem uncompress_reports_corruption {reader : Snappy.Reader} {block : Bytes}
    (h : Attempt reader input window output offset host block) :
    ((BlockCodec.snappy reader).isValid block = false →
      ∃ failure, (uncompress (.snappy reader) input window output offset host).1 = .error failure ∧
        (∃ cause, failure = .codec .uncompress cause) ∧ failure.code.id = 5) ∧
    ((∃ cause, (uncompress (.snappy reader) input window output offset host).1 =
        .error (.invalid cause)) ↔
      (BlockCodec.snappy reader).isValid block = true ∧
        ∃ length, (BlockCodec.snappy reader).uncompressedLength block = .ok length ∧
          output.region.length < offset + length) ∧
    ∀ length, (uncompress (.snappy reader) input window output offset host).1 = .ok length ↔
      ((BlockCodec.snappy reader).isValid block = true ∧ ¬ Snappy.Cramped reader.lookAhead block) ∧
        (BlockCodec.snappy reader).uncompressedLength block = .ok length ∧
          offset + length ≤ output.region.length := by
  cases hvalid : (BlockCodec.snappy reader).isValid block with
  | false =>
    obtain ⟨cause, hresult⟩ := h.uncompress_of_invalid hvalid
    rw [hresult]
    refine ⟨fun _ => ⟨_, rfl, ⟨cause, rfl⟩, rfl⟩, ?_, ?_⟩
    · simp
    · simp
  | true =>
    obtain ⟨declared, hdeclared⟩ := Snappy.declaredLength_of_isValid hvalid
    have hlength : (BlockCodec.snappy reader).uncompressedLength block = .ok declared :=
      mapError_eq_ok_iff.mpr hdeclared
    rw [hlength]
    by_cases hfits : offset + declared ≤ output.region.length
    · by_cases hcramped : Snappy.Cramped reader.lookAhead block
      · obtain ⟨cause, hresult⟩ := h.uncompress_of_cramped hvalid hcramped hlength hfits
        rw [hresult]
        refine ⟨nofun, ?_, ?_⟩
        · simp [hfits]
        · simp [hcramped]
      · rw [h.uncompress_of_fitting hvalid hcramped hlength hfits]
        refine ⟨nofun, ?_, ?_⟩
        · simp [hfits]
        · intro length
          constructor
          · intro hok
            obtain rfl : declared = length := Except.ok.inj hok
            exact ⟨⟨rfl, hcramped⟩, rfl, hfits⟩
          · intro hok
            exact hok.2.1
    · obtain ⟨cause, hresult⟩ := h.uncompress_of_too_long hlength hfits
      rw [hvalid, if_pos rfl] at hresult
      rw [hresult]
      refine ⟨nofun, ?_, ?_⟩
      · simp [Nat.not_le.mp hfits]
      · intro length
        constructor
        · intro hok
          cases hok
        · intro hok
          obtain ⟨-, hsame, hroom⟩ := hok
          obtain rfl : declared = length := Except.ok.inj hsame
          exact absurd hroom hfits

/-- A block that declares four bytes and holds a copy of what is not there. -/
def hollow : Bytes := [4, 1, 1]

/-- A host whose memory is a corrupt block, a sound one and eight zeros. -/
def shelfHost : Host where
  memory := ⟨[hollow ++ doubled ++ List.replicate 8 0]⟩

/-- The two blocks. -/
def shelf : Buffer where
  id := 0
  storage := .heap
  region := ⟨0, 0, 11⟩

/-- The zeros behind them. -/
def shelfRoom : Buffer where
  id := 1
  storage := .direct
  region := ⟨0, 11, 8⟩

theorem attempt_shelf {block : Bytes} (hwithin : window.offset + window.length ≤ 11)
    (hread : shelfHost.memory.read (shelf.region.part window.offset window.length) = block) :
    Attempt .current shelf window shelfRoom offset shelfHost block where
  lends := ⟨_, _, _, rfl⟩
  source_size := by decide
  source_within := hwithin
  target_size := by decide
  writable := rfl
  read_eq := hread
  disjoint := by
    -- the blocks end where the zeros begin
    intro length _ _ position place hsource htarget
    simp only [Region.covers_part, shelf, shelfRoom] at hsource htarget
    omega

/-- The corrupt block is told as such where the four bytes would fit and where no machine word holds the
end of its output. The sound one is not to blame where there is one byte too few. -/
theorem uncompress_reports_corruption_hollow :
    Attempt .current shelf ⟨0, 3⟩ shelfRoom 0 shelfHost hollow ∧
      Attempt .current shelf ⟨0, 3⟩ shelfRoom maxSize shelfHost hollow ∧
      Attempt .current shelf ⟨3, 8⟩ shelfRoom 1 shelfHost doubled ∧
      (∃ failure, (uncompress .snappy shelf ⟨0, 3⟩ shelfRoom 0 shelfHost).1 = .error failure ∧
        (∃ cause, failure = .codec .uncompress cause) ∧ failure.code.id = 5) ∧
      (∃ failure, (uncompress .snappy shelf ⟨0, 3⟩ shelfRoom maxSize shelfHost).1 = .error failure ∧
        (∃ cause, failure = .codec .uncompress cause) ∧ failure.code.id = 5) ∧
      (∃ cause, (uncompress .snappy shelf ⟨3, 8⟩ shelfRoom 1 shelfHost).1 = .error (.invalid cause)) := by
  have hfits : Attempt .current shelf ⟨0, 3⟩ shelfRoom 0 shelfHost hollow := attempt_shelf (by decide) rfl
  have hlast : Attempt .current shelf ⟨0, 3⟩ shelfRoom maxSize shelfHost hollow := attempt_shelf (by decide) rfl
  have hsmall : Attempt .current shelf ⟨3, 8⟩ shelfRoom 1 shelfHost doubled := attempt_shelf (by decide) rfl
  have hinvalid : BlockCodec.snappy.isValid hollow = false := by cbv
  have hvalid : BlockCodec.snappy.isValid doubled = true := by cbv
  refine ⟨hfits, hlast, hsmall, ?_, ?_, ?_⟩
  · exact (uncompress_reports_corruption hfits).1 hinvalid
  · exact (uncompress_reports_corruption hlast).1 hinvalid
  · exact (uncompress_reports_corruption hsmall).2.1.mpr ⟨hvalid, 8, rfl, by decide⟩

end BufferBridge.Dispatch
