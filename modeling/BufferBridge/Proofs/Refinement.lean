import BufferBridge.Proofs.Decompression
import BufferBridge.Proofs.Delivery
import BufferBridge.Proofs.Snappy.Acceptance

/-!
# Buffers of the host and byte strings of the caller

Compressing and decompressing from buffer to buffer is what the same operation makes of the bytes of the
source window, put where the output offset says: it succeeds exactly where the operation on byte strings
does and the output takes the result, and what the output held before plays no part.
-/
namespace BufferBridge.Dispatch

open Op (Ensures)

variable {codec : BlockCodec} {input output : Buffer} {window : Window} {offset length : Nat}
variable {host middle : Host} {src dst : Guard}

/-! ## Decompressing -/

/-- Both windows can be carved, with room for just the length that the block in the source declares. -/
def Carves (codec : BlockCodec) (memory : Memory) (src : Guard) (window : Window) (dst : Guard)
    (target : Window) : Prop :=
  ∃ source destination, splitWindows src window dst target = .ok (source, destination) ∧
    codec.uncompressedLength (memory.read source) = .ok target.length

/-- The length that a decompression answers is one that the block declares. -/
theorem carves_of_uncompress_eq_ok
    (hresolve : resolvePair input output host = (.ok (src, dst), middle))
    (h : (uncompress codec input window output offset host).1 = .ok length) :
    Carves codec host.memory src window dst ⟨offset, length⟩ := by
  obtain ⟨hsrc, hdst⟩ := holds_of_resolvePair hresolve
  have hcarves : (uncompress codec input window output offset).Ensures host.memory fun result _ =>
      result = .ok length → Carves codec host.memory src window dst ⟨offset, length⟩ := by
    refine uncompress_ensures ?_ ?_
    · intro _ h
      cases h
    · intro declared hdeclared hcarvable hresult
      obtain ⟨_, _, rfl⟩ := map_eq_ok_iff.mp hresult
      exact ⟨_, _, (splitWindows_eq_ok_iff_carvable hsrc hdst).mpr ⟨hcarvable, rfl, rfl⟩, hdeclared⟩
  exact hcarves host rfl h

/-- Decompressing succeeds where both windows can be carved and the codec does. -/
theorem uncompress_eq_ok_iff_carved
    (hresolve : resolvePair input output host = (.ok (src, dst), middle)) :
    (uncompress codec input window output offset host).1 = .ok length ↔
      ∃ source destination,
        splitWindows src window dst ⟨offset, length⟩ = .ok (source, destination) ∧
          codec.uncompressedLength (host.memory.read source) = .ok length ∧
          (codec.uncompress (host.memory.read source) length).result = .ok () := by
  constructor
  · intro h
    obtain ⟨source, destination, hsplit, hdeclared⟩ := carves_of_uncompress_eq_ok hresolve h
    refine ⟨source, destination, hsplit, hdeclared, ?_⟩
    rw [(uncompress_of_splitWindows hresolve hdeclared hsplit).1] at h
    cases hresult : (codec.uncompress (host.memory.read source) length).result with
    | error failure =>
      rw [hresult] at h
      cases h
    | ok _ => rfl
  · intro h
    obtain ⟨source, destination, hsplit, hdeclared, hresult⟩ := h
    rw [(uncompress_of_splitWindows hresolve hdeclared hsplit).1, hresult]
    rfl

/-- **Decompressing from buffer to buffer refines decompressing a byte string.** It succeeds exactly where
the bytes of the source window decompress and the output takes the result; then the result is what
stands in the output from the offset on, and no other byte has changed. -/
theorem uncompress_refines {reader : Snappy.Reader} {block : Bytes}
    (hlends : host.Lends input output)
    (hinput : host.memory.Backs input.region) (houtput : host.memory.Backs output.region)
    (hwindow : window.offset + window.length ≤ input.region.length)
    (hblock : host.memory.read (input.region.part window.offset window.length) = block) :
    ((uncompress (.snappy reader) input window output offset host).1 = .ok length ↔
      ∃ result, Owned.uncompress block reader = .ok result ∧ result.length = length ∧
        output.Takes ⟨offset, length⟩ (input.region.part window.offset window.length)) ∧
    ((uncompress (.snappy reader) input window output offset host).1 = .ok length →
      ∃ result, Owned.uncompress block reader = .ok result ∧
        host.memory.Received (output.region.part offset length) result
          (uncompress (.snappy reader) input window output offset host).2.memory) := by
  obtain ⟨src, dst, middle, hresolve, hsrc, hdst⟩ := hlends.guards
  have hcarved := fun source destination =>
    @splitWindows_eq_ok_iff_takes input output src dst window ⟨offset, length⟩ _ _ source destination
      hsrc hdst hinput.length_le houtput.length_le
  rw [uncompress_eq_ok_iff_carved hresolve]
  subst hblock
  refine ⟨⟨?_, ?_⟩, ?_⟩
  · intro h
    obtain ⟨source, destination, hsplit, -, hresult⟩ := h
    obtain ⟨⟨-, htakes⟩, rfl, -⟩ := (hcarved _ _).mp hsplit
    obtain ⟨result, hdecodes, hlength⟩ := BlockCodec.snappy_uncompress_eq_ok_iff.mp hresult
    exact ⟨result, Owned.uncompress_eq_ok_iff.mpr hdecodes, hlength, htakes⟩
  · intro h
    obtain ⟨result, hresult, rfl, htakes⟩ := h
    have hdecodes := Owned.uncompress_eq_ok_iff.mp hresult
    refine ⟨_, _, (hcarved _ _).mpr ⟨⟨hwindow, htakes⟩, rfl, rfl⟩,
      BlockCodec.snappy_uncompressedLength hdecodes, ?_⟩
    rw [BlockCodec.snappy_uncompress hdecodes]
  · intro h
    obtain ⟨source, destination, hsplit, hdeclared, hresult⟩ := h
    have hmemory := (uncompress_of_splitWindows hresolve hdeclared hsplit).2
    obtain ⟨⟨-, htakes⟩, rfl, rfl⟩ := (hcarved _ _).mp hsplit
    obtain ⟨result, hdecodes, rfl⟩ := BlockCodec.snappy_uncompress_eq_ok_iff.mp hresult
    refine ⟨result, Owned.uncompress_eq_ok_iff.mpr hdecodes, ?_⟩
    rw [hmemory, BlockCodec.snappy_uncompress hdecodes]
    exact houtput.received_write htakes.within

/-- The block is decompressed right behind itself, between buffers that share their memory. -/
theorem uncompress_refines_doubled :
    doubledHost.Lends behindItself.input behindItself.output ∧
      doubledHost.memory.Backs behindItself.input.region ∧
      doubledHost.memory.Backs behindItself.output.region ∧
      (uncompress .snappy behindItself.input ⟨0, 8⟩ behindItself.output 0 doubledHost).1 = .ok 8 ∧
      doubledHost.memory.Received ⟨0, 8, 8⟩ [97, 98, 99, 100, 97, 98, 99, 100]
        (uncompress .snappy behindItself.input ⟨0, 8⟩ behindItself.output 0 doubledHost).2.memory := by
  have hlends : doubledHost.Lends behindItself.input behindItself.output := ⟨_, _, _, rfl⟩
  have hinput : doubledHost.memory.Backs behindItself.input.region := ⟨by decide, by decide⟩
  have houtput : doubledHost.memory.Backs behindItself.output.region := ⟨by decide, by decide⟩
  have hdecodes : Snappy.Decodes .current doubled [97, 98, 99, 100, 97, 98, 99, 100] :=
    ⟨[12, 97, 98, 99, 100, 1, 4], rfl, by cbv⟩
  have htakes : behindItself.output.Takes ⟨0, 8⟩ (behindItself.input.region.part 0 8) :=
    ⟨by decide, rfl, Region.overlaps_eq_false_iff.mp rfl⟩
  have hresult := Owned.uncompress_eq_ok_iff.mpr hdecodes
  have hrefines := @uncompress_refines behindItself.input behindItself.output ⟨0, 8⟩ 0 8 doubledHost
    .current doubled hlends hinput houtput (by decide) rfl
  have hsucceeds := hrefines.1.mpr ⟨_, hresult, rfl, htakes⟩
  obtain ⟨result, hfound, hreceived⟩ := hrefines.2 hsucceeds
  rw [hresult] at hfound
  cases hfound
  exact ⟨hlends, hinput, houtput, hsucceeds, hreceived⟩

/-! ## Compressing -/

theorem bind_maxCompressedLength {α : Type} (next : Nat → Op α) :
    (maxCompressedLength codec length >>= next) host =
      match codec.bound length with
      | .ok room => next room (host.record (.codec (.maxCompressedLength length)))
      | .error failure => (.error failure, host.record (.codec (.maxCompressedLength length))) := by
  have hop : maxCompressedLength codec length host =
      (codec.bound length, host.record (.codec (.maxCompressedLength length))) := rfl
  simp only [Bind.bind, hop]
  cases codec.bound length <;> rfl

/-- With both windows carved, the result and what is written are those of the codec. -/
theorem compress_of_splitWindows {room : Nat} {source destination : Region}
    (hresolve : resolvePair input output host = (.ok (src, dst), middle))
    (hbound : codec.bound window.length = .ok room) (hoffset : offset ≤ output.region.length)
    (hsplit : splitWindows src window dst ⟨offset, output.region.length - offset⟩ =
      .ok (source, destination)) :
    (compress codec input window output offset host).1 =
        (codec.compress (host.memory.read source) (output.region.length - offset)).result ∧
      (compress codec input window output offset host).2.memory = host.memory.write destination
        (codec.compress (host.memory.read source) (output.region.length - offset)).written := by
  obtain ⟨-, htarget, -, -⟩ := splitWindows_eq_ok_iff.mp hsplit
  obtain ⟨-, hdestination⟩ := Guard.span_eq_ok_iff.mp htarget
  have hroom : destination.length = output.region.length - offset := by
    rw [hdestination]
    rfl
  -- the note on the bound comes before the buffers are asked for
  obtain ⟨later, hlater⟩ :=
    resolvePair_record hresolve (.codec (.maxCompressedLength window.length))
  rw [compress, bind_maxCompressedLength, hbound]
  refine withPair_of_resolvePair (fun result after =>
    result = (codec.compress (host.memory.read source) (output.region.length - offset)).result ∧
      after = host.memory.write destination
        (codec.compress (host.memory.read source) (output.region.length - offset)).written) hlater ?_
  intro _ hdst
  rw [hdst.capacity_eq, if_neg (Nat.not_lt.mpr hoffset)]
  refine .bind_ok hsplit (.bind_read (.bind_note ?_))
  rw [hroom]
  refine (deliver_ensures destination _ host.memory).bind ?_ ?_
  · intro failure after h
    exact h
  · intro compressed after h
    exact .bind_note (.pure h)

/-- A compression that succeeds had a bound, an offset inside the output, and windows to carve. -/
theorem splitWindows_of_compress_eq_ok
    (hresolve : resolvePair input output host = (.ok (src, dst), middle))
    (h : (compress codec input window output offset host).1 = .ok length) :
    (∃ room, codec.bound window.length = .ok room) ∧ offset ≤ output.region.length ∧
      ∃ source destination, splitWindows src window dst ⟨offset, output.region.length - offset⟩ =
        .ok (source, destination) := by
  obtain ⟨hsrc, hdst⟩ := holds_of_resolvePair hresolve
  have hsplit : (compress codec input window output offset).Ensures host.memory fun result _ =>
      result = .ok length →
        (∃ room, codec.bound window.length = .ok room) ∧ offset ≤ output.region.length ∧
          ∃ source destination, splitWindows src window dst ⟨offset, output.region.length - offset⟩ =
            .ok (source, destination) := by
    refine compress_ensures ?_ ?_
    · intro _ h
      cases h
    · intro room hroom hoffset hcarvable _
      exact ⟨⟨room, hroom⟩, hoffset, _, _,
        (splitWindows_eq_ok_iff_carvable hsrc hdst).mpr ⟨hcarvable, rfl, rfl⟩⟩
  exact hsplit host rfl h

/-- Compressing succeeds where there is a bound, both windows can be carved and the codec succeeds. -/
theorem compress_eq_ok_iff_carved
    (hresolve : resolvePair input output host = (.ok (src, dst), middle)) :
    (compress codec input window output offset host).1 = .ok length ↔
      (∃ room, codec.bound window.length = .ok room) ∧ offset ≤ output.region.length ∧
        ∃ source destination,
          splitWindows src window dst ⟨offset, output.region.length - offset⟩ =
              .ok (source, destination) ∧
            (codec.compress (host.memory.read source) (output.region.length - offset)).result =
              .ok length := by
  constructor
  · intro h
    obtain ⟨⟨room, hbound⟩, hoffset, source, destination, hsplit⟩ :=
      splitWindows_of_compress_eq_ok hresolve h
    rw [(compress_of_splitWindows hresolve hbound hoffset hsplit).1] at h
    exact ⟨⟨room, hbound⟩, hoffset, source, destination, hsplit, h⟩
  · intro h
    obtain ⟨⟨room, hbound⟩, hoffset, source, destination, hsplit, hresult⟩ := h
    rw [(compress_of_splitWindows hresolve hbound hoffset hsplit).1, hresult]

/-- **Compressing from buffer to buffer refines compressing a byte string.** It succeeds exactly where the
source window lies inside its buffer, has a bound, and the output takes what is left of it from the
offset on, with room for the bound; then the compressed bytes of the window are what stands in the
output from the offset on. -/
theorem compress_refines {bytes : Bytes} (hlends : host.Lends input output)
    (hinput : host.memory.Backs input.region) (houtput : host.memory.Backs output.region)
    (hbytes : host.memory.read (input.region.part window.offset window.length) = bytes) :
    ((∃ length, (compress .snappy input window output offset host).1 = .ok length) ↔
      window.offset + window.length ≤ input.region.length ∧
        0 < BlockCodec.snappy.maxCompressedLength window.length ∧
        BlockCodec.snappy.maxCompressedLength window.length ≤ output.region.length - offset ∧
        output.Takes ⟨offset, output.region.length - offset⟩
          (input.region.part window.offset window.length)) ∧
    ∀ length, (compress .snappy input window output offset host).1 = .ok length →
      ∃ block, Owned.compress bytes = .ok block ∧ block.length = length ∧
        (compress .snappy input window output offset host).2.memory.read
          (output.region.part offset length) = block := by
  obtain ⟨src, dst, middle, hresolve, hsrc, hdst⟩ := hlends.guards
  have hcarved := fun source destination =>
    @splitWindows_eq_ok_iff_takes input output src dst window
      ⟨offset, output.region.length - offset⟩ _ _ source destination
      hsrc hdst hinput.length_le houtput.length_le
  simp only [compress_eq_ok_iff_carved hresolve]
  subst hbytes
  refine ⟨⟨?_, ?_⟩, ?_⟩
  · intro h
    obtain ⟨length, -, -, source, destination, hsplit, hresult⟩ := h
    obtain ⟨⟨hwindow, htakes⟩, rfl, -⟩ := (hcarved _ _).mp hsplit
    obtain ⟨⟨hpos, hroom⟩, -⟩ := BlockCodec.snappy_compress_eq_ok_iff.mp hresult
    rw [hinput.length_read hwindow] at hpos hroom
    exact ⟨hwindow, hpos, hroom, htakes⟩
  · intro h
    obtain ⟨hwindow, hpos, hroom, htakes⟩ := h
    have hlength := hinput.length_read hwindow
    have hoffset : offset ≤ output.region.length :=
      Nat.le_trans (Nat.le_add_right ..) htakes.within
    refine ⟨_, ⟨_, BlockCodec.bound_eq_ok_iff.mpr ⟨rfl, hpos⟩⟩, hoffset, _, _,
      (hcarved _ _).mpr ⟨⟨hwindow, htakes⟩, rfl, rfl⟩,
      BlockCodec.snappy_compress_eq_ok_iff.mpr ⟨?_, rfl⟩⟩
    rw [hlength]
    exact ⟨hpos, hroom⟩
  · intro length h
    obtain ⟨⟨room, hbound⟩, hoffset, source, destination, hsplit, hresult⟩ := h
    have hmemory := (compress_of_splitWindows hresolve hbound hoffset hsplit).2
    obtain ⟨⟨hwindow, htakes⟩, rfl, rfl⟩ := (hcarved _ _).mp hsplit
    obtain ⟨⟨hpos, hroom⟩, rfl⟩ := BlockCodec.snappy_compress_eq_ok_iff.mp hresult
    refine ⟨_, Owned.compressWith_snappy hpos, rfl, ?_⟩
    rw [hmemory, BlockCodec.snappy_compress hpos hroom]
    exact houtput.read_write htakes.within (Nat.le_trans (Snappy.length_compress_le hpos) hroom)

/-- A host whose memory is three bytes and forty others that no longer matter. -/
def usedHost : Host where
  memory := ⟨[[1, 2, 3] ++ List.replicate 40 7]⟩

/-- Three bytes are compressed to five, two bytes into a buffer that starts right behind them. -/
theorem compress_refines_used :
    usedHost.Lends ⟨0, .heap, ⟨0, 0, 3⟩, true, true⟩ ⟨1, .direct, ⟨0, 3, 40⟩, true, true⟩ ∧
      usedHost.memory.Backs ⟨0, 0, 3⟩ ∧ usedHost.memory.Backs ⟨0, 3, 40⟩ ∧
      (compress .snappy ⟨0, .heap, ⟨0, 0, 3⟩, true, true⟩ ⟨0, 3⟩
        ⟨1, .direct, ⟨0, 3, 40⟩, true, true⟩ 2 usedHost).1 = .ok 5 ∧
      (compress .snappy ⟨0, .heap, ⟨0, 0, 3⟩, true, true⟩ ⟨0, 3⟩
        ⟨1, .direct, ⟨0, 3, 40⟩, true, true⟩ 2 usedHost).2.memory.read ⟨0, 5, 5⟩ =
          [3, 8, 1, 2, 3] := by
  have hlends : usedHost.Lends ⟨0, .heap, ⟨0, 0, 3⟩, true, true⟩
      ⟨1, .direct, ⟨0, 3, 40⟩, true, true⟩ := ⟨_, _, _, rfl⟩
  have hinput : usedHost.memory.Backs ⟨0, 0, 3⟩ := ⟨by decide, by decide⟩
  have houtput : usedHost.memory.Backs ⟨0, 3, 40⟩ := ⟨by decide, by decide⟩
  have hblock : Owned.compress [1, 2, 3] = .ok [3, 8, 1, 2, 3] := by cbv
  have hrefines := @compress_refines ⟨0, .heap, ⟨0, 0, 3⟩, true, true⟩
    ⟨1, .direct, ⟨0, 3, 40⟩, true, true⟩ ⟨0, 3⟩ 2 usedHost [1, 2, 3] hlends hinput houtput rfl
  obtain ⟨length, hsucceeds⟩ := hrefines.1.mpr ⟨by decide, by decide, by decide,
    by decide, rfl, Region.overlaps_eq_false_iff.mp rfl⟩
  obtain ⟨block, hfound, rfl, hread⟩ := hrefines.2 length hsucceeds
  rw [hblock] at hfound
  cases hfound
  exact ⟨hlends, hinput, houtput, hsucceeds, hread⟩

end BufferBridge.Dispatch
