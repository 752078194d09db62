import BufferBridge.Proofs.Atomicity
import BufferBridge.Proofs.DirectFunctions
import BufferBridge.Proofs.Snappy.Prefix
import BufferBridge.Proofs.Snappy.Runs

/-!
# Results that are too wide for the host

Nearly all that a decompression tells as an argument error is found out before a byte is written, and so
the memory is what it was. The length of the result is the one thing that is looked at afterwards. Where
no integer of the host holds it, all of the output is in place by the time that the error is raised.
-/
namespace BufferBridge

open Op (Ensures)

/-- A failure of Snappy to decompress is never told as an argument error. -/
theorem BlockCodec.code_of_failsToUncompress {reader : Snappy.Reader} {failure : Failure}
    (h : (snappy reader).FailsToUncompress failure) : failure.code = .failedToUncompress := by
  obtain ⟨_, _, hfails⟩ := h
  obtain ⟨cause, rfl⟩ := snappy_uncompress_eq_error hfails
  rfl

/-- A decompression has been carried out, and no integer of the host holds the length of the output. -/
structure Transfer.Overruns (args : Transfer) (reader : Snappy.Reader) (before : Memory) (data : Bytes)
    (after : Memory) : Prop where
  uncompressed : Owned.uncompress (before.read args.compressed) reader = .ok data
  too_wide : maxHostInt < data.length
  within : args.outputOffset.toInt.toNat + data.length ≤ args.output.region.length
  after_eq : after =
    before.write (args.output.region.part args.outputOffset.toInt.toNat data.length) data

/-- A failure that is told as an argument error, and what the memory is then: what it was, unless the
result is too wide. -/
def Transfer.Told (args : Transfer) (reader : Snappy.Reader) (before : Memory) (failure : Failure)
    (after : Memory) : Prop :=
  failure.code = .parsing → after = before ∨
    ∃ data, failure = .invalid (.resultTooWide data.length) ∧ args.Overruns reader before data after

/-- An argument that is turned down before anything is borrowed changes nothing. -/
theorem Transfer.Told.same {args : Transfer} {reader : Snappy.Reader} {memory : Memory}
    {failure : Failure} : args.Told reader memory failure memory :=
  fun _ => .inl rfl

variable {bridge : Bridge} {reader : Snappy.Reader} {args : Transfer} {memory : Memory}

theorem Bridge.uncompressOp_told (hcodec : bridge.codec = .snappy reader) :
    (bridge.uncompressOp args).Ensures memory fun result after =>
      ∀ failure, result = .error failure → args.Told reader memory failure after := by
  refine Transfer.ensures_ofHost (fun _ _ _ => .same)
    fun window offset ⟨hinput, hlength, houtput⟩ => ?_
  have hcompressed : args.compressed = args.input.region.part window.offset window.length := by
    rw [Transfer.compressed, hinput, hlength]
    rfl
  have hplace : args.outputOffset.toInt.toNat = offset := by
    rw [houtput, Int.toNat_natCast]
  rw [hcodec]
  refine ((Dispatch.uncompress_unspoiled (.snappy reader) args.input window args.output offset memory).and
    Dispatch.uncompress_writes).bind ?_ ?_
  · rintro failure after ⟨hunspoiled, -⟩ _ hfails hcode
    cases hfails
    rcases hunspoiled failure rfl with hblamed | hsame
    · rw [BlockCodec.code_of_failsToUncompress hblamed] at hcode
      cases hcode
    · exact .inl hsame
  · rintro length after ⟨-, hwrites⟩
    refine .ofExcept fun failure hfails _ => .inr ?_
    obtain ⟨hwide, rfl⟩ := toHostInt_eq_error_iff.mp hfails
    obtain ⟨data, rfl, hdata, hwithin, hafter⟩ := hwrites length rfl
    rw [← hcompressed] at hdata
    rw [← hplace] at hwithin hafter
    exact ⟨data, rfl, hdata, hwide, hwithin, hafter⟩

/-- Both ways to ask for a decompression. -/
theorem Call.op_told {call : Call} (hcodec : bridge.codec = .snappy reader)
    (hcall : call = .uncompress args ∨ call = .uncompressDirect args) :
    (call.op bridge).Ensures memory fun result after =>
      ∀ failure, result = .error failure → args.Told reader memory failure after := by
  have huncompress : (Reply.number <$> bridge.uncompressOp args).Ensures memory fun result after =>
      ∀ failure, result = .error failure → args.Told reader memory failure after := by
    refine .map ((Bridge.uncompressOp_told hcodec).mono fun result after htold failure hfails => ?_)
    exact htold failure (map_eq_error_iff.mp hfails)
  rcases hcall with rfl | rfl
  · exact huncompress
  · exact .bind_ofExcept (fun _ _ _ _ => .same) fun _ _ => huncompress

/-- **A decompression that is told as an argument error has changed nothing, unless its result is too wide
for the host.** As long as an integer of the host holds the length that the block declares, every byte is
what it was. Where none does, either it is as well or the decompression was carried out: the failure
names the length, the output window has received all of the data, and no other byte has changed. -/
theorem Call.uncompress_parsing_unchanged {call : Call} {host after : Host}
    (hcodec : bridge.config.codec = .snappy)
    (hcall : call = .uncompress args ∨ call = .uncompressDirect args)
    (h : call.Raises bridge host .parsing after) :
    ((∀ length, bridge.codec.uncompressedLength (host.memory.read args.compressed) = .ok length →
        length ≤ maxHostInt) → after.memory = host.memory) ∧
      (after.memory = host.memory ∨ ∃ data,
        Owned.uncompress (host.memory.read args.compressed) bridge.libraries.reader = .ok data ∧
        maxHostInt < data.length ∧
        (call.op bridge host).1 = .error (.invalid (.resultTooWide data.length)) ∧
        (host.memory.Shows args.output.region →
          host.memory.Received (args.output.region.part args.outputOffset.toInt.toNat data.length)
            data after.memory)) := by
  have hsnappy : bridge.codec = .snappy bridge.libraries.reader := by
    rw [Bridge.codec, Config.blockCodec, hcodec]
  obtain ⟨failure, hfails, hcode, hafter⟩ := h.op_eq_error
  have htold := Call.op_told hsnappy hcall host rfl failure hfails hcode
  rw [← hafter] at htold
  rcases htold with hsame | ⟨data, rfl, hoverruns⟩
  · exact ⟨fun _ => hsame, .inl hsame⟩
  · have hdecodes := Owned.uncompress_eq_ok_iff.mp hoverruns.uncompressed
    refine ⟨?_, .inr ⟨data, hoverruns.uncompressed, hoverruns.too_wide, hfails, ?_⟩⟩
    · intro hnarrow
      have := hnarrow data.length (hsnappy ▸ BlockCodec.snappy_uncompressedLength hdecodes)
      have := hoverruns.too_wide
      omega
    · intro hshows
      rw [hoverruns.after_eq]
      exact hshows.received_write_part hoverruns.within rfl

/-- The arguments to decompress the block of eight bytes over its own second half. -/
def overItself : Transfer :=
  { behindItself with output := { id := 1, storage := .direct, region := ⟨0, 4, 8⟩ } }

/-- A host whose memory is that block and four zeros. -/
def overItselfHost : Host where
  memory := ⟨[doubled ++ List.replicate 4 0]⟩

/-- The windows overlap, so the block and the zeros stay. -/
theorem Call.uncompress_parsing_unchanged_overlap :
    ∃ after, (Call.uncompress overItself).Raises {} overItselfHost .parsing after ∧
      after.memory = overItselfHost.memory := by
  have hfails : ((Call.uncompress overItself).op {} overItselfHost).1 =
      .error (.invalid (.windowsOverlap 0 8 0 8)) := rfl
  have hdeclared : ({} : Bridge).codec.uncompressedLength
      (overItselfHost.memory.read overItself.compressed) = .ok 8 := rfl
  obtain ⟨after, hraises, -⟩ := Call.raises_of_op (Prod.ext hfails rfl)
  obtain ⟨hnarrow, -⟩ := Call.uncompress_parsing_unchanged rfl (.inl rfl) hraises
  refine ⟨after, hraises, hnarrow fun length hlength => ?_⟩
  rw [hdeclared] at hlength
  cases hlength
  decide

/-! ## A result that is too wide -/

/-- A host whose memory is the block of a letter over and over, and zeros for all that it stands for. -/
def wideHost (copies : Nat) : Host where
  memory := ⟨[Snappy.run 97 copies, List.replicate (1 + 64 * copies) 0]⟩

/-- The arguments to decompress that block over the zeros. -/
def wideTransfer (copies : Nat) : Transfer where
  input := { id := 0, storage := .direct, region := ⟨0, 0, (Snappy.run 97 copies).length⟩ }
  inputOffset := 0
  length := Int32.ofNat (Snappy.run 97 copies).length
  output := { id := 1, storage := .direct, region := ⟨1, 0, 1 + 64 * copies⟩ }
  outputOffset := 0

section

variable {copies : Nat}

theorem wideTransfer_asks (hblock : (Snappy.run 97 copies).length ≤ maxHostInt) :
    (wideTransfer copies).Asks ⟨0, (Snappy.run 97 copies).length⟩ 0 :=
  ⟨rfl, Int32.toInt_ofNat_of_lt (Nat.lt_succ_of_le hblock), rfl⟩

theorem wideHost_read :
    (wideHost copies).memory.read
      ((wideTransfer copies).input.region.part 0 (Snappy.run 97 copies).length) =
        Snappy.run 97 copies := by
  simp [wideHost, wideTransfer, Memory.read, Memory.block, Region.part, Bytes.slice]

theorem wideTransfer_ready (hsize : 1 + 64 * copies ≤ Snappy.maxInputLength)
    (hblock : (Snappy.run 97 copies).length ≤ maxHostInt) :
    Dispatch.Ready (wideTransfer copies).input ⟨0, (Snappy.run 97 copies).length⟩
      (wideTransfer copies).output ⟨0, 1 + 64 * copies⟩ (wideHost copies) where
  resolved := ⟨_, _, _, rfl⟩
  source_size := Nat.le_trans hblock (by decide)
  source_within := Nat.le_of_eq (Nat.zero_add _)
  target_size := Nat.le_trans hsize (by decide)
  target_within := Nat.le_of_eq (Nat.zero_add _)
  disjoint := rfl
  writable := rfl

/-- The block decompresses, and the first zero has become a letter. -/
theorem uncompress_wide (hpos : 0 < copies) (hsize : 1 + 64 * copies ≤ Snappy.maxInputLength)
    (hblock : (Snappy.run 97 copies).length ≤ maxHostInt) :
    (Dispatch.uncompress .snappy (wideTransfer copies).input ⟨0, (Snappy.run 97 copies).length⟩
        (wideTransfer copies).output 0 (wideHost copies)).1 = .ok (1 + 64 * copies) ∧
      (Dispatch.uncompress .snappy (wideTransfer copies).input ⟨0, (Snappy.run 97 copies).length⟩
        (wideTransfer copies).output 0 (wideHost copies)).2.memory.byteAt? 1 0 = some 97 := by
  have hdecodes := @Snappy.decodes_run .current 97 copies hpos hsize
  have hready := wideTransfer_ready hsize hblock
  rw [← @List.length_replicate _ (1 + 64 * copies) (97 : UInt8)] at hready
  have hresult := Dispatch.uncompress_of_decodes hdecodes wideHost_read hready
  rw [List.length_replicate] at hresult
  refine ⟨hresult, ?_⟩
  obtain ⟨data, -, howned, -, hafter⟩ :=
    Dispatch.uncompress_writes (wideHost copies) rfl _ hresult
  rw [wideHost_read, Owned.uncompress_eq_ok_iff.mpr hdecodes] at howned
  cases howned
  have hfirst : 0 < 1 + 64 * copies := Nat.add_pos_left Nat.one_pos _
  have hstop : 0 < 0 + 0 + (1 + 64 * copies) := by omega
  rw [hafter, Memory.byteAt?_write_of_covers]
  · simp [wideHost, wideTransfer, Memory.block, Region.part, hfirst]
  · exact ⟨rfl, Nat.zero_le _, hstop⟩
  · rw [List.length_replicate]
    exact hstop

end

/-- Whatever an operation has done, where the host cannot hold its result the call raises an argument error
and takes nothing back. -/
theorem Call.raises_of_too_wide {call : Call} {host : Host} {op : Op Nat} {length : Nat}
    (hop : call.op bridge = op.numbered) (hresult : (op host).1 = .ok length)
    (hwide : maxHostInt < length) :
    ∃ after, call.Raises bridge host .parsing after ∧ after.memory = (op host).2.memory := by
  have hfails : (call.op bridge host).1 = .error (.invalid (.resultTooWide length)) := by
    rw [hop, Op.numbered_result, hresult, map_eq_error_iff]
    exact toHostInt_eq_error_iff.mpr ⟨hwide, rfl⟩
  have hsame : (call.op bridge host).2 = (op host).2 := by
    rw [hop]
    exact Op.numbered_after
  obtain ⟨after, hraises, hafter⟩ := Call.raises_of_op (Prod.ext hfails rfl)
  exact ⟨after, hraises, hafter.trans (congrArg Host.memory hsame)⟩

theorem op_wide (copies : Nat) :
    (Call.uncompress (wideTransfer copies)).op {} =
        Reply.number <$> Bridge.uncompressOp {} (wideTransfer copies) ∧
      (Call.uncompressDirect (wideTransfer copies)).op {} =
        Reply.number <$> Bridge.uncompressOp {} (wideTransfer copies) :=
  ⟨rfl, rfl⟩

/-- Both ways to decompress a long enough block end so. -/
theorem raises_wide {copies : Nat} {call : Call} (hpos : 0 < copies)
    (hsize : 1 + 64 * copies ≤ Snappy.maxInputLength)
    (hblock : (Snappy.run 97 copies).length ≤ maxHostInt) (hwide : maxHostInt < 1 + 64 * copies)
    (hop : call.op {} = Reply.number <$> Bridge.uncompressOp {} (wideTransfer copies)) :
    ∃ after, call.Raises {} (wideHost copies) .parsing after ∧
      after.memory ≠ (wideHost copies).memory := by
  obtain ⟨hresult, hbyte⟩ := uncompress_wide hpos hsize hblock
  obtain ⟨after, hraises, hafter⟩ := Call.raises_of_too_wide
    (hop.trans (Bridge.uncompressOp_eq (wideTransfer_asks hblock))) hresult hwide
  refine ⟨after, hraises, ?_⟩
  intro hsame
  have hzero : (wideHost copies).memory.byteAt? 1 0 = some 0 := by
    have hfirst : 0 < 1 + 64 * copies := Nat.add_pos_left Nat.one_pos _
    simp [wideHost, Memory.byteAt?, Memory.block, hfirst]
  rw [← hsame, hafter] at hzero
  exact absurd (hbyte.symm.trans hzero) (by decide)

theorem length_run_wide : (Snappy.run 97 33554432).length = 100663303 := by
  have hheader : (Snappy.encodeLength (1 + 64 * 33554432)).length = 5 := by
    simp [Snappy.encodeLength]
  rw [Snappy.length_run 97 (by decide), hheader]

theorem length_run_wide_le : (Snappy.run 97 33554432).length ≤ maxHostInt := by
  rw [length_run_wide]
  decide

/-- **A host that is told of an argument error may find its buffer full.** A block of a hundred million
bytes stands for one byte more than an integer of the host counts. Both ways to decompress it into a direct
buffer of that size end as an argument error, and the buffer is no longer what it was. -/
theorem Call.uncompress_parsing_overruns :
    (wideTransfer 33554432).length = 100663303 ∧
      (∃ after, (Call.uncompress (wideTransfer 33554432)).Raises {} (wideHost 33554432) .parsing after ∧
        after.memory ≠ (wideHost 33554432).memory) ∧
      ∃ after, (Call.uncompressDirect (wideTransfer 33554432)).Raises {} (wideHost 33554432) .parsing
        after ∧ after.memory ≠ (wideHost 33554432).memory := by
  refine ⟨?_, ?_, ?_⟩
  · rw [wideTransfer, length_run_wide]
    rfl
  · exact raises_wide (by decide) (by decide) length_run_wide_le (by decide) (op_wide 33554432).1
  · exact raises_wide (by decide) (by decide) length_run_wide_le (by decide) (op_wide 33554432).2

/-- A host with the block of eight bytes that refuses every pin. -/
def stubbornHost : Host :=
  { Dispatch.doubledHost with refuses := fun _ => true }

/-- **Not every valid block is decompressed without a word**, into a window that is writable, apart from the
block and large enough. The long block is valid, and its result is told as an argument error. Of a short
one the host hears an error as well, if it refuses to pin it. And a release that looks ahead finds a block
valid that it refuses to decompress at all. -/
theorem Call.uncompress_valid_raises :
    (BlockCodec.snappy.isValid (Snappy.run 97 33554432) = true ∧
      (wideHost 33554432).memory.read ((wideTransfer 33554432).input.region.part 0
        (Snappy.run 97 33554432).length) = Snappy.run 97 33554432 ∧
      Dispatch.Ready (wideTransfer 33554432).input ⟨0, (Snappy.run 97 33554432).length⟩
        (wideTransfer 33554432).output ⟨0, 2147483649⟩ (wideHost 33554432) ∧
      ∃ after, (Call.uncompress (wideTransfer 33554432)).Raises {} (wideHost 33554432) .parsing after) ∧
    (BlockCodec.snappy.isValid doubled = true ∧
      BlockCodec.snappy.uncompressedLength doubled = .ok 8 ∧
      stubbornHost.memory.read (behindItself.input.region.part 0 8) = doubled ∧
      behindItself.output.writable = true ∧ behindItself.output.region.length = 8 ∧
      behindItself.input.region.overlaps behindItself.output.region = false ∧
      ∃ after, (Call.uncompress behindItself).Raises {} stubbornHost .outOfMemory after) ∧
    (BlockCodec.snappy .former).isValid lateLength = true ∧
      Owned.uncompressWith (.snappy .former) lateLength =
        .error (.codec .uncompress (.snappy (.literalCut 4 2 1))) := by
  refine ⟨⟨?_, wideHost_read, ?_, ?_⟩, ⟨by cbv, rfl, rfl, rfl, rfl, rfl, ?_⟩, by cbv,
    uncompressWith_lateLength⟩
  · exact (@Snappy.decodes_run .current 97 33554432 (by decide) (by decide)).isValid
  · exact wideTransfer_ready (by decide) length_run_wide_le
  · obtain ⟨after, hraises, -⟩ := raises_wide (by decide) (by decide) length_run_wide_le (by decide)
      (op_wide 33554432).1
    exact ⟨after, hraises⟩
  · have hfails : ((Call.uncompress behindItself).op {} stubbornHost).1 = .error (.outOfMemory .source) :=
      rfl
    obtain ⟨after, hraises, -⟩ := Call.raises_of_op (Prod.ext hfails rfl)
    exact ⟨after, hraises⟩

end BufferBridge
