import BufferBridge.Proofs.Discipline
import BufferBridge.Proofs.Frame
import BufferBridge.Proofs.Placement
import BufferBridge.Proofs.Snappy.Acceptance

/-!
# Decompressing into a buffer of the host

Where the buffers can be had and the windows can be carved, decompressing is what the codec makes of
the bytes of the source window. For a valid Snappy block that is a success, so a host is told of a
failure at most because no integer of its own holds the length. The exception are the blocks that are
too short for a release that looks ahead.
-/
namespace BufferBridge

open Op (Ensures)

/-- What a decompression of so many bytes needs of its buffers: both can be had, and the windows lie
inside them and have no address in common, the second one writable. That a machine word counts the
bytes of a buffer is no more than what every buffer has. -/
structure Dispatch.Ready (input : Buffer) (window : Window) (output : Buffer) (target : Window)
    (host : Host) : Prop where
  resolved : ∃ src dst after, resolvePair input output host = (.ok (src, dst), after)
  source_size : input.region.length ≤ maxSize
  source_within : window.offset + window.length ≤ input.region.length
  target_size : output.region.length ≤ maxSize
  target_within : target.offset + target.length ≤ output.region.length
  disjoint : (input.region.part window.offset window.length).overlaps
    (output.region.part target.offset target.length) = false
  writable : output.writable = true

namespace Dispatch

variable {codec : BlockCodec} {input output : Buffer} {window : Window} {offset length : Nat}
variable {host : Host}

/-- With both windows carved, the result and what is written are those of the codec. -/
theorem uncompress_of_splitWindows {src dst : Guard} {middle : Host} {source destination : Region}
    (hresolve : resolvePair input output host = (.ok (src, dst), middle))
    (hlength : codec.uncompressedLength (host.memory.read source) = .ok length)
    (hsplit : splitWindows src window dst ⟨offset, length⟩ = .ok (source, destination)) :
    (uncompress codec input window output offset host).1 =
        (fun _ => length) <$> (codec.uncompress (host.memory.read source) length).result ∧
      (uncompress codec input window output offset host).2.memory =
        host.memory.write destination (codec.uncompress (host.memory.read source) length).written := by
  obtain ⟨hspan, htarget, -, -⟩ := splitWindows_eq_ok_iff.mp hsplit
  obtain ⟨hwithin, hdestination⟩ := Guard.span_eq_ok_iff.mp htarget
  have hroom : destination.length = length := by
    rw [hdestination]
    rfl
  refine withPair_of_resolvePair (fun result after =>
    result = (fun _ => length) <$> (codec.uncompress (host.memory.read source) length).result ∧
      after = host.memory.write destination (codec.uncompress (host.memory.read source) length).written)
    hresolve ?_
  intro _ _
  refine .bind_ok hspan (.bind_read (.bind_note (.bind_ok (mapError_eq_ok_iff.mpr hlength) ?_)))
  extract_lets target fits decode
  -- the target fits, so nothing is looked at twice
  have hfits : fits = true := by
    simp only [fits, target]
    rw [Window.checkWithin_eq_ok_iff.mpr hwithin]
    rfl
  simp only [hfits, decode, Bool.not_true, Bool.false_and, Bool.false_eq_true, if_false]
  refine .bind_ok hsplit (.bind_note ?_)
  rw [hroom]
  refine (deliver_ensures destination _ host.memory).bind ?_ ?_
  · rintro failure _ ⟨h, rfl⟩
    rw [← h]
    exact ⟨rfl, rfl⟩
  · rintro _ _ ⟨h, rfl⟩
    rw [← h]
    exact .bind_note (.pure ⟨rfl, rfl⟩)

theorem Ready.splitWindows {target : Window} {src dst : Guard} (h : Ready input window output target host)
    (hsrc : src.Holds input .source) (hdst : dst.Holds output .destination) :
    splitWindows src window dst target =
      .ok (input.region.part window.offset window.length,
        output.region.part target.offset target.length) := by
  refine (splitWindows_eq_ok_iff_takes hsrc hdst h.source_size h.target_size).mpr ⟨⟨?_, ?_⟩, rfl, rfl⟩
  · exact h.source_within
  · exact ⟨h.target_within, h.writable, Region.overlaps_eq_false_iff.mp h.disjoint⟩

/-- Into a buffer that is ready for the declared length, a block decompresses as the codec has it. -/
theorem uncompress_of_ready {block : Bytes} (hlength : codec.uncompressedLength block = .ok length)
    (hblock : host.memory.read (input.region.part window.offset window.length) = block)
    (h : Ready input window output ⟨offset, length⟩ host) :
    (uncompress codec input window output offset host).1 =
      (fun _ => length) <$> (codec.uncompress block length).result := by
  obtain ⟨src, dst, middle, hresolve⟩ := h.resolved
  obtain ⟨hsrc, hdst⟩ := holds_of_resolvePair hresolve
  subst hblock
  exact (uncompress_of_splitWindows hresolve hlength (h.splitWindows hsrc hdst)).1

/-- A block that decodes is decompressed into any buffer that is ready for its output. -/
theorem uncompress_of_decodes {reader : Snappy.Reader} {block result : Bytes}
    (hdecodes : Snappy.Decodes reader block result)
    (hblock : host.memory.read (input.region.part window.offset window.length) = block)
    (h : Ready input window output ⟨offset, result.length⟩ host) :
    (uncompress (.snappy reader) input window output offset host).1 = .ok result.length := by
  rw [uncompress_of_ready (BlockCodec.snappy_uncompressedLength hdecodes) hblock h,
    BlockCodec.snappy_uncompress hdecodes]
  rfl

end Dispatch

/-! ## Valid blocks -/

theorem Op.bind_ofExcept_result {α β : Type} (op : Op α) (next : α → Except Failure β) (host : Host) :
    ((op >>= fun value => (liftM (next value) : Op β)) host).1 = (op host).1 >>= next := by
  simp only [Bind.bind]
  split
  · rename_i value after hrun
    rw [hrun]
    rfl
  · rename_i failure after hrun
    rw [hrun]
    rfl

theorem Op.map_result {α β : Type} (op : Op α) (f : α → β) (host : Host) :
    ((f <$> op) host).1 = f <$> (op host).1 := by
  exact Op.bind_ofExcept_result op (fun value => .ok (f value)) host

/-- The call is the operation on buffers, as long as a host integer holds the length. -/
theorem Bridge.uncompressOp_result {bridge : Bridge} {args : Transfer} {window : Window} {offset : Nat}
    (h : args.Asks window offset) (host : Host) :
    (bridge.uncompressOp args host).1 =
      (Dispatch.uncompress bridge.codec args.input window args.output offset host).1 >>= toHostInt := by
  rw [← Op.bind_ofExcept_result, uncompressOp, h.bind_ofHost]

theorem codesOf_map {α β : Type} (f : α → β) (result : Except Failure α) :
    codesOf (f <$> result) = codesOf result := by
  cases result <;> rfl

theorem codesOf_toHostInt (size : Nat) :
    codesOf (toHostInt size) = if size ≤ maxHostInt then [] else [.parsing] := by
  rw [toHostInt]
  split <;> rfl

/-- How the decompression of a block that declares so many bytes ends: as a byte string of its own, and
from a window of one buffer into another that is ready for that many bytes, be it as an operation on the
buffers or as a call, of which the host is told no more than some codes. -/
structure BlockCodec.Decompresses (codec : BlockCodec) (block : Bytes) (length : Nat)
    (result : Except Failure Bytes) (codes : List ErrorCode) : Prop where
  owned : Owned.uncompressWith codec block = result
  dispatched {input output : Buffer} {window : Window} {offset : Nat} {host : Host} :
    host.memory.read (input.region.part window.offset window.length) = block →
    Dispatch.Ready input window output ⟨offset, length⟩ host →
    (Dispatch.uncompress codec input window output offset host).1 = (fun _ => length) <$> result
  told {bridge : Bridge} {args : Transfer} {window : Window} {offset : Nat} {host : Host} :
    bridge.codec = codec → args.Asks window offset →
    host.memory.read (args.input.region.part window.offset window.length) = block →
    Dispatch.Ready args.input window args.output ⟨offset, length⟩ host →
    ∃ events, ((Call.uncompress args).run bridge host).2.trace = host.trace ++ events ∧
      raises events = codes

/-- All of it follows from what the codec makes of the block, given room for what it declares. -/
theorem BlockCodec.decompresses_of_outcome {codec : BlockCodec} {block : Bytes} {length : Nat}
    {outcome : Outcome Unit} (hlength : codec.uncompressedLength block = .ok length)
    (houtcome : codec.uncompress block length = outcome) :
    codec.Decompresses block length ((fun _ => Bytes.fit length outcome.written) <$> outcome.result)
      (codesOf (outcome.result >>= fun _ => toHostInt length)) := by
  subst houtcome
  refine ⟨?_, ?_, ?_⟩
  · have hdeclared : Owned.declaredLength codec block = .ok length := mapError_eq_ok_iff.mpr hlength
    rw [Owned.uncompressWith, hdeclared]
    show ((codec.uncompress block length).result >>= fun _ =>
      Except.ok (Bytes.fit length (codec.uncompress block length).written)) = _
    cases (codec.uncompress block length).result <;> rfl
  · intro input output window offset host hblock hready
    rw [Dispatch.uncompress_of_ready hlength hblock hready]
    cases (codec.uncompress block length).result <;> rfl
  · intro bridge args window offset host hcodec hasks hblock hready
    obtain ⟨events, htrace, hraises⟩ := (Call.uncompress args).raises_run bridge host
    refine ⟨events, htrace, hraises.trans ?_⟩
    show codesOf ((Reply.number <$> bridge.uncompressOp args) host).1 = _
    rw [Op.map_result, codesOf_map, Bridge.uncompressOp_result hasks, hcodec,
      Dispatch.uncompress_of_ready hlength hblock hready]
    cases (codec.uncompress block length).result <;> rfl

/-- **A valid block is decompressed, and to just the length that it declares**: as a byte string of its
own, and from a window of one buffer into another that is ready for it. A call tells the host of a
failure only where no integer of the host holds that length. For a release that looks ahead there are
valid blocks that are cramped, and these it refuses everywhere. -/
theorem decompresses_of_isValid {reader : Snappy.Reader} {block : Bytes}
    (h : (BlockCodec.snappy reader).isValid block = true) :
    ∃ length, (BlockCodec.snappy reader).uncompressedLength block = .ok length ∧
      (¬ Snappy.Cramped reader.lookAhead block → ∃ output : Bytes, output.length = length ∧
        (BlockCodec.snappy reader).Decompresses block length (.ok output)
          (if length ≤ maxHostInt then [] else [.parsing])) ∧
      (Snappy.Cramped reader.lookAhead block → ∃ left room, left < reader.lookAhead ∧
        (BlockCodec.snappy reader).Decompresses block length
          (.error (.codec .uncompress (.snappy (.literalCut reader.lookAhead left room))))
          [.failedToUncompress]) := by
  obtain ⟨length, hdeclared⟩ := Snappy.declaredLength_of_isValid h
  have hlength : (BlockCodec.snappy reader).uncompressedLength block = .ok length :=
    mapError_eq_ok_iff.mpr hdeclared
  refine ⟨length, hlength, ?_, ?_⟩
  · intro hroomy
    obtain ⟨output, hdecodes⟩ := Snappy.decodes_iff.mpr ⟨h, hroomy⟩
    obtain rfl : output.length = length :=
      Except.ok.inj (hdecodes.declaredLength.symm.trans hdeclared)
    have hends := BlockCodec.decompresses_of_outcome hlength (BlockCodec.snappy_uncompress hdecodes)
    rw [← codesOf_toHostInt]
    refine ⟨output, rfl, ?_⟩
    rwa [Bytes.fit_of_length rfl] at hends
  · intro hcramped
    obtain ⟨left, room, hleft, hresult⟩ := BlockCodec.snappy_uncompress_of_cramped h hcramped hlength
    have hends := BlockCodec.decompresses_of_outcome hlength rfl
    rw [hresult] at hends
    exact ⟨left, room, hleft, hends⟩

/-- A valid block, of four bytes and a copy of them. -/
def doubled : Bytes := [8, 12, 97, 98, 99, 100, 1, 4]

/-- The arguments to decompress that block from the heap into the eight bytes right behind it. -/
def behindItself : Transfer where
  input := { id := 0, storage := .heap, region := ⟨0, 0, 8⟩ }
  inputOffset := 0
  length := 8
  output := { id := 1, storage := .direct, region := ⟨0, 8, 8⟩ }
  outputOffset := 0

/-- A host whose memory is the block of eight bytes and as many zeros. -/
def Dispatch.doubledHost : Host where
  memory := ⟨[doubled ++ List.replicate 8 0]⟩

theorem Dispatch.doubledHost_ready :
    Ready behindItself.input ⟨0, 8⟩ behindItself.output ⟨0, 8⟩ doubledHost :=
  ⟨⟨_, _, _, rfl⟩, by decide, by decide, by decide, by decide, by decide, rfl⟩

/-- A valid block of one letter, with the length of its literal in a byte of its own. -/
def lateLength : Bytes := [1, 0xF0, 0, 97]

theorem cramped_lateLength : Snappy.Cramped 4 lateLength :=
  ⟨[1], [0xF0, 0, 97], rfl, ⟨[], 1, rfl, by simp, by decide⟩, [], [], 0xF0, [0, 97], rfl, .nil,
    ⟨rfl, by decide⟩, by decide⟩

/-- Two bytes are left behind the tag, of the four that are asked for. -/
theorem uncompressWith_lateLength :
    Owned.uncompressWith (.snappy .former) lateLength =
      .error (.codec .uncompress (.snappy (.literalCut 4 2 1))) := by
  have hlength : (BlockCodec.snappy .former).uncompressedLength lateLength = .ok 1 := rfl
  have hrefused : Snappy.decompress .former lateLength 1 = ([], .error (.literalCut 4 2 1)) := by cbv
  refine (BlockCodec.decompresses_of_outcome hlength rfl).owned.trans ?_
  simp only [BlockCodec.snappy]
  rw [hrefused]
  rfl

theorem decompresses_doubled :
    BlockCodec.snappy.isValid doubled = true ∧
      Owned.uncompressWith .snappy doubled = .ok [97, 98, 99, 100, 97, 98, 99, 100] ∧
      (Dispatch.uncompress .snappy behindItself.input ⟨0, 8⟩ behindItself.output 0
        Dispatch.doubledHost).1 = .ok 8 ∧
      (∃ events, ((Call.uncompress behindItself).run {} Dispatch.doubledHost).2.trace = events ∧
        raises events = []) ∧
      (BlockCodec.snappy .former).isValid lateLength = true ∧
      ∃ left room, left < 4 ∧ Owned.uncompressWith (.snappy .former) lateLength =
        .error (.codec .uncompress (.snappy (.literalCut 4 left room))) := by
  have hdecodes : Snappy.Decodes .current doubled [97, 98, 99, 100, 97, 98, 99, 100] :=
    ⟨[12, 97, 98, 99, 100, 1, 4], rfl, by cbv⟩
  have hvalid : BlockCodec.snappy.isValid doubled = true := hdecodes.isValid
  obtain ⟨length, hlength, hroomy, -⟩ := decompresses_of_isValid hvalid
  obtain ⟨output, rfl, hends⟩ := hroomy (Snappy.not_cramped_zero doubled)
  have hbytes := Owned.uncompressWith_snappy hdecodes
  obtain rfl : output = _ := Except.ok.inj (hends.owned.symm.trans hbytes)
  have hlate : (BlockCodec.snappy .former).isValid lateLength = true := by cbv
  obtain ⟨_, _, _, hcramped⟩ := decompresses_of_isValid hlate
  obtain ⟨left, room, hleft, hrefused⟩ := hcramped cramped_lateLength
  exact ⟨hvalid, hbytes, hends.dispatched rfl Dispatch.doubledHost_ready,
    hends.told rfl ⟨rfl, rfl, rfl⟩ rfl Dispatch.doubledHost_ready, hlate, left, room, hleft,
    hrefused.owned⟩

end BufferBridge
