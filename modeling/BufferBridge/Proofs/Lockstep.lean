import BufferBridge.Proofs.BitShuffle.Inverse
import BufferBridge.Proofs.Coupling
import BufferBridge.Proofs.Discipline
import BufferBridge.Proofs.Frame
import BufferBridge.Proofs.Snappy.Acceptance
import BufferBridge.Zstandard.Codec

/-!
# Calls side by side

Two calls with the same integers, on buffers that stand for one another, go the same way under every
coupling that knows the bytes they read. Afterwards the coupling also knows the bytes they have produced.
-/
namespace BufferBridge

open Coupling (Runs)

/-! ## What a codec has written when it succeeds -/

/-- A codec that succeeds has written all that it counts, and what it counts has room. -/
structure BlockCodec.Fills (codec : BlockCodec) : Prop where
  compress {input : Bytes} {room length : Nat} : (codec.compress input room).result = .ok length →
    length ≤ room ∧ length ≤ (codec.compress input room).written.length
  uncompress {input : Bytes} {room : Nat} : (codec.uncompress input room).result = .ok () →
    room ≤ (codec.uncompress input room).written.length

namespace BlockCodec

theorem snappy_fills (reader : Snappy.Reader) : (snappy reader).Fills := by
  constructor
  · intro input room length h
    obtain ⟨⟨hpos, hroom⟩, rfl⟩ := snappy_compress_eq_ok_iff.mp h
    rw [snappy_compress hpos hroom]
    exact ⟨Nat.le_trans (Snappy.length_compress_le hpos) hroom, Nat.le_refl _⟩
  · intro input room h
    obtain ⟨output, hdecodes, rfl⟩ := snappy_uncompress_eq_ok_iff.mp h
    simp only [snappy_uncompress hdecodes, Nat.le_refl]

theorem zstandard_fills (level : Int32) (encoder : Zstandard.Encoder) :
    (zstandard level encoder).Fills := by
  constructor
  · intro input room length h
    exact encoder.fills (mapError_eq_ok_iff.mp h)
  · intro input room h
    simp only [zstandard] at h ⊢
    cases hcontent : Zstandard.decompress input room with
    | error fault =>
      rw [hcontent] at h
      cases h
    | ok content =>
      rw [hcontent] at h
      simp only at h ⊢
      split at h
      · cases h
      · rename_i hsize
        rw [Array.length_toList]
        omega

end BlockCodec

theorem Bridge.codec_fills (bridge : Bridge) : bridge.codec.Fills := by
  rw [codec, Config.blockCodec]
  cases bridge.config.codec with
  | snappy => exact BlockCodec.snappy_fills _
  | zstandard => exact BlockCodec.zstandard_fills ..

/-- An output that is no longer than what is regrouped is overwritten as a whole. -/
theorem BitShuffle.apply_congr {direction : Direction} {input first second : Bytes} {count width : Nat}
    (hlength : second.length = first.length) (hroom : first.length ≤ count * width) :
    apply direction input second count width = apply direction input first count width := by
  rw [apply, apply, hlength]
  cases htotal : checkedTotal input.length first.length count width with
  | error cause => rfl
  | ok total =>
    obtain ⟨-, -, hinput, houtput, rfl⟩ := checkedTotal_eq_ok_iff.mp htotal
    have hwritten := length_transform direction hinput
    rw [Bytes.overlay_all (by omega), Bytes.overlay_all (by omega)]

theorem BitShuffle.processed_of_apply {direction : Direction} {input before after : Bytes}
    {count width processed : Nat}
    (h : apply direction input before count width = .ok (processed, after)) :
    processed = count * width ∧ processed ≤ after.length := by
  obtain ⟨total, htotal, h⟩ := bind_eq_ok_iff.mp h
  obtain ⟨-, -, -, houtput, rfl⟩ := checkedTotal_eq_ok_iff.mp htotal
  cases h
  rw [Bytes.length_overlay]
  exact ⟨rfl, houtput⟩

theorem Guard.Holds.inPart_of_span {guard : Guard} {buffer : Buffer} {role : Role} {window : Window}
    {region : Region} (h : guard.Holds buffer role) (hspan : guard.span window = .ok region)
    {block position : Nat} (hcovers : region.Covers block position) :
    buffer.region.InPart window.offset window.length block position := by
  obtain ⟨⟨-, hwithin⟩, rfl⟩ := Guard.span_eq_ok_iff.mp hspan
  rw [capacity] at hwithin
  rw [h.region] at hwithin hcovers
  exact Region.inPart_iff.mpr ⟨Region.covers_of_part hwithin hcovers, hcovers⟩

theorem Guard.length_of_span {guard : Guard} {window : Window} {region : Region}
    (h : guard.span window = .ok region) : region.length = window.length := by
  obtain ⟨-, rfl⟩ := Guard.span_eq_ok_iff.mp h
  rfl

/-- Of a window that has been filled up to some length, that much has been written. -/
theorem Guard.Holds.covers_of_inPart {guard : Guard} {buffer : Buffer} {role : Role} {window : Window}
    {region : Region} {length written : Nat} (h : guard.Holds buffer role)
    (hspan : guard.span window = .ok region) (hroom : length ≤ window.length)
    (hwritten : length ≤ written) {block position : Nat}
    (hpart : buffer.region.InPart window.offset length block position) :
    region.Covers block position ∧ position < region.start + written := by
  obtain ⟨-, rfl⟩ := Guard.span_eq_ok_iff.mp hspan
  obtain ⟨-, hblock, hstart, hstop⟩ := Region.inPart_iff.mp hpart
  rw [h.region]
  simp only [Region.part] at hblock hstart hstop
  refine ⟨⟨hblock, hstart, ?_⟩, ?_⟩
  · simp only [Region.part]
    omega
  · simp only [Region.part]
    omega

/-! ## The operations on buffers -/

namespace Dispatch

variable {c : Coupling} {known : Nat → Nat → Prop} {input input' output output' : Buffer}
variable {codec : BlockCodec} {window : Window} {offset : Nat}

theorem maxCompressedLength_runs (length : Nat) :
    c.Runs known (maxCompressedLength codec length) (maxCompressedLength codec length)
      fun _ _ _ => False :=
  .bind_note (.ofExcept fun _ _ _ _ h => h.elim)

section

variable (hinput : c.Pairs input input')
  (hknown : ∀ block position, input.region.InPart window.offset window.length block position →
    known block position)

include hinput hknown

theorem inspect_runs {α : Type} (ask : Bytes → CodecCall) (answer : Bytes → Except Failure α) :
    c.Runs known (inspect input window ask answer) (inspect input' window ask answer)
      fun _ _ _ => False := by
  refine .withGuard hinput fun src src' hsrc hholds => ?_
  rw [(c.place hsrc).span_eq]
  refine .bind_ofExcept fun source hspan => ?_
  refine .bind_read (fun _ _ h => hknown _ _ (hholds.inPart_of_span hspan h)) fun memory _ => ?_
  exact .bind_note (.ofExcept fun _ _ _ _ h => h.elim)

variable (houtput : c.Pairs output output')

include houtput

theorem compress_runs (hfills : codec.Fills) :
    c.Runs known (compress codec input window output offset)
      (compress codec input' window output' offset) fun length => output.region.InPart offset length := by
  refine (maxCompressedLength_runs window.length).bind fun _ => ?_
  refine .withPair hinput houtput fun src src' dst dst' hsrc hdst hsrcHolds hdstHolds => ?_
  rw [(c.place hdst).capacity_eq]
  split
  · exact .fail
  · rw [(c.place hsrc).splitWindows_eq (c.place hdst)]
    refine .bind_ofExcept fun ⟨source, destination⟩ hsplit => ?_
    obtain ⟨hsource, hdestination, -⟩ := splitWindows_eq_ok_iff.mp hsplit
    refine .bind_read (fun _ _ h => .inl (hknown _ _ (hsrcHolds.inPart_of_span hsource h)))
      fun memory _ => ?_
    refine .bind_note (.bind_deliver fun length hlength => .bind_note_compressed hsrc hdst (.pure ?_))
    intro block position hproduced
    obtain ⟨hroom, hwritten⟩ := hfills.compress hlength
    rw [Guard.length_of_span hdestination] at hroom
    exact .inr (hdstHolds.covers_of_inPart hdestination hroom hwritten hproduced)

theorem uncompress_runs (hfills : codec.Fills) :
    c.Runs known (uncompress codec input window output offset)
      (uncompress codec input' window output' offset)
      fun length => output.region.InPart offset length := by
  refine .withPair hinput houtput fun src src' dst dst' hsrc hdst hsrcHolds hdstHolds => ?_
  rw [(c.place hsrc).span_eq, (c.place hdst).capacity_eq]
  refine .bind_ofExcept fun source hspan => ?_
  refine .bind_read (fun _ _ h => hknown _ _ (hsrcHolds.inPart_of_span hspan h)) fun memory _ => ?_
  refine .bind_note (.bind_ofExcept fun length _ => ?_)
  extract_lets target fits decode decode'
  -- whether or not the target fits, both go on in the same way
  have hdecode : ∀ checked, c.Runs known (decode checked) (decode' checked)
      fun length => output.region.InPart offset length := by
    intro checked
    simp only [decode, decode', (c.place hsrc).splitWindows_eq (c.place hdst)]
    split
    · exact .fail
    · refine .bind_ofExcept fun ⟨_, destination⟩ hsplit => ?_
      refine .bind_note (.bind_deliver fun _ hfilled => .bind_note (.pure ?_))
      intro block position hproduced
      obtain ⟨-, hdestination, -⟩ := splitWindows_eq_ok_iff.mp hsplit
      have hlength := Guard.length_of_span hdestination
      have hwritten := hfills.uncompress hfilled
      exact .inr (hdstHolds.covers_of_inPart hdestination (Nat.le_refl _)
        (Nat.le_trans (Nat.le_of_eq hlength.symm) hwritten) hproduced)
  split
  · exact .bind_note (hdecode ())
  · exact hdecode ()

/-- What a copy has produced is known where the source is backed, so that all its bytes are there. -/
theorem copy_runs (allowOverlap : Bool) :
    c.Runs known (copy input window output offset allowOverlap)
      (copy input' window output' offset allowOverlap)
      fun _ block position => c.Backed input.region ∧
        output.region.InPart offset window.length block position := by
  refine .withPair hinput houtput fun src src' dst dst' hsrc hdst hsrcHolds hdstHolds => ?_
  rw [(c.place hsrc).copyWindow_eq (c.place hdst)]
  refine .bind_ofExcept fun _ _ => .bind_ofExcept fun source hsource => ?_
  refine .bind_ofExcept fun destination hdestination => ?_
  split
  · exact .fail
  · refine .bind_read (fun _ _ h => hknown _ _ (hsrcHolds.inPart_of_span hsource h))
      fun memory hbacked => .write ?_
    intro block position ⟨hsourceBacked, hproduced⟩
    obtain ⟨⟨-, hwithin⟩, rfl⟩ := Guard.span_eq_ok_iff.mp hsource
    rw [hsrcHolds.capacity_eq] at hwithin
    rw [hsrcHolds.region, (hbacked _ hsourceBacked).length_read hwithin]
    exact .inr (hdstHolds.covers_of_inPart hdestination (Nat.le_refl _) (Nat.le_refl _) hproduced)

end

theorem shuffle_runs {direction : BitShuffle.Direction} {request : ShuffleRequest}
    {policy : RemainderPolicy} (hinput : c.Pairs input input') (houtput : c.Pairs output output')
    (hknown : ∀ block position, input.region.InPart request.inputOffset
      (request.length / request.elementSize.bytes * request.elementSize.bytes : Nat) block position →
      known block position) :
    c.Runs known (shuffle direction input output request policy)
      (shuffle direction input' output' request policy)
      fun processed => output.region.InPart request.outputOffset processed := by
  refine .bind_ofExcept fun count hcount => ?_
  obtain rfl := ElementSize.eq_div_of_count_eq_ok hcount
  refine .withPair hinput houtput fun src src' dst dst' hsrc hdst hsrcHolds hdstHolds => ?_
  rw [(c.place hsrc).splitWindows_eq (c.place hdst)]
  refine .bind_ofExcept fun ⟨source, destination⟩ hsplit => ?_
  obtain ⟨hsource, hdestination, -⟩ := splitWindows_eq_ok_iff.mp hsplit
  refine .bind_read (fun _ _ h => hknown _ _ (hsrcHolds.inPart_of_span hsource h)) fun memory _ => ?_
  -- what the output held before may differ, and all of it goes
  refine .bind_read_unknown fun before before' hlength hroom => .bind_note ?_
  rw [Guard.length_of_span hdestination] at hroom
  rw [BitShuffle.apply_congr hlength hroom]
  cases happly : BitShuffle.apply direction _ before _ request.elementSize.bytes with
  | error cause => exact .fail
  | ok outcome =>
    obtain ⟨processed, after⟩ := outcome
    obtain ⟨rfl, hwritten⟩ := BitShuffle.processed_of_apply happly
    refine .bind_write ?_
    split
    · exact .bind_note (.pure fun _ _ h =>
        .inr (hdstHolds.covers_of_inPart hdestination (Nat.le_refl _) hwritten h))
    · exact .pure fun _ _ h =>
        .inr (hdstHolds.covers_of_inPart hdestination (Nat.le_refl _) hwritten h)

end Dispatch

/-! ## The operations behind the calls -/

theorem Coupling.Runs.bind_toHostInt {c : Coupling} {known : Nat → Nat → Prop} {op op' : Op Nat}
    {region : Region} {offset : Int} (h : c.Runs known op op' fun length => region.InPart offset length) :
    c.Runs known (op >>= fun length => liftM (toHostInt length))
      (op' >>= fun length => liftM (toHostInt length))
      fun value => region.InPart offset value.toInt := by
  refine h.bind fun length => .ofExcept ?_
  intro value hvalue block position hproduced
  rw [toHostInt_eq_ok_iff.mp hvalue] at hproduced
  exact .inr hproduced

section

variable {c : Coupling} {known : Nat → Nat → Prop} {α : Type} {gains : α → Nat → Nat → Prop}

/-- Calls with the same integers go on with one window, whose bytes are those that are known. -/
theorem Window.runs_ofHost {input : Buffer} {offset length : Int32} {next next' : Window → Op α}
    (hknown : ∀ block position, input.region.InPart offset.toInt length.toInt block position →
      known block position)
    (hnext : ∀ window, Window.ofHost offset length = .ok window →
      (∀ block position, input.region.InPart window.offset window.length block position →
        known block position) → c.Runs known (next window) (next' window) gains) :
    c.Runs known
      (do
        let window ← Window.ofHost offset length
        next window)
      (do
        let window ← Window.ofHost offset length
        next' window) gains := by
  refine .bind_ofExcept fun window hwindow => ?_
  obtain ⟨hoffset, hlength⟩ := Window.ofHost_eq_ok_iff.mp hwindow
  rw [hoffset, hlength] at hknown
  exact hnext window hwindow hknown

variable {args : Transfer} {what : String}
  (hknown : ∀ block position, args.Source args.length.toInt block position → known block position)

include hknown

theorem Transfer.runs_ofHost {next next' : Window → Nat → Op α}
    (hnext : ∀ window offset, args.Asks window offset →
      (∀ block position, args.input.region.InPart window.offset window.length block position →
        known block position) → c.Runs known (next window offset) (next' window offset) gains) :
    c.Runs known
      (do
        let window ← Window.ofHost args.inputOffset args.length
        let offset ← nonNegative args.outputOffset what
        next window offset)
      (do
        let window ← Window.ofHost args.inputOffset args.length
        let offset ← nonNegative args.outputOffset what
        next' window offset) gains :=
  Window.runs_ofHost hknown fun window hwindow hknown => .bind_ofExcept fun offset hoffset =>
    have hinput := Window.ofHost_eq_ok_iff.mp hwindow
    hnext window offset ⟨hinput.1, hinput.2, nonNegative_eq_ok_iff.mp hoffset⟩ hknown

/-- Calls that fill their outputs and tell how far. -/
theorem Transfer.runs_filling {next next' : Window → Nat → Op Nat}
    (hnext : ∀ (window : Window) (offset : Nat),
      (∀ block position, args.input.region.InPart window.offset window.length block position →
        known block position) → c.Runs known (next window offset) (next' window offset)
          fun length => args.output.region.InPart offset length) :
    c.Runs known
      (do
        let window ← Window.ofHost args.inputOffset args.length
        let offset ← nonNegative args.outputOffset what
        let length ← next window offset
        toHostInt length)
      (do
        let window ← Window.ofHost args.inputOffset args.length
        let offset ← nonNegative args.outputOffset what
        let length ← next' window offset
        toHostInt length)
      fun value => args.Destination value.toInt := by
  refine Transfer.runs_ofHost hknown fun window offset hasks hknown => ?_
  simp only [Transfer.Destination, hasks.outputOffset]
  exact .bind_toHostInt (hnext window offset hknown)

end

namespace Bridge

variable (bridge : Bridge) {c : Coupling} {known : Nat → Nat → Prop}

section

variable {args : Transfer} {input output : Buffer} (hinput : c.Pairs args.input input)
  (houtput : c.Pairs args.output output)

include hinput houtput

section

variable (hknown : ∀ block position, args.Source args.length.toInt block position →
  known block position)

include hknown

theorem compressOp_runs :
    c.Runs known (bridge.compressOp args) (bridge.compressOp { args with input, output })
      fun value => args.Destination value.toInt :=
  Transfer.runs_filling hknown fun _ _ hknown =>
    Dispatch.compress_runs hinput hknown houtput bridge.codec_fills

theorem uncompressOp_runs :
    c.Runs known (bridge.uncompressOp args) (bridge.uncompressOp { args with input, output })
      fun value => args.Destination value.toInt :=
  Transfer.runs_filling hknown fun _ _ hknown =>
    Dispatch.uncompress_runs hinput hknown houtput bridge.codec_fills

theorem copyOp_runs :
    c.Runs known (bridge.copyOp args) (bridge.copyOp { args with input, output })
      fun _ block position => c.Backed args.input.region ∧
        args.Destination args.length.toInt block position := by
  refine Transfer.runs_ofHost hknown fun window offset hasks hknown => ?_
  simp only [Transfer.Destination, hasks.outputOffset, hasks.length]
  exact Dispatch.copy_runs hinput hknown houtput bridge.config.overlap

end

theorem shuffleOp_runs {direction : BitShuffle.Direction} {width : Int32}
    (hknown : ∀ block position, args.Source (args.shuffled width) block position →
      known block position) :
    c.Runs known (bridge.shuffleOp direction width args)
      (bridge.shuffleOp direction width { args with input, output })
      fun value => args.Destination value.toInt := by
  refine .bind_ofExcept fun inputOffset hinputOffset => .bind_ofExcept fun size hsize => ?_
  refine .bind_ofExcept fun length hlength => .bind_ofExcept fun outputOffset houtputOffset => ?_
  rw [nonNegative_eq_ok_iff] at hinputOffset hlength houtputOffset
  rw [Transfer.Source, hinputOffset, Transfer.shuffled, hlength, ElementSize.ofHost_eq_ok hsize] at hknown
  simp only [Transfer.Destination, houtputOffset]
  exact .bind_toHostInt (Dispatch.shuffle_runs hinput houtput hknown)

end

theorem maxCompressedLengthOp_runs (length : Int32) :
    c.Runs known (bridge.maxCompressedLengthOp length) (bridge.maxCompressedLengthOp length)
      fun _ _ _ => False :=
  .bind_ofExcept fun length _ => (Dispatch.maxCompressedLength_runs length).bind fun _ =>
    .ofExcept fun _ _ _ _ h => h.elim

section

variable {input input' : Buffer} {offset length : Int32} (hinput : c.Pairs input input')
  (hknown : ∀ block position, input.region.InPart offset.toInt length.toInt block position →
    known block position)

include hinput hknown

theorem uncompressedLengthOp_runs :
    c.Runs known (bridge.uncompressedLengthOp input offset length)
      (bridge.uncompressedLengthOp input' offset length) fun _ _ _ => False :=
  Window.runs_ofHost hknown fun _ _ hknown =>
    (Dispatch.inspect_runs hinput hknown _ _).bind fun _ => .ofExcept fun _ _ _ _ h => h.elim

theorem isValidOp_runs :
    c.Runs known (bridge.isValidOp input offset length) (bridge.isValidOp input' offset length)
      fun _ _ _ => False :=
  Window.runs_ofHost hknown fun _ _ hknown => Dispatch.inspect_runs hinput hknown _ _

end

end Bridge

/-! ## Calls -/

namespace Call

/-- The same call on buffers that stand for one another. A call that demands off-heap buffers finds them
in both places or misses them in the same way. -/
inductive Paired (pairs : Buffer → Buffer → Prop) : Call → Call → Prop
  | compress {args : Transfer} {input output : Buffer} : pairs args.input input →
      pairs args.output output → Paired pairs (.compress args) (.compress { args with input, output })
  | uncompress {args : Transfer} {input output : Buffer} : pairs args.input input →
      pairs args.output output → Paired pairs (.uncompress args) (.uncompress { args with input, output })
  | compressDirect {args : Transfer} {input output : Buffer} : pairs args.input input →
      pairs args.output output → requireDirect input output = requireDirect args.input args.output →
      Paired pairs (.compressDirect args) (.compressDirect { args with input, output })
  | uncompressDirect {args : Transfer} {input output : Buffer} : pairs args.input input →
      pairs args.output output → requireDirect input output = requireDirect args.input args.output →
      Paired pairs (.uncompressDirect args) (.uncompressDirect { args with input, output })
  | maxCompressedLength (length : Int32) :
      Paired pairs (.maxCompressedLength length) (.maxCompressedLength length)
  | uncompressedLength {input input' : Buffer} (offset length : Int32) : pairs input input' →
      Paired pairs (.uncompressedLength input offset length) (.uncompressedLength input' offset length)
  | isValid {input input' : Buffer} (offset length : Int32) : pairs input input' →
      Paired pairs (.isValid input offset length) (.isValid input' offset length)
  | copy {args : Transfer} {input output : Buffer} : pairs args.input input →
      pairs args.output output → Paired pairs (.copy args) (.copy { args with input, output })
  | shuffle (direction : BitShuffle.Direction) (width : Int32) {args : Transfer}
      {input output : Buffer} : pairs args.input input → pairs args.output output →
      Paired pairs (.shuffle direction width args) (.shuffle direction width { args with input, output })
  | shuffleDirect (direction : BitShuffle.Direction) (width : Int32) {args : Transfer}
      {input output : Buffer} : pairs args.input input → pairs args.output output →
      requireDirect input output = requireDirect args.input args.output →
      Paired pairs (.shuffleDirect direction width args)
        (.shuffleDirect direction width { args with input, output })

theorem paired_self {pairs : Buffer → Buffer → Prop} (h : ∀ buffer, pairs buffer buffer) (call : Call) :
    Paired pairs call call := by
  cases call with
  | compress => exact .compress (h _) (h _)
  | uncompress => exact .uncompress (h _) (h _)
  | compressDirect => exact .compressDirect (h _) (h _) rfl
  | uncompressDirect => exact .uncompressDirect (h _) (h _) rfl
  | maxCompressedLength length => exact .maxCompressedLength length
  | uncompressedLength input offset length => exact .uncompressedLength offset length (h _)
  | isValid input offset length => exact .isValid offset length (h _)
  | copy => exact .copy (h _) (h _)
  | shuffle direction width => exact .shuffle direction width (h _) (h _)
  | shuffleDirect direction width => exact .shuffleDirect direction width (h _) (h _) rfl

/-- The addresses that hold what a call has produced, once it has replied. -/
def Produces : Call → Reply → Nat → Nat → Prop
  | compress args, .number value | uncompress args, .number value
  | compressDirect args, .number value | uncompressDirect args, .number value
  | shuffle _ _ args, .number value | shuffleDirect _ _ args, .number value =>
    args.Destination value.toInt
  | copy args, .done => args.Destination args.length.toInt
  | _, _ => fun _ _ => False

variable {c : Coupling} {known : Nat → Nat → Prop} {call call' : Call}

/-- What a coupling learns from a reply, if it knows that the source is there at all. -/
def Teaches (c : Coupling) (call : Call) (reply : Reply) (block position : Nat) : Prop :=
  (∀ buffer, call.source? = some buffer → c.Backed buffer.region) ∧ call.Produces reply block position

theorem op_runs (bridge : Bridge) (h : Paired c.Pairs call call')
    (hknown : ∀ block position, call.Reads block position → known block position) :
    c.Runs known (call.op bridge) (call'.op bridge) (call.Teaches c) := by
  cases h with
  | compress hinput houtput =>
    exact (bridge.compressOp_runs hinput houtput hknown).map fun _ _ _ h => .inr h.2
  | uncompress hinput houtput =>
    exact (bridge.uncompressOp_runs hinput houtput hknown).map fun _ _ _ h => .inr h.2
  | compressDirect hinput houtput hdirect =>
    simp only [op, hdirect]
    exact .bind_ofExcept fun _ _ =>
      (bridge.compressOp_runs hinput houtput hknown).map fun _ _ _ h => .inr h.2
  | uncompressDirect hinput houtput hdirect =>
    simp only [op, hdirect]
    exact .bind_ofExcept fun _ _ =>
      (bridge.uncompressOp_runs hinput houtput hknown).map fun _ _ _ h => .inr h.2
  | maxCompressedLength length =>
    exact (bridge.maxCompressedLengthOp_runs length).map fun _ _ _ h => .inr h.2
  | uncompressedLength offset length hinput =>
    exact (bridge.uncompressedLengthOp_runs hinput hknown).map fun _ _ _ h => .inr h.2
  | isValid offset length hinput =>
    exact (bridge.isValidOp_runs hinput hknown).map fun _ _ _ h => .inr h.2
  | copy hinput houtput =>
    exact (bridge.copyOp_runs hinput houtput hknown).bind fun _ => .pure fun _ _ h =>
      .inr ⟨h.1 _ rfl, h.2⟩
  | shuffle direction width hinput houtput =>
    exact (bridge.shuffleOp_runs hinput houtput hknown).map fun _ _ _ h => .inr h.2
  | shuffleDirect direction width hinput houtput hdirect =>
    simp only [op, hdirect]
    exact .bind_ofExcept fun _ _ =>
      (bridge.shuffleOp_runs hinput houtput hknown).map fun _ _ _ h => .inr h.2

theorem Paired.sentinel_eq {pairs : Buffer → Buffer → Prop} (h : Paired pairs call call') :
    call'.sentinel = call.sentinel := by
  cases h <;> rfl

/-- **Calls that stand for one another have the same reply**, and after them the hosts are at the same
point, with what the calls have produced known. -/
theorem run_runs {host host' : Host} (bridge : Bridge) (h : Paired c.Pairs call call')
    (hknown : ∀ block position, call.Reads block position → known block position)
    (hat : c.At known host host') :
    (call'.run bridge host').1 = (call.run bridge host).1 ∧
      c.At (fun block position => known block position ∨
        ∃ reply, (call.op bridge host).1 = .ok reply ∧ call.Teaches c reply block position)
        (call.run bridge host).2 (call'.run bridge host').2 := by
  have hop := op_runs bridge h hknown host host' hat
  simp only [run, Op.call]
  generalize call.op bridge host = first, call'.op bridge host' = first' at hop
  rcases first with ⟨_, after⟩
  rcases first' with ⟨result, after'⟩
  obtain ⟨rfl, hat⟩ := hop
  cases result with
  | ok reply => exact ⟨rfl, hat⟩
  | error failure => exact ⟨h.sentinel_eq, c.note _ (c.note _ hat)⟩

end Call

end BufferBridge
