import BufferBridge.Bridge
import BufferBridge.Proofs.Delivery

/-!
# Which bytes a call can change

Whatever a call is given and however it ends, it changes bytes of its destination window only, and
none of its source window, unless it copies between windows that overlap. The frame is first stated
for the operations on buffers, where offsets and lengths are sizes, and then for the calls, where they
are the integers of the host.
-/
namespace BufferBridge

open Memory (SameBut)
open Op (Ensures)

/-! ## Where operations write -/

/-- An address of a window of the destination that is not one of a window of the source. -/
def Landing (source destination : Buffer) (srcWindow dstWindow : Window) (block position : Nat) : Prop :=
  destination.region.Covers block position ∧
    (destination.region.part dstWindow.offset dstWindow.length).Covers block position ∧
      ¬ (source.region.part srcWindow.offset srcWindow.length).Covers block position

theorem Region.covers_of_part {region : Region} {offset length block position : Nat}
    (hwithin : offset + length ≤ region.length) (h : (region.part offset length).Covers block position) :
    region.Covers block position := by
  obtain ⟨hblock, hstart, hstop⟩ := covers_part.mp h
  refine ⟨hblock, ?_, ?_⟩ <;> omega

/-- The second of two windows that can be carved is where the operation lands. -/
theorem Carvable.landing {input output : Buffer} {window target : Window}
    (h : Carvable input output window target) (block position : Nat)
    (hcovers : (output.region.part target.offset target.length).Covers block position) :
    Landing input output window target block position :=
  ⟨Region.covers_of_part h.takes.within hcovers, hcovers,
    fun hsource => h.takes.disjoint block position hsource hcovers⟩

namespace Dispatch

variable {memory : Memory} {may : Nat → Nat → Prop}

theorem compress_frame (codec : BlockCodec) (input : Buffer) (window : Window) (output : Buffer)
    (offset : Nat) (memory : Memory) :
    (compress codec input window output offset).Ensures memory fun _ after =>
      SameBut (Landing input output window ⟨offset, output.region.length - offset⟩) memory after :=
  compress_ensures (fun _ => .refl _) fun _ _ _ hcarvable => .write _ hcarvable.landing

theorem uncompress_frame (codec : BlockCodec) (input : Buffer) (window : Window) (output : Buffer)
    (offset : Nat) (memory : Memory) :
    (uncompress codec input window output offset).Ensures memory fun _ after =>
      SameBut (fun block position => ∃ length,
        codec.uncompressedLength (memory.read (input.region.part window.offset window.length)) =
          .ok length ∧ Landing input output window ⟨offset, length⟩ block position) memory after := by
  refine uncompress_ensures (fun _ => .refl _) fun length hlength hcarvable => .write _ ?_
  intro block position hcovers
  exact ⟨length, hlength, hcarvable.landing block position hcovers⟩

theorem maxCompressedLength_frame (codec : BlockCodec) (length : Nat) (memory : Memory) :
    (maxCompressedLength codec length).Ensures memory fun _ after => SameBut may memory after :=
  .bind_note (.ofExcept (.refl _))

theorem inspect_frame {α : Type} (input : Buffer) (window : Window) (ask : Bytes → CodecCall)
    (answer : Bytes → Except Failure α) (memory : Memory) :
    (inspect input window ask answer).Ensures memory fun _ after => SameBut may memory after :=
  withGuard_ensures (fun _ => .refl _) fun _ _ => .bind_ofExcept (fun _ _ => .refl _) fun _ _ =>
    .bind_read (.bind_note (.ofExcept (.refl _)))

/-- A copy may land on its own source, unlike the operations that need two separate windows. -/
theorem copy_frame (source : Buffer) (window : Window) (destination : Buffer) (offset : Nat)
    (allowOverlap : Bool) (memory : Memory) :
    (copy source window destination offset allowOverlap).Ensures memory fun _ after =>
      SameBut (fun block position => destination.region.Covers block position ∧
        (destination.region.part offset window.length).Covers block position) memory after := by
  refine copy_ensures (fun _ => .refl _) fun hcopyable => .write _ ?_
  intro block position hcovers
  exact ⟨Region.covers_of_part hcopyable.target_within hcovers, hcovers⟩

theorem shuffle_frame (direction : BitShuffle.Direction) (input output : Buffer)
    (request : ShuffleRequest) (policy : RemainderPolicy) (memory : Memory) :
    (shuffle direction input output request policy).Ensures memory fun _ after =>
      SameBut (Landing input output
        ⟨request.inputOffset, request.length / request.elementSize.bytes * request.elementSize.bytes⟩
        ⟨request.outputOffset, request.length / request.elementSize.bytes * request.elementSize.bytes⟩)
        memory after := by
  refine shuffle_ensures (fun _ => .refl _) ?_
  intro count total processed regrouped hcount htotal hcarvable _
  obtain rfl := ElementSize.eq_div_of_count_eq_ok hcount
  subst htotal
  exact .write _ hcarvable.landing

end Dispatch

/-! ## Where calls write -/

/-- An address of a part of a region that is given by integers: `length` bytes from `offset` on, as far
as they are bytes of the region. -/
def Region.InPart (region : Region) (offset length : Int) (block position : Nat) : Prop :=
  region.Covers block position ∧
    region.start + offset ≤ position ∧ position < region.start + offset + length

theorem Region.inPart_iff {region : Region} {offset length block position : Nat} :
    region.InPart offset length block position ↔
      region.Covers block position ∧ (region.part offset length).Covers block position := by
  rw [InPart, covers_part]
  constructor
  · intro h
    obtain ⟨hcovers, hstart, hstop⟩ := h
    exact ⟨hcovers, hcovers.1, by omega, by omega⟩
  · intro h
    obtain ⟨hcovers, -, hstart, hstop⟩ := h
    exact ⟨hcovers, by omega, by omega⟩

namespace Transfer

/-- The window and the offset that the integers of a transfer stand for. -/
structure Asks (args : Transfer) (window : Window) (offset : Nat) : Prop where
  inputOffset : args.inputOffset.toInt = window.offset
  length : args.length.toInt = window.length
  outputOffset : args.outputOffset.toInt = offset

/-- The addresses of `length` bytes of the input. -/
def Source (args : Transfer) (length : Int) : Nat → Nat → Prop :=
  args.input.region.InPart args.inputOffset.toInt length

/-- The addresses of `length` bytes of the output. -/
def Destination (args : Transfer) (length : Int) : Nat → Nat → Prop :=
  args.output.region.InPart args.outputOffset.toInt length

/-- The number of bytes that are shuffled in elements of some width: the whole elements only. -/
def shuffled (args : Transfer) (width : Int32) : Int :=
  args.length.toInt / width.toInt * width.toInt

/-- The region of the bytes that are decompressed. -/
def compressed (args : Transfer) : Region :=
  args.input.region.part args.inputOffset.toInt.toNat args.length.toInt.toNat

end Transfer

namespace Call

/-- The addresses that a call takes its input from. -/
def Reads : Call → Nat → Nat → Prop
  | compress args | uncompress args | compressDirect args | uncompressDirect args | copy args =>
    args.Source args.length.toInt
  | shuffle _ width args | shuffleDirect _ width args => args.Source (args.shuffled width)
  | uncompressedLength input offset length | isValid input offset length =>
    input.region.InPart offset.toInt length.toInt
  | maxCompressedLength _ => fun _ _ => False

/-- The addresses that a call may write to: to compress, all that is left of the output; to decompress,
as many bytes as the input declares; to copy, as many as are copied; to shuffle, as many as are
shuffled. -/
def MayWrite (bridge : Bridge) (memory : Memory) : Call → Nat → Nat → Prop
  | compress args | compressDirect args =>
    args.Destination (args.output.region.length - args.outputOffset.toInt)
  | uncompress args | uncompressDirect args => fun block position => ∃ length : Nat,
    bridge.codec.uncompressedLength (memory.read args.compressed) = .ok length ∧
      args.Destination length block position
  | copy args => args.Destination args.length.toInt
  | shuffle _ width args | shuffleDirect _ width args => args.Destination (args.shuffled width)
  | maxCompressedLength _ | uncompressedLength .. | isValid .. => fun _ _ => False

/-- Whether a call is a copy between windows that have an address in common. -/
def CopiesOverItself : Call → Prop
  | copy args => ∃ block position,
    args.Source args.length.toInt block position ∧ args.Destination args.length.toInt block position
  | _ => False

end Call

/-! ## The frame of the calls -/

namespace Transfer

variable {α : Type} {args : Transfer} {what : String} {next : Window → Nat → Op α}

/-- Integers that stand for a window and an offset are read as these. -/
theorem Asks.bind_ofHost {window : Window} {offset : Nat} (h : args.Asks window offset) :
    (do
      let window ← Window.ofHost args.inputOffset args.length
      let offset ← nonNegative args.outputOffset what
      next window offset) = next window offset := by
  rw [Window.ofHost_eq_ok_iff.mpr ⟨h.inputOffset, h.length⟩, nonNegative_eq_ok_iff.mpr h.outputOffset]
  rfl

/-- What holds before the integers are read, and after what is done with those that they stand for. -/
theorem ensures_ofHost {memory : Memory} {post : Except Failure α → Memory → Prop}
    (hfails : ∀ failure, post (.error failure) memory)
    (hnext : ∀ window offset, args.Asks window offset → (next window offset).Ensures memory post) :
    (do
      let window ← Window.ofHost args.inputOffset args.length
      let offset ← nonNegative args.outputOffset what
      next window offset : Op α).Ensures memory post := by
  refine .bind_ofExcept (fun failure _ => hfails failure) fun window hwindow => ?_
  refine .bind_ofExcept (fun failure _ => hfails failure) fun offset hoffset => ?_
  obtain ⟨hinput, hlength⟩ := Window.ofHost_eq_ok_iff.mp hwindow
  exact hnext window offset ⟨hinput, hlength, nonNegative_eq_ok_iff.mp hoffset⟩

end Transfer

/-- Where an operation lands, told in the integers of the host. -/
theorem Transfer.destination_of_landing {args : Transfer} {window : Window}
    {offset length block position : Nat} (hinput : args.inputOffset.toInt = window.offset)
    (houtput : args.outputOffset.toInt = offset)
    (h : Landing args.input args.output window ⟨offset, length⟩ block position) :
    args.Destination length block position ∧ ¬ args.Source window.length block position := by
  obtain ⟨hcovers, ⟨-, hstart, hstop⟩, hsource⟩ := h
  simp only [Region.part] at hstart hstop
  refine ⟨⟨hcovers, ?_, ?_⟩, ?_⟩
  · omega
  · omega
  · intro h
    obtain ⟨hin, hfirst, hlast⟩ := h
    refine hsource ⟨hin.1, ?_, ?_⟩ <;> simp only [Region.part] <;> omega

namespace Bridge

variable (bridge : Bridge)

theorem compressOp_frame (args : Transfer) (memory : Memory) :
    (bridge.compressOp args).Ensures memory fun _ after =>
      SameBut (fun block position =>
        args.Destination (args.output.region.length - args.outputOffset.toInt) block position ∧
          ¬ args.Source args.length.toInt block position) memory after := by
  refine Transfer.ensures_ofHost (fun _ => .refl _) fun window offset ⟨hinput, hlength, houtput⟩ => ?_
  refine (Dispatch.compress_frame bridge.codec args.input window args.output offset memory).bind
    (fun _ _ h => h.mono ?_) fun _ _ h => .ofExcept (h.mono ?_)
  all_goals
    intro block position hland
    obtain ⟨⟨hcovers, hstart, hstop⟩, hnot⟩ :=
      Transfer.destination_of_landing hinput houtput hland
    rw [← hlength] at hnot
    have hbound := hcovers.2.2
    exact ⟨⟨hcovers, hstart, by omega⟩, hnot⟩

theorem uncompressOp_frame (args : Transfer) (memory : Memory) :
    (bridge.uncompressOp args).Ensures memory fun _ after =>
      SameBut (fun block position => (∃ length : Nat,
        bridge.codec.uncompressedLength (memory.read args.compressed) = .ok length ∧
          args.Destination length block position) ∧
          ¬ args.Source args.length.toInt block position) memory after := by
  refine Transfer.ensures_ofHost (fun _ => .refl _) fun window offset ⟨hinput, hlength, houtput⟩ => ?_
  refine (Dispatch.uncompress_frame bridge.codec args.input window args.output offset memory).bind
    (fun _ _ h => h.mono ?_) fun _ _ h => .ofExcept (h.mono ?_)
  all_goals
    rintro block position ⟨length, hdeclared, hland⟩
    obtain ⟨hdestination, hnot⟩ := Transfer.destination_of_landing hinput houtput hland
    rw [Transfer.compressed, hinput, hlength]
    exact ⟨⟨length, hdeclared, hdestination⟩, hnot⟩

theorem copyOp_frame (args : Transfer) (memory : Memory) :
    (bridge.copyOp args).Ensures memory fun _ after =>
      SameBut (args.Destination args.length.toInt) memory after := by
  refine Transfer.ensures_ofHost (fun _ => .refl _) fun window offset ⟨_, hlength, houtput⟩ => ?_
  refine (Dispatch.copy_frame args.input window args.output offset bridge.config.overlap memory).mono
    fun _ _ h => h.mono ?_
  rintro block position ⟨hcovers, hpart⟩
  rw [Region.covers_part] at hpart
  refine ⟨hcovers, ?_⟩
  omega

theorem shuffleOp_frame (direction : BitShuffle.Direction) (width : Int32) (args : Transfer)
    (memory : Memory) :
    (bridge.shuffleOp direction width args).Ensures memory fun _ after =>
      SameBut (fun block position => args.Destination (args.shuffled width) block position ∧
        ¬ args.Source (args.shuffled width) block position) memory after := by
  refine .bind_ofExcept (fun _ _ => .refl _) fun inputOffset hinputOffset => ?_
  refine .bind_ofExcept (fun _ _ => .refl _) fun elementSize hsize => ?_
  refine .bind_ofExcept (fun _ _ => .refl _) fun length hlength => ?_
  refine .bind_ofExcept (fun _ _ => .refl _) fun outputOffset houtputOffset => ?_
  have hinput := nonNegative_eq_ok_iff.mp hinputOffset
  have houtput := nonNegative_eq_ok_iff.mp houtputOffset
  have hshuffled : args.shuffled width = (length / elementSize.bytes * elementSize.bytes : Nat) := by
    rw [Transfer.shuffled, nonNegative_eq_ok_iff.mp hlength, ElementSize.ofHost_eq_ok hsize]
    rfl
  refine (Dispatch.shuffle_frame direction args.input args.output
    ⟨inputOffset, elementSize, length, outputOffset⟩ bridge.config.remainder memory).bind
    (fun _ _ h => h.mono ?_) fun _ _ h => .ofExcept (h.mono ?_)
  all_goals
    intro block position hland
    rw [hshuffled]
    exact Transfer.destination_of_landing hinput houtput hland

end Bridge

theorem settle_memory {α : Type} [Sentinel α] (result : Except Failure α) (host : Host) :
    (settle result host).2.memory = host.memory := by
  cases result <;> rfl

/-- The frame of the operation behind a call. -/
theorem Call.op_frame (bridge : Bridge) (call : Call) (memory : Memory) :
    (call.op bridge).Ensures memory fun _ after =>
      SameBut (fun block position => call.MayWrite bridge memory block position ∧
        (call.Reads block position → call.CopiesOverItself)) memory after := by
  have hseparate : ∀ {may source : Nat → Nat → Prop} {after : Memory} {itself : Prop},
      SameBut (fun block position => may block position ∧ ¬ source block position) memory after →
      SameBut (fun block position => may block position ∧ (source block position → itself))
        memory after :=
    fun h => h.mono fun _ _ hin => ⟨hin.1, fun hsource => absurd hsource hin.2⟩
  cases call with
  | compress args => exact .map ((bridge.compressOp_frame args memory).mono fun _ _ => hseparate)
  | uncompress args => exact .map ((bridge.uncompressOp_frame args memory).mono fun _ _ => hseparate)
  | compressDirect args =>
    exact .bind_ofExcept (fun _ _ => .refl _) fun _ _ =>
      .map ((bridge.compressOp_frame args memory).mono fun _ _ => hseparate)
  | uncompressDirect args =>
    exact .bind_ofExcept (fun _ _ => .refl _) fun _ _ =>
      .map ((bridge.uncompressOp_frame args memory).mono fun _ _ => hseparate)
  | maxCompressedLength length =>
    exact .map (.bind_ofExcept (fun _ _ => .refl _) fun length _ =>
      (Dispatch.maxCompressedLength_frame bridge.codec length memory).bind (fun _ _ h => h)
        fun _ _ h => .ofExcept h)
  | uncompressedLength input offset length =>
    exact .map (.bind_ofExcept (fun _ _ => .refl _) fun window _ =>
      (Dispatch.inspect_frame input window _ _ memory).bind (fun _ _ h => h)
        fun _ _ h => .ofExcept h)
  | isValid input offset length =>
    exact .map (.bind_ofExcept (fun _ _ => .refl _) fun window _ =>
      Dispatch.inspect_frame input window _ _ memory)
  | copy args =>
    -- the one call whose windows may overlap, and then an address of both shows it
    refine ((bridge.copyOp_frame args memory).mono fun _ _ h => h.mono ?_).bind
      (fun _ _ h => h) fun _ _ h => .pure h
    intro block position hdestination
    exact ⟨hdestination, fun hsource => ⟨block, position, hsource, hdestination⟩⟩
  | shuffle direction width args =>
    exact .map ((bridge.shuffleOp_frame direction width args memory).mono fun _ _ => hseparate)
  | shuffleDirect direction width args =>
    exact .bind_ofExcept (fun _ _ => .refl _) fun _ _ =>
      .map ((bridge.shuffleOp_frame direction width args memory).mono fun _ _ => hseparate)

/-- **A call leaves every byte of the memory as it was, other than bytes that it may write to**, and
these are none of the bytes that it reads from unless it is a copy that overlaps itself. -/
theorem Call.run_frame (bridge : Bridge) (call : Call) (host : Host) :
    SameBut (fun block position => call.MayWrite bridge host.memory block position ∧
      (call.Reads block position → call.CopiesOverItself))
      host.memory (call.run bridge host).2.memory := by
  have hmemory : (call.run bridge host).2.memory = (call.op bridge host).2.memory :=
    @settle_memory _ ⟨call.sentinel⟩ (call.op bridge host).1 (call.op bridge host).2
  rw [hmemory]
  exact call.op_frame bridge host.memory host rfl

end BufferBridge
