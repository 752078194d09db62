import BufferBridge.Bridge
import BufferBridge.Proofs.Delivery

/-!
# Failures that leave the memory alone

An operation writes only when everything that it checks has been checked. So where it fails after a
byte has changed, it was the codec that failed while it wrote; any other failure finds the memory as it
was.
-/
namespace BufferBridge

/-- Whether it was a codec, or the transform, that turned the data down. -/
def Failure.isCodec : Failure → Bool
  | codec .. => true
  | unavailable _ | outOfMemory _ | invalid _ => false

namespace Op

variable {α : Type}

/-- Where the operation fails, and not because a codec turned the data down, no byte has changed. -/
def Atomic (op : Op α) : Prop :=
  ∀ host failure, (op host).1 = .error failure → failure.isCodec = false →
    (op host).2.memory = host.memory

end Op

section

variable {α : Type} {memory : Memory} {blame : Failure → Prop}

/-- Where the result is a failure, it is one to blame, or the memory is still what it was. -/
def Unspoiled (blame : Failure → Prop) (memory : Memory) (result : Except Failure α) (after : Memory) :
    Prop :=
  ∀ failure, result = .error failure → blame failure ∨ after = memory

theorem Unspoiled.same (result : Except Failure α) : Unspoiled blame memory result memory :=
  fun _ _ => .inr rfl

theorem Unspoiled.ok (value : α) (after : Memory) : Unspoiled blame memory (.ok value) after :=
  fun _ h => nomatch h

/-- What is left behind by something that fails is spoiled by that alone. -/
theorem Unspoiled.of_result {result : Except Failure α} (after : Memory)
    (h : ∀ failure, result = .error failure → blame failure) : Unspoiled blame memory result after :=
  fun failure hfails => .inl (h failure hfails)

end

/-! ## What a failed operation blames -/

/-- A failure of a codec to compress something. -/
def BlockCodec.FailsToCompress (codec : BlockCodec) (failure : Failure) : Prop :=
  ∃ input room, (codec.compress input room).result = .error failure

/-- A failure of a codec to decompress something. -/
def BlockCodec.FailsToUncompress (codec : BlockCodec) (failure : Failure) : Prop :=
  ∃ input room, (codec.uncompress input room).result = .error failure

namespace Dispatch

theorem compress_unspoiled (codec : BlockCodec) (input : Buffer) (window : Window) (output : Buffer)
    (offset : Nat) (memory : Memory) :
    (compress codec input window output offset).Ensures memory
      (Unspoiled codec.FailsToCompress memory) := by
  refine compress_ensures (fun _ => .same _) fun _ _ _ _ => .of_result _ fun failure hfails => ?_
  exact ⟨_, _, hfails⟩

theorem uncompress_unspoiled (codec : BlockCodec) (input : Buffer) (window : Window) (output : Buffer)
    (offset : Nat) (memory : Memory) :
    (uncompress codec input window output offset).Ensures memory
      (Unspoiled codec.FailsToUncompress memory) := by
  refine uncompress_ensures (fun _ => .same _) fun length _ _ => .of_result _ fun failure hfails => ?_
  exact ⟨_, _, map_eq_error_iff.mp hfails⟩

/-- To copy fails before the write, if at all. -/
theorem copy_unspoiled (source : Buffer) (window : Window) (destination : Buffer) (offset : Nat)
    (allowOverlap : Bool) (memory : Memory) :
    (copy source window destination offset allowOverlap).Ensures memory
      (Unspoiled (fun _ => False) memory) :=
  copy_ensures (fun _ => .same _) fun _ => .ok () _

/-- The transform looks at the sizes first, and so to shuffle, too, fails before the write. -/
theorem shuffle_unspoiled (direction : BitShuffle.Direction) (input output : Buffer)
    (request : ShuffleRequest) (policy : RemainderPolicy) (memory : Memory) :
    (shuffle direction input output request policy).Ensures memory
      (Unspoiled (fun _ => False) memory) :=
  shuffle_ensures (fun _ => .same _) fun _ _ processed _ _ _ _ _ => .ok processed _

end Dispatch

/-- An operation is atomic if all that it can blame is a codec. -/
theorem Op.atomic_of_unspoiled {α : Type} {op : Op α} {blame : Failure → Prop}
    (hblame : ∀ failure, blame failure → failure.isCodec = true)
    (h : ∀ memory, op.Ensures memory (Unspoiled blame memory)) : op.Atomic := by
  intro host failure hfails hcodec
  rcases h host.memory host rfl failure hfails with hblamed | hsame
  · rw [hblame failure hblamed] at hcodec
    cases hcodec
  · exact hsame

/-! ## Codecs that fail as codecs do -/

/-- A codec that reports all that goes wrong in it as a failure of a codec. -/
structure BlockCodec.FailsAsCodec (codec : BlockCodec) : Prop where
  compress : ∀ failure, codec.FailsToCompress failure → failure.isCodec = true
  uncompress : ∀ failure, codec.FailsToUncompress failure → failure.isCodec = true

namespace BlockCodec

theorem snappy_failsAsCodec (reader : Snappy.Reader) : (snappy reader).FailsAsCodec := by
  constructor
  · rintro failure ⟨input, room, h⟩
    simp only [snappy] at h
    split at h
    · cases h
      rfl
    · split at h
      · cases h
        rfl
      · cases h
  · rintro failure ⟨input, room, h⟩
    simp only [snappy] at h
    generalize (Snappy.decompress reader input room).2 = result at h
    cases result with
    | error fault =>
      cases h
      rfl
    | ok length =>
      replace h : (if length ≠ room then .error (.codec .uncompress (.wrongLength length room))
        else .ok () : Except Failure Unit) = .error failure := h
      split at h
      · cases h
        rfl
      · cases h

theorem zstandard_failsAsCodec (level : Int32) (encoder : Zstandard.Encoder) :
    (zstandard level encoder).FailsAsCodec := by
  constructor
  · rintro failure ⟨input, room, h⟩
    simp only [zstandard] at h
    generalize (encoder.compress level input room).2 = result at h
    cases result with
    | error fault =>
      cases h
      rfl
    | ok length => cases h
  · rintro failure ⟨input, room, h⟩
    simp only [zstandard] at h
    split at h
    · cases h
      rfl
    · split at h
      · cases h
        rfl
      · cases h

end BlockCodec

/-- What follows is about such codecs, and so about every bridge. -/
theorem Bridge.codec_failsAsCodec (bridge : Bridge) : bridge.codec.FailsAsCodec := by
  rw [codec, Config.blockCodec]
  cases bridge.config.codec with
  | snappy => exact BlockCodec.snappy_failsAsCodec _
  | zstandard => exact BlockCodec.zstandard_failsAsCodec ..

/-! ## Headers that are not followed -/

/-- The result is a failure, and the memory is what it was. -/
def Declined {α : Type} (memory : Memory) (result : Except Failure α) (after : Memory) : Prop :=
  (∃ failure, result = .error failure) ∧ after = memory

theorem Declined.error {α : Type} {memory : Memory} (failure : Failure) :
    Declined memory (.error failure : Except Failure α) memory :=
  ⟨⟨failure, rfl⟩, rfl⟩

namespace Dispatch

variable {codec : BlockCodec} {input output : Buffer} {window : Window} {offset : Nat}
variable {memory : Memory}

/-- A header that cannot be read is the end of it. -/
theorem uncompress_declined_of_header {failure : Failure}
    (h : codec.uncompressedLength (memory.read (input.region.part window.offset window.length)) =
      .error failure) :
    (uncompress codec input window output offset).Ensures memory (Declined memory) := by
  refine uncompress_ensures (fun _ => .error _) ?_
  intro length hlength _
  rw [h] at hlength
  cases hlength

/-- A length that does not fit ends as a corrupt block or as a window that is too small. -/
theorem uncompress_declined_of_length {length : Nat}
    (h : codec.uncompressedLength (memory.read (input.region.part window.offset window.length)) =
      .ok length)
    (hlong : maxSize < offset + length ∨ output.region.length < offset + length) :
    (uncompress codec input window output offset).Ensures memory (Declined memory) := by
  refine uncompress_ensures (fun _ => .error _) ?_
  intro declared hlength hcarvable
  rw [h] at hlength
  cases hlength
  -- a target that does not fit cannot have been carved
  have hsize : offset + length ≤ maxSize := hcarvable.target_size
  have hwithin : offset + length ≤ output.region.length := hcarvable.takes.within
  omega

/-- **Failures are atomic.** Whatever the arguments, the memory, the buffers and the answers of the host,
where an operation fails and it is not a codec that failed, the memory is what it was, for every codec
that reports its own failures as such. To decompress is declined, with the memory as it was, where the
header cannot be read or declares more than fits behind the offset, whatever the codec calls it. -/
theorem failures_atomic (hcodec : codec.FailsAsCodec) :
    (∀ (input : Buffer) (window : Window) (output : Buffer) (offset : Nat),
      (compress codec input window output offset).Atomic ∧
        (uncompress codec input window output offset).Atomic) ∧
    (∀ (source : Buffer) (window : Window) (destination : Buffer) (offset : Nat) (allowOverlap : Bool),
      (copy source window destination offset allowOverlap).Atomic) ∧
    (∀ (direction : BitShuffle.Direction) (input output : Buffer) (request : ShuffleRequest)
        (policy : RemainderPolicy),
      (shuffle direction input output request policy).Atomic) ∧
    ∀ (input : Buffer) (window : Window) (output : Buffer) (offset : Nat) (host : Host),
      (∀ failure, codec.uncompressedLength
          (host.memory.read (input.region.part window.offset window.length)) = .error failure →
        Declined host.memory (uncompress codec input window output offset host).1
          (uncompress codec input window output offset host).2.memory) ∧
      ∀ length, codec.uncompressedLength
          (host.memory.read (input.region.part window.offset window.length)) = .ok length →
        maxSize < offset + length ∨ output.region.length < offset + length →
        Declined host.memory (uncompress codec input window output offset host).1
          (uncompress codec input window output offset host).2.memory := by
  have hnone : ∀ failure : Failure, False → failure.isCodec = true := fun _ => False.elim
  refine ⟨?_, ?_, ?_, ?_⟩
  · intro input window output offset
    exact ⟨Op.atomic_of_unspoiled hcodec.compress (compress_unspoiled codec input window output offset),
      Op.atomic_of_unspoiled hcodec.uncompress (uncompress_unspoiled codec input window output offset)⟩
  · intro source window destination offset allowOverlap
    exact Op.atomic_of_unspoiled hnone (copy_unspoiled source window destination offset allowOverlap)
  · intro direction input output request policy
    exact Op.atomic_of_unspoiled hnone (shuffle_unspoiled direction input output request policy)
  · intro input window output offset host
    refine ⟨?_, ?_⟩
    · intro failure h
      exact uncompress_declined_of_header h host rfl
    · intro length h hlong
      exact uncompress_declined_of_length h hlong host rfl

/-- A block of four bytes, of which two are there and the others are a copy of what is not. -/
def stalled : Bytes := [4, 4, 1, 2, 1, 9]

/-- A host whose memory is the block and four zeros. -/
def stalledHost : Host where
  memory := ⟨[stalled ++ List.replicate 4 0]⟩

/-- The buffer of the block. -/
def stalledInput : Buffer where
  id := 0
  storage := .heap
  region := ⟨0, 0, 6⟩

/-- An output that overlaps the block stays as it is, and so does one of three bytes. In one of four, two
bytes have been written when the block turns out to be corrupt, which is a failure of the codec. -/
theorem failures_atomic_stalled :
    BlockCodec.snappy.FailsAsCodec ∧
      (uncompress .snappy stalledInput ⟨0, 6⟩ ⟨0, .heap, ⟨0, 4, 4⟩, true, true⟩ 0 stalledHost).1 =
        .error (.invalid (.windowsOverlap 0 6 0 4)) ∧
      (uncompress .snappy stalledInput ⟨0, 6⟩ ⟨0, .heap, ⟨0, 4, 4⟩, true, true⟩ 0
        stalledHost).2.memory = stalledHost.memory ∧
      BlockCodec.snappy.uncompressedLength
        (stalledHost.memory.read (stalledInput.region.part 0 6)) = .ok 4 ∧
      Declined stalledHost.memory
        (uncompress .snappy stalledInput ⟨0, 6⟩ ⟨0, .heap, ⟨0, 6, 3⟩, true, true⟩ 0 stalledHost).1
        (uncompress .snappy stalledInput ⟨0, 6⟩ ⟨0, .heap, ⟨0, 6, 3⟩, true, true⟩ 0
          stalledHost).2.memory ∧
      (uncompress .snappy stalledInput ⟨0, 6⟩ ⟨0, .heap, ⟨0, 6, 4⟩, true, true⟩ 0
        stalledHost).2.memory = ⟨[stalled ++ [1, 2, 0, 0]]⟩ := by
  have hcodec := BlockCodec.snappy_failsAsCodec .current
  obtain ⟨hfails, -, -, hheaders⟩ := failures_atomic hcodec
  have hoverlaps : (uncompress .snappy stalledInput ⟨0, 6⟩ ⟨0, .heap, ⟨0, 4, 4⟩, true, true⟩ 0
      stalledHost).1 = .error (.invalid (.windowsOverlap 0 6 0 4)) := rfl
  have hdeclared : BlockCodec.snappy.uncompressedLength
      (stalledHost.memory.read (stalledInput.region.part 0 6)) = .ok 4 := rfl
  refine ⟨hcodec, hoverlaps, ?_, hdeclared, ?_, by decide +kernel⟩
  · exact (hfails stalledInput ⟨0, 6⟩ _ 0).2 stalledHost _ hoverlaps rfl
  · exact (hheaders stalledInput ⟨0, 6⟩ _ 0 stalledHost).2 4 hdeclared (.inr (by decide))

end Dispatch

end BufferBridge
