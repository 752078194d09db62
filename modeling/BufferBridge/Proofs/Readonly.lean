import BufferBridge.Proofs.Decompression
import BufferBridge.Proofs.Discipline
import BufferBridge.Proofs.Effects
import BufferBridge.Proofs.Windows

/-!
# Destinations that may not be written

Whether a destination may be written is looked at early in one operation and late in another. Wherever
it is, an operation on a destination that may not be written ends with a failure before anything is
compressed, decompressed, regrouped or copied, and no byte has changed.
-/
namespace BufferBridge

/-- Whether an event is a run of a codec or of the shuffle transform. -/
def Event.isRun : Event → Bool
  | codec (.compress ..) | codec (.uncompress ..) | codec (.regroup ..) => true
  | _ => false

/-- From one point to a later one no byte has changed, and no codec and no transform has been run. -/
structure Host.Spared (host after : Host) : Prop where
  memory : after.memory = host.memory
  trace : ∃ events, after.trace = host.trace ++ events ∧ ∀ event ∈ events, event.isRun = false

theorem Host.Spared.refl (host : Host) : host.Spared host :=
  ⟨rfl, [], (List.append_nil _).symm, by simp⟩

theorem Host.Spared.trans {host middle after : Host} (h : host.Spared middle)
    (h' : middle.Spared after) : host.Spared after := by
  obtain ⟨events, htrace, hevents⟩ := h.trace
  obtain ⟨later, htrace', hlater⟩ := h'.trace
  refine ⟨h'.memory.trans h.memory, events ++ later, ?_, ?_⟩
  · rw [htrace', htrace, List.append_assoc]
  · intro event hmem
    rcases List.mem_append.mp hmem with hmem | hmem
    · exact hevents event hmem
    · exact hlater event hmem

theorem Host.Spared.record {event : Event} (h : event.isRun = false) (host : Host) :
    host.Spared (host.record event) :=
  ⟨rfl, [event], rfl, by simpa using h⟩

/-! ## Operations that spare the host -/

namespace Op

variable {α β : Type}

/-- An operation after which no byte has changed and no codec and no transform has been run. -/
def Spares (op : Op α) : Prop := ∀ host : Host, host.Spared (op host).2

/-- An operation that spares the host and fails. -/
def Refuses (op : Op α) : Prop :=
  ∀ host : Host, (∃ failure, (op host).1 = .error failure) ∧ host.Spared (op host).2

theorem Spares.ofExcept (result : Except Failure α) : (liftM result : Op α).Spares :=
  fun host => .refl host

theorem Spares.read (region : Region) : (Op.read region).Spares := fun host => .refl host

theorem Spares.note {event : Event} (h : event.isRun = false) : (Op.note event).Spares :=
  fun host => .record h host

theorem Refuses.fail (failure : Failure) : (Op.fail failure : Op α).Refuses :=
  fun host => ⟨⟨failure, rfl⟩, .refl host⟩

/-- What comes before a refusal may go well or not. -/
theorem Spares.bind_refuses {op : Op α} {next : α → Op β} (h : op.Spares)
    (hnext : ∀ value, (next value).Refuses) : (op >>= next).Refuses := by
  intro host
  have hspared := h host
  simp only [Bind.bind]
  split
  · rename_i value after hrun
    rw [hrun] at hspared
    exact ⟨(hnext value after).1, hspared.trans (hnext value after).2⟩
  · rename_i failure after hrun
    rw [hrun] at hspared
    exact ⟨⟨failure, rfl⟩, hspared⟩

/-- What would come after a refusal is of no account. -/
theorem Refuses.bind {op : Op α} (h : op.Refuses) (next : α → Op β) : (op >>= next).Refuses := by
  intro host
  obtain ⟨⟨failure, hfails⟩, hspared⟩ := h host
  simp only [Bind.bind]
  split
  · rename_i value after hrun
    rw [hrun] at hfails
    cases hfails
  · rename_i failure' after hrun
    rw [hrun] at hspared
    exact ⟨⟨failure', rfl⟩, hspared⟩

theorem Refuses.bind_error {result : Except Failure α} {failure : Failure} (h : result = .error failure)
    (next : α → Op β) : ((liftM result : Op α) >>= next).Refuses := by
  subst h
  exact .fail failure

theorem Refuses.map {op : Op α} (f : α → β) (h : op.Refuses) : (f <$> op).Refuses := h.bind _

end Op

open Op (Spares Refuses)

/-! ## Borrowing -/

theorem isRun_of_isHostCall {event : Event} (h : event.isHostCall = true) : event.isRun = false := by
  cases event with
  | codec => cases h
  | pin | refuse | unpin | address | raise | log => rfl

theorem Host.Spared.of_closed {host after : Host} {requests : List Event}
    {source destination : Option Buffer} (hmemory : after.memory = host.memory)
    (hrequests : Op.Requests source destination requests)
    (htrace : after.trace = host.trace ++ requests ∨
      after.trace = host.trace ++ (requests ++ closing requests)) : host.Spared after := by
  have hasked : ∀ event ∈ requests, event.isRun = false := by
    intro event hmem
    rw [← hrequests.hostCalls_eq] at hmem
    exact isRun_of_isHostCall (List.mem_filter.mp hmem).2
  rcases htrace with htrace | htrace
  · exact ⟨hmemory, requests, htrace, hasked⟩
  · refine ⟨hmemory, requests ++ closing requests, htrace, ?_⟩
    intro event hmem
    rcases List.mem_append.mp hmem with hmem | hmem
    · exact hasked event hmem
    · exact isRun_of_isHostCall (mem_closing hmem).2

theorem resolvePair_spares (source destination : Buffer) : (resolvePair source destination).Spares := by
  intro host
  have hmemory := (resolvePair_ensures source destination host.memory host rfl).1
  rcases hrun : resolvePair source destination host with ⟨result, after⟩
  rw [hrun] at hmemory
  obtain ⟨requests, hrequests, -, -, htrace⟩ := resolvePair_trace hrun
  cases result with
  | error failure => exact .of_closed hmemory hrequests (.inr htrace)
  | ok guards => exact .of_closed hmemory hrequests (.inl htrace.1)

theorem Guard.release_spares (guard : Guard) (host : Host) : host.Spared (guard.release host) := by
  rw [release]
  cases guard.pin with
  | none => exact .refl host
  | some attempt => exact .record rfl host

/-- Where the use of a destination that may not be written is refused, the whole is. -/
theorem withPair_refuses {α : Type} {source destination : Buffer} {use : Guard → Guard → Op α}
    (hreadonly : destination.writable = false)
    (huse : ∀ src dst, dst.writable = false → (use src dst).Refuses) :
    (withPair source destination use).Refuses := by
  intro host
  have hspared := resolvePair_spares source destination host
  rw [withPair]
  split
  · rename_i failure after hrun
    rw [hrun] at hspared
    exact ⟨⟨failure, rfl⟩, hspared⟩
  · rename_i src dst after hrun
    rw [hrun] at hspared
    have hdst := (holds_of_resolvePair hrun).2
    obtain ⟨hfails, hused⟩ := huse src dst (hdst.writable.trans hreadonly) after
    exact ⟨hfails, ((hspared.trans hused).trans (dst.release_spares _)).trans (src.release_spares _)⟩

/-! ## The operations -/

theorem Guard.checkWritable_eq_error {guard : Guard} (h : guard.writable = false) :
    guard.checkWritable = .error (.unavailable guard.role) := by
  rw [checkWritable, h]
  rfl

theorem splitWindows_eq_error {src dst : Guard} (h : dst.writable = false)
    (srcWindow dstWindow : Window) :
    ∃ failure, splitWindows src srcWindow dst dstWindow = .error failure := by
  cases hsplit : splitWindows src srcWindow dst dstWindow with
  | error failure => exact ⟨failure, rfl⟩
  | ok windows =>
    obtain ⟨-, -, -, hwritable⟩ := splitWindows_eq_ok_iff.mp hsplit
    rw [h] at hwritable
    cases hwritable

namespace Dispatch

variable {output : Buffer}

theorem compress_refuses (codec : BlockCodec) (input : Buffer) (window : Window) (offset : Nat)
    (h : output.writable = false) : (compress codec input window output offset).Refuses := by
  have hbound : (maxCompressedLength codec window.length).Spares := fun host => .record rfl host
  refine hbound.bind_refuses fun _ => withPair_refuses h fun src dst hdst => ?_
  split
  · exact .fail _
  · obtain ⟨failure, hsplit⟩ := splitWindows_eq_error hdst window ⟨offset, dst.capacity - offset⟩
    exact .bind_error hsplit _

theorem uncompress_refuses (codec : BlockCodec) (input : Buffer) (window : Window) (offset : Nat)
    (h : output.writable = false) : (uncompress codec input window output offset).Refuses := by
  refine withPair_refuses h fun src dst hdst => ?_
  refine (Spares.ofExcept _).bind_refuses fun source => (Spares.read source).bind_refuses fun bytes =>
    (Spares.note rfl).bind_refuses fun _ => (Spares.ofExcept _).bind_refuses fun length => ?_
  extract_lets target fits decode
  have hdecode : ∀ checked, (decode checked).Refuses := by
    intro checked
    simp only [decode]
    split
    · exact .fail _
    · obtain ⟨failure, hsplit⟩ := splitWindows_eq_error hdst window target
      exact .bind_error hsplit _
  split
  · exact (Spares.note rfl).bind_refuses hdecode
  · exact hdecode ()

theorem copy_refuses (input : Buffer) (window : Window) (offset : Nat) (allowOverlap : Bool)
    (h : output.writable = false) : (copy input window output offset allowOverlap).Refuses :=
  withPair_refuses h fun _ _ hdst => .bind_error (Guard.checkWritable_eq_error hdst) _

theorem shuffle_refuses (direction : BitShuffle.Direction) (input : Buffer) (request : ShuffleRequest)
    (policy : RemainderPolicy) (h : output.writable = false) :
    (shuffle direction input output request policy).Refuses := by
  refine (Spares.ofExcept _).bind_refuses fun count => withPair_refuses h fun src dst hdst => ?_
  obtain ⟨failure, hsplit⟩ := splitWindows_eq_error hdst
    ⟨request.inputOffset, count * request.elementSize.bytes⟩
    ⟨request.outputOffset, count * request.elementSize.bytes⟩
  exact .bind_error hsplit _

end Dispatch

/-! What a codec would make of the bytes is not asked: only what it tells of lengths and of validity can
matter. -/

/-- Two codecs that tell the same of every input, and may differ in what they make of it. -/
structure BlockCodec.TellsAs (codec other : BlockCodec) : Prop where
  maxCompressedLength : codec.maxCompressedLength = other.maxCompressedLength
  uncompressedLength : codec.uncompressedLength = other.uncompressedLength
  isValid : codec.isValid = other.isValid

theorem withPair_congr {α : Type} {source destination : Buffer} {use use' : Guard → Guard → Op α}
    (h : ∀ src dst, dst.writable = destination.writable → use src dst = use' src dst) :
    withPair source destination use = withPair source destination use' := by
  funext host
  simp only [withPair]
  split
  · rfl
  · rename_i src dst after hrun
    rw [h src dst (holds_of_resolvePair hrun).2.writable]

theorem Op.bind_error_congr {α β : Type} {result : Except Failure α} {failure : Failure}
    (h : result = .error failure) (next next' : α → Op β) :
    ((liftM result : Op α) >>= next) = (liftM result >>= next') := by
  subst h
  rfl

namespace Dispatch

variable {codec other : BlockCodec} {output : Buffer}

theorem compress_congr (hcodec : codec.TellsAs other) (input : Buffer) (window : Window) (offset : Nat)
    (h : output.writable = false) :
    compress codec input window output offset = compress other input window output offset := by
  have hbound : maxCompressedLength codec window.length = maxCompressedLength other window.length := by
    simp only [maxCompressedLength, BlockCodec.bound, hcodec.maxCompressedLength]
  simp only [compress, hbound]
  congr
  funext _
  refine withPair_congr fun src dst hdst => ?_
  split
  · rfl
  · obtain ⟨failure, hsplit⟩ :=
      @splitWindows_eq_error src dst (hdst.trans h) window ⟨offset, dst.capacity - offset⟩
    exact Op.bind_error_congr hsplit _ _

theorem uncompress_congr (hcodec : codec.TellsAs other) (input : Buffer) (window : Window)
    (offset : Nat) (h : output.writable = false) :
    uncompress codec input window output offset = uncompress other input window output offset := by
  refine withPair_congr fun src dst hdst => ?_
  simp only [hcodec.uncompressedLength, hcodec.isValid]
  congr
  funext source
  congr
  funext bytes
  congr
  funext _
  congr
  funext length
  obtain ⟨failure, hsplit⟩ := @splitWindows_eq_error src dst (hdst.trans h) window ⟨offset, length⟩
  rw [hsplit]
  rfl

end Dispatch

/-! ## The calls -/

namespace Bridge

variable (bridge : Bridge) {args : Transfer}

theorem compressOp_refuses (h : args.output.writable = false) : (bridge.compressOp args).Refuses :=
  (Spares.ofExcept _).bind_refuses fun window => (Spares.ofExcept _).bind_refuses fun offset =>
    (Dispatch.compress_refuses bridge.codec args.input window offset h).bind _

theorem uncompressOp_refuses (h : args.output.writable = false) :
    (bridge.uncompressOp args).Refuses :=
  (Spares.ofExcept _).bind_refuses fun window => (Spares.ofExcept _).bind_refuses fun offset =>
    (Dispatch.uncompress_refuses bridge.codec args.input window offset h).bind _

theorem copyOp_refuses (h : args.output.writable = false) : (bridge.copyOp args).Refuses :=
  (Spares.ofExcept _).bind_refuses fun window => (Spares.ofExcept _).bind_refuses fun offset =>
    Dispatch.copy_refuses args.input window offset bridge.config.overlap h

theorem shuffleOp_refuses (direction : BitShuffle.Direction) (width : Int32)
    (h : args.output.writable = false) : (bridge.shuffleOp direction width args).Refuses :=
  (Spares.ofExcept _).bind_refuses fun _ => (Spares.ofExcept _).bind_refuses fun _ =>
    (Spares.ofExcept _).bind_refuses fun _ => (Spares.ofExcept _).bind_refuses fun _ =>
      (Dispatch.shuffle_refuses direction args.input _ bridge.config.remainder h).bind _

end Bridge

theorem Call.op_refuses (bridge : Bridge) {call : Call} {output : Buffer}
    (hdestination : call.destination? = some output) (h : output.writable = false) :
    (call.op bridge).Refuses := by
  cases call with
  | compress args =>
    cases hdestination
    exact (bridge.compressOp_refuses h).map _
  | uncompress args =>
    cases hdestination
    exact (bridge.uncompressOp_refuses h).map _
  | compressDirect args =>
    cases hdestination
    exact (Spares.ofExcept _).bind_refuses fun _ => (bridge.compressOp_refuses h).map _
  | uncompressDirect args =>
    cases hdestination
    exact (Spares.ofExcept _).bind_refuses fun _ => (bridge.uncompressOp_refuses h).map _
  | maxCompressedLength | uncompressedLength | isValid => cases hdestination
  | copy args =>
    cases hdestination
    exact (bridge.copyOp_refuses h).bind _
  | shuffle direction width args =>
    cases hdestination
    exact (bridge.shuffleOp_refuses direction width h).map _
  | shuffleDirect direction width args =>
    cases hdestination
    exact (Spares.ofExcept _).bind_refuses fun _ => (bridge.shuffleOp_refuses direction width h).map _

/-- A call whose operation is refused raises a failure and spares the host. -/
theorem Call.raises_of_refuses {bridge : Bridge} {call : Call} (h : (call.op bridge).Refuses)
    (host : Host) : ∃ code after, call.Raises bridge host code after ∧ host.Spared after := by
  obtain ⟨⟨failure, hfails⟩, hspared⟩ := h host
  have hop : call.op bridge host = (.error failure, (call.op bridge host).2) := Prod.ext hfails rfl
  obtain ⟨after, hraises, -⟩ := Call.raises_of_op hop
  refine ⟨failure.code, after, hraises, ?_⟩
  have hafter := hraises.1
  rw [Call.run_of_op_error hop] at hafter
  cases hafter
  exact (hspared.trans (.record rfl _)).trans (.record rfl _)

/-- **A destination that may not be written is left alone.** Each operation from one buffer to another ends
with a failure, whatever its arguments, the memory and the answers of the host; no byte has changed, and
nothing was compressed, decompressed or regrouped, so that codecs that differ in this only are not told
apart. So does each call: it raises a failure. -/
theorem readonly_refused {output : Buffer} (h : output.writable = false) :
    (∀ (codec : BlockCodec) (input : Buffer) (window : Window) (offset : Nat),
      (Dispatch.compress codec input window output offset).Refuses ∧
        (Dispatch.uncompress codec input window output offset).Refuses) ∧
    (∀ (codec other : BlockCodec) (input : Buffer) (window : Window) (offset : Nat),
      codec.TellsAs other →
        Dispatch.compress codec input window output offset =
            Dispatch.compress other input window output offset ∧
          Dispatch.uncompress codec input window output offset =
            Dispatch.uncompress other input window output offset) ∧
    (∀ (input : Buffer) (window : Window) (offset : Nat) (allowOverlap : Bool),
      (Dispatch.copy input window output offset allowOverlap).Refuses) ∧
    (∀ (direction : BitShuffle.Direction) (input : Buffer) (request : Dispatch.ShuffleRequest)
        (policy : RemainderPolicy),
      (Dispatch.shuffle direction input output request policy).Refuses) ∧
    ∀ (bridge : Bridge) (call : Call) (host : Host), call.destination? = some output →
      ∃ code after, call.Raises bridge host code after ∧ host.Spared after := by
  refine ⟨?_, ?_, ?_, ?_, ?_⟩
  · intro codec input window offset
    exact ⟨Dispatch.compress_refuses codec input window offset h,
      Dispatch.uncompress_refuses codec input window offset h⟩
  · intro codec other input window offset hcodec
    exact ⟨Dispatch.compress_congr hcodec input window offset h,
      Dispatch.uncompress_congr hcodec input window offset h⟩
  · intro input window offset allowOverlap
    exact Dispatch.copy_refuses input window offset allowOverlap h
  · intro direction input request policy
    exact Dispatch.shuffle_refuses direction input request policy h
  · intro bridge call host hdestination
    exact Call.raises_of_refuses (call.op_refuses bridge hdestination h) host

/-- A buffer of forty bytes that may not be written. -/
def sealedBuffer : Buffer where
  id := 1
  storage := .direct
  region := ⟨0, 8, 40⟩
  writable := false

/-- Snappy, but what it writes is of one value. -/
def BlockCodec.blotting : BlockCodec :=
  { BlockCodec.snappy with
    compress := fun _ room => ⟨List.replicate room 7, .ok room⟩
    uncompress := fun _ room => ⟨List.replicate room 7, .ok ()⟩ }

theorem readonly_refused_sealed :
    sealedBuffer.writable = false ∧
      Dispatch.uncompress .snappy behindItself.input ⟨0, 8⟩ sealedBuffer 0 =
        Dispatch.uncompress .blotting behindItself.input ⟨0, 8⟩ sealedBuffer 0 ∧
      (Dispatch.copy sealedBuffer ⟨3, 0⟩ sealedBuffer 3 true).Refuses ∧
      ∃ code after, (Call.uncompress { behindItself with output := sealedBuffer }).Raises {}
        { memory := ⟨[doubled ++ List.replicate 40 0]⟩ } code after ∧
          after.memory = ⟨[doubled ++ List.replicate 40 0]⟩ := by
  obtain ⟨-, htold, hcopy, -, hcalls⟩ := @readonly_refused sealedBuffer rfl
  obtain ⟨code, after, hraises, hspared⟩ := hcalls {}
    (.uncompress { behindItself with output := sealedBuffer })
    { memory := ⟨[doubled ++ List.replicate 40 0]⟩ } rfl
  refine ⟨rfl, ?_, hcopy sealedBuffer ⟨3, 0⟩ 3 true, code, after, hraises, hspared.memory⟩
  exact (htold .snappy .blotting behindItself.input ⟨0, 8⟩ 0 ⟨rfl, rfl, rfl⟩).2

end BufferBridge
