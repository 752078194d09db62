import BufferBridge.Proofs.Addressing
import BufferBridge.Proofs.Confinement

/-!
# Calls that keep out of each other's way

Where one call writes to nothing that another one reads, the other is told the same before and after it
and does the same. If in addition they do not write to the same bytes, it makes no difference which of
the two comes first. Where a call may write can itself depend on data, as the length that is decompressed
is found in the input; but that is data that the other call leaves alone.
-/
namespace BufferBridge

open Memory (SameBut)
open Op (Ensures)

/-! ## The destination window of a call -/

/-- The window to read from is one of the input. -/
structure Transfer.InBounds (args : Transfer) : Prop where
  offset_nonneg : 0 ≤ args.inputOffset.toInt
  length_nonneg : 0 ≤ args.length.toInt
  stop_le : args.inputOffset.toInt + args.length.toInt ≤ args.input.region.length

theorem Transfer.InBounds.source {args : Transfer} (h : args.InBounds) {block position : Nat}
    (hcovers : args.compressed.Covers block position) :
    args.Source args.length.toInt block position := by
  obtain ⟨hoffset, hlength, hstop⟩ := h
  obtain ⟨hblock, hfirst, hlast⟩ := hcovers
  simp only [compressed, Region.part] at hblock hfirst hlast
  refine ⟨⟨hblock, ?_, ?_⟩, ?_, ?_⟩ <;> omega

/-- Where the bytes to decompress are not all there, nothing happens to the memory. -/
theorem Bridge.uncompressOp_unchanged (bridge : Bridge) {args : Transfer} (h : ¬ args.InBounds)
    (memory : Memory) : (bridge.uncompressOp args).Ensures memory fun _ after => after = memory := by
  refine Transfer.ensures_ofHost (fun _ => rfl) fun window offset ⟨hinput, hlength, _⟩ => ?_
  have hunchanged : (Dispatch.uncompress bridge.codec args.input window args.output offset).Ensures
      memory fun _ after => after = memory := by
    refine Dispatch.uncompress_ensures (fun _ => rfl) fun _ _ hcarvable => ?_
    have hwithin := hcarvable.window_within
    refine absurd ⟨?_, ?_, ?_⟩ h <;> omega
  exact hunchanged.bind (fun _ _ h => h) fun _ _ h => .ofExcept h

namespace Call

variable {bridge bridge' : Bridge} {call call' : Call} {memory : Memory} {host : Host}

/-- The addresses of the destination window of a call. What is decompressed has one if the bytes that
declare its length are there at all. -/
def Target (bridge : Bridge) (memory : Memory) : Call → Nat → Nat → Prop
  | uncompress args => fun block position =>
    args.InBounds ∧ (uncompress args).MayWrite bridge memory block position
  | uncompressDirect args => fun block position =>
    args.InBounds ∧ (uncompressDirect args).MayWrite bridge memory block position
  | call => call.MayWrite bridge memory

theorem run_memory (bridge : Bridge) (call : Call) (host : Host) :
    (call.run bridge host).2.memory = (call.op bridge host).2.memory :=
  @settle_memory _ ⟨call.sentinel⟩ (call.op bridge host).1 (call.op bridge host).2

/-- A call changes bytes of its destination window only. -/
theorem run_target (bridge : Bridge) (call : Call) (host : Host) :
    SameBut (call.Target bridge host.memory) host.memory (call.run bridge host).2.memory := by
  intro block position hnot
  have hframe := call.run_frame bridge host block position
  have huncompress : ∀ args : Transfer, ¬ args.InBounds →
      (Reply.number <$> bridge.uncompressOp args).Ensures host.memory
        fun _ after => after = host.memory :=
    fun args hbounds => .map (bridge.uncompressOp_unchanged hbounds host.memory)
  cases call with
  | uncompress args =>
    by_cases hbounds : args.InBounds
    · exact hframe fun h => hnot ⟨hbounds, h.1⟩
    · have hunchanged : ((uncompress args).op bridge).Ensures host.memory
          fun _ after => after = host.memory := huncompress args hbounds
      rw [run_memory, hunchanged host rfl]
  | uncompressDirect args =>
    by_cases hbounds : args.InBounds
    · exact hframe fun h => hnot ⟨hbounds, h.1⟩
    · have hunchanged : ((uncompressDirect args).op bridge).Ensures host.memory
          fun _ after => after = host.memory :=
        .bind_ofExcept (fun _ _ => rfl) fun _ _ => huncompress args hbounds
      rw [run_memory, hunchanged host rfl]
  | compress | compressDirect | maxCompressedLength | uncompressedLength | isValid | copy | shuffle
  | shuffleDirect => exact hframe fun h => hnot h.1

/-- Memories with the same bytes to read tell of the same destination window. -/
theorem Target.congr {other : Memory} (hreads : ∀ block position, call.Reads block position →
      other.byteAt? block position = memory.byteAt? block position) {block position : Nat}
    (h : call.Target bridge other block position) : call.Target bridge memory block position := by
  have hread : ∀ args : Transfer, args.InBounds →
      (∀ block position, args.Source args.length.toInt block position →
        other.byteAt? block position = memory.byteAt? block position) →
      other.read args.compressed = memory.read args.compressed :=
    fun args hbounds hsource => Memory.read_congr fun _ _ hcovers => hsource _ _ (hbounds.source hcovers)
  cases call with
  | uncompress args | uncompressDirect args =>
    obtain ⟨hbounds, hmay⟩ := h
    rw [MayWrite, hread args hbounds hreads] at hmay
    exact ⟨hbounds, hmay⟩
  | compress | compressDirect | maxCompressedLength | uncompressedLength | isValid | copy | shuffle
  | shuffleDirect => exact h

end Call

/-! ## Runs that start after different histories -/

/-- A buffer that the host cannot find is refused in the same way whatever has happened before. -/
theorem resolve_of_unreachable {buffer : Buffer} (role : Role) (h : buffer.reachable = false) :
    ∃ failure, ∀ host : Host, host.Grants → ∃ after, resolve buffer role host = (.error failure, after) ∧
      after.memory = host.memory ∧ after.Grants := by
  simp only [resolve, Host.pin, h]
  cases buffer.storage with
  | heap =>
    refine ⟨_, fun host hgrants => ⟨_, rfl, rfl, ?_⟩⟩
    intro attempt hlater
    exact hgrants attempt (Nat.le_of_succ_le hlater)
  | direct => exact ⟨_, fun host hgrants => ⟨_, rfl, rfl, hgrants⟩⟩

/-- Guards on the same buffer, for the same role. -/
def Guard.Alike (guard guard' : Guard) : Prop :=
  ∃ buffer role, guard.Holds buffer role ∧ guard'.Holds buffer role

theorem Guard.Alike.samePlace {guard guard' : Guard} (h : guard.Alike guard') :
    guard.SamePlace guard' := by
  obtain ⟨buffer, role, h, h'⟩ := h
  refine ⟨?_, ?_, ?_⟩
  · rw [h.region, h'.region]
  · rw [h.writable, h'.writable]
  · rw [h.role, h'.role]

/-- Hosts that refuse no pin, whatever they have been asked so far, and whose memories agree where it is
known that they do. -/
structure Host.Alike (sizes : Nat → Nat) (known : Nat → Nat → Prop) (host host' : Host) : Prop where
  memory : Memory.Agree sizes known host.memory host'.memory
  grants : host.Grants
  grants' : host'.Grants

theorem Host.Alike.resolve {sizes : Nat → Nat} {known : Nat → Nat → Prop} {host host' : Host}
    (buffer : Buffer) (role : Role) (h : host.Alike sizes known host') :
    Answers (Host.Alike sizes known) Guard.Alike (resolve buffer role host)
      (resolve buffer role host') := by
  cases hreachable : buffer.reachable with
  | true =>
    obtain ⟨guard, after, hrun, hholds, hmemory, hgrants⟩ := resolve_of_grants role h.grants hreachable
    obtain ⟨guard', after', hrun', hholds', hmemory', hgrants'⟩ :=
      resolve_of_grants role h.grants' hreachable
    rw [hrun, hrun']
    refine .granted ⟨buffer, role, hholds, hholds'⟩ ⟨?_, hgrants, hgrants'⟩
    rw [hmemory, hmemory']
    exact h.memory
  | false =>
    obtain ⟨failure, hrefused⟩ := resolve_of_unreachable role hreachable
    obtain ⟨after, hrun, hmemory, hgrants⟩ := hrefused host h.grants
    obtain ⟨after', hrun', hmemory', hgrants'⟩ := hrefused host' h.grants'
    rw [hrun, hrun']
    refine .refused failure ⟨?_, hgrants, hgrants'⟩
    rw [hmemory, hmemory']
    exact h.memory

/-- Alike hosts stay alike, and so do the guards that they give out. -/
def Coupling.alike (sizes : Nat → Nat) : Coupling where
  At := Host.Alike sizes
  Pairs buffer buffer' := buffer' = buffer
  Held := Guard.Alike
  Backed _ := False
  weaken h hless := { h with
    memory := { h.memory with same := fun _ _ hin => h.memory.same _ _ (hless _ _ hin) } }
  backs _ h := h.elim
  read h := h.memory.read_eq
  length_read region h := h.memory.length_read region
  write region data h := { h with memory := h.memory.write region data }
  note _ h := ⟨h.memory, h.grants, h.grants'⟩
  note_compressed _ _ _ _ h := ⟨h.memory, h.grants, h.grants'⟩
  place := Guard.Alike.samePlace
  answers := by
    rintro known host host' _ buffer role rfl h
    exact h.resolve buffer role
  release := by
    intro known host host' guard guard' _ h
    refine ⟨?_, guard.release_grants h.grants, guard'.release_grants h.grants'⟩
    rw [guard.release_memory, guard'.release_memory]
    exact h.memory

/-! ## One call beside another -/

namespace Call

variable {bridge bridge' : Bridge} {call call' : Call} {host : Host}

/-- What the caller of a call is told: its reply, and the codes that were raised in the course of it. -/
def answer (bridge : Bridge) (call : Call) (host : Host) : Reply × List ErrorCode :=
  ((call.run bridge host).1, raises ((call.run bridge host).2.trace.drop host.trace.length))

theorem answer_eq (bridge : Bridge) (call : Call) (host : Host) :
    call.answer bridge host = ((call.run bridge host).1, codesOf (call.op bridge host).1) := by
  obtain ⟨events, htrace, hraises⟩ := call.raises_run bridge host
  rw [answer, htrace, List.drop_left, hraises]

/-- Hosts that refuse no pin and hold the same bytes to read are the same to a call, and where they were
the same before the call, they are after it. -/
theorem answer_of_alike {sizes : Nat → Nat} {known : Nat → Nat → Prop} {host' : Host} (bridge : Bridge)
    (call : Call) (hknown : ∀ block position, call.Reads block position → known block position)
    (h : host.Alike sizes known host') :
    call.answer bridge host' = call.answer bridge host ∧
      (call.run bridge host).2.Alike sizes known (call.run bridge host').2 := by
  have hpaired : Paired (Coupling.alike sizes).Pairs call call := by
    apply paired_self
    intro buffer
    rfl
  have hop := op_runs (c := Coupling.alike sizes) bridge hpaired hknown host host' h
  obtain ⟨hreply, hafter⟩ := run_runs (c := Coupling.alike sizes) bridge hpaired hknown h
  rw [answer_eq, answer_eq, hreply, hop.1]
  exact ⟨rfl, (Coupling.alike sizes).weaken hafter fun _ _ => .inl⟩

/-- Neither of two calls has a byte in its destination window that is in a window of the other. -/
structure Independent (bridge bridge' : Bridge) (memory : Memory) (call call' : Call) : Prop where
  reads : ∀ block position, call.Target bridge memory block position → ¬ call'.Reads block position
  reads' : ∀ block position, call'.Target bridge' memory block position → ¬ call.Reads block position
  targets : ∀ block position, call.Target bridge memory block position →
    ¬ call'.Target bridge' memory block position

/-- For whoever comes after a call, only its destination window can be different. -/
theorem alike_run (bridge : Bridge) (call : Call) (hgrants : host.Grants) :
    host.Alike (fun block => (host.memory.block block).length)
      (fun block position => ¬ call.Target bridge host.memory block position)
      (call.run bridge host).2 := by
  have hself : host.Alike (fun block => (host.memory.block block).length) (fun _ _ => True) host :=
    ⟨⟨fun _ => rfl, fun _ => rfl, fun _ _ _ => rfl⟩, hgrants, hgrants⟩
  obtain ⟨-, hafter⟩ := call.answer_of_alike bridge (fun _ _ _ => trivial) hself
  exact ⟨⟨fun _ => rfl, hafter.memory.length_other, call.run_target bridge host⟩, hgrants,
    hafter.grants'⟩

/-- After a call that writes nothing it reads, a call is told the same as before, and it leaves the same
bytes outside the destination window of the first one. -/
theorem run_after (bridge' : Bridge) (hgrants : host.Grants)
    (hreads : ∀ block position, call.Target bridge host.memory block position →
      ¬ call'.Reads block position) :
    call'.answer bridge' (call.run bridge host).2 = call'.answer bridge' host ∧
      SameBut (call.Target bridge host.memory) (call'.run bridge' host).2.memory
        (call'.run bridge' (call.run bridge host).2).2.memory := by
  have hknown : ∀ block position, call'.Reads block position →
      ¬ call.Target bridge host.memory block position :=
    fun block position hread htarget => hreads block position htarget hread
  obtain ⟨hanswer, hafter⟩ := call'.answer_of_alike bridge' hknown (call.alike_run bridge hgrants)
  exact ⟨hanswer, hafter.memory.same⟩

/-- A call has the same destination window after another one that writes nothing it reads. -/
theorem run_target_after (hreads : ∀ block position, call.Target bridge host.memory block position →
      ¬ call'.Reads block position) :
    SameBut (call'.Target bridge' host.memory) (call.run bridge host).2.memory
      (call'.run bridge' (call.run bridge host).2).2.memory := by
  apply (call'.run_target bridge' (call.run bridge host).2).mono
  intro block position htarget
  apply htarget.congr
  intro block position hread
  exact call.run_target bridge host block position fun h => hreads block position h hread

/-- **Calls that keep out of each other's way can be made in either order.** Each of them has the same
reply and raises the same, and they leave the same bytes, all over the memory. -/
theorem run_commutes (bridge bridge' : Bridge) (call call' : Call) (host : Host)
    (hgrants : host.Grants) (h : Independent bridge bridge' host.memory call call') :
    call.answer bridge (call'.run bridge' host).2 = call.answer bridge host ∧
      call'.answer bridge' (call.run bridge host).2 = call'.answer bridge' host ∧
      ∀ block position,
        (call'.run bridge' (call.run bridge host).2).2.memory.byteAt? block position =
          (call.run bridge (call'.run bridge' host).2).2.memory.byteAt? block position := by
  obtain ⟨hanswer', hafter'⟩ := run_after bridge' hgrants h.reads
  obtain ⟨hanswer, hafter⟩ := run_after bridge hgrants h.reads'
  refine ⟨hanswer, hanswer', ?_⟩
  intro block position
  by_cases htarget : call.Target bridge host.memory block position
  · -- the other call has no part in this byte, whether it comes first or last
    have hnot := h.targets block position htarget
    exact (run_target_after h.reads block position hnot).trans (hafter block position hnot).symm
  · exact (hafter' block position htarget).trans
      (run_target_after h.reads' block position htarget).symm

/-- One array for all windows. -/
def sharedArray : Buffer := { id := 0, storage := .heap, region := ⟨0, 0, 32⟩ }

def sharedArrayHost : Host where
  memory := ⟨[doubled ++ List.replicate 24 0xFF]⟩

/-- A block at the start of the array is decompressed to right behind itself. -/
def unpackShared : Call :=
  .uncompress
    { input := sharedArray, inputOffset := 0, length := 8, output := sharedArray, outputOffset := 8 }

/-- Bytes from behind what is decompressed are copied further on. -/
def moveShared : Call :=
  .copy
    { input := sharedArray, inputOffset := 16, length := 4, output := sharedArray, outputOffset := 20 }

theorem independent_shared : Independent {} {} sharedArrayHost.memory unpackShared moveShared := by
  have hdeclared : BlockCodec.snappy.uncompressedLength
      (sharedArrayHost.memory.read (sharedArray.region.part 0 8)) = .ok 8 := rfl
  have hunpack : ∀ block position, unpackShared.Target {} sharedArrayHost.memory block position →
      8 ≤ position ∧ position < 16 := by
    rintro block position ⟨-, length, hlength, -, hstart, hstop⟩
    obtain rfl : 8 = length := Except.ok.inj (hdeclared.symm.trans hlength)
    exact ⟨Int.ofNat_le.mp hstart, Int.ofNat_lt.mp hstop⟩
  have hmove : ∀ block position, moveShared.Target {} sharedArrayHost.memory block position →
      20 ≤ position := fun _ _ h => Int.ofNat_le.mp h.2.1
  refine ⟨?_, ?_, ?_⟩
  · intro block position htarget hreads
    have hstart : 16 ≤ position := Int.ofNat_le.mp hreads.2.1
    have := hunpack block position htarget
    omega
  · intro block position htarget hreads
    have hstop : position < 8 := Int.ofNat_lt.mp hreads.2.2
    have := hmove block position htarget
    omega
  · intro block position htarget htarget'
    have := hunpack block position htarget
    have := hmove block position htarget'
    omega

theorem run_commutes_shared :
    sharedArrayHost.Grants ∧ Independent {} {} sharedArrayHost.memory unpackShared moveShared ∧
      unpackShared.answer {} (moveShared.run {} sharedArrayHost).2 = (.number 8, []) ∧
      moveShared.answer {} (unpackShared.run {} sharedArrayHost).2 = (.done, []) ∧
      (unpackShared.run {} (moveShared.run {} sharedArrayHost).2).2.memory.byteAt? 0 8 = some 97 := by
  have hgrants : sharedArrayHost.Grants := fun _ _ => rfl
  obtain ⟨hunpack, hmove, hbytes⟩ := run_commutes {} {} _ _ _ hgrants independent_shared
  refine ⟨hgrants, independent_shared, hunpack.trans ?_, hmove.trans ?_, (hbytes 0 8).symm.trans ?_⟩
  · decide +kernel
  · decide +kernel
  · decide +kernel

end Call

end BufferBridge
