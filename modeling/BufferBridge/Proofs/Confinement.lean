import BufferBridge.Proofs.Decompression
import BufferBridge.Proofs.Lockstep

/-!
# What a call depends on

Of all the bytes of a host, a call looks at those of its source window only. Two hosts that agree on them
cannot be told apart by the call: it asks for the same, in the same order, and returns or raises the same,
and what it produces is the same. What the destination held before is no exception.
-/
namespace BufferBridge

namespace Memory

/-- Memories with blocks of given sizes that hold the same bytes at some addresses. -/
structure Agree (sizes : Nat → Nat) (known : Nat → Nat → Prop) (memory other : Memory) : Prop where
  length_block : ∀ block, (memory.block block).length = sizes block
  length_other : ∀ block, (other.block block).length = sizes block
  same : ∀ block position, known block position →
    other.byteAt? block position = memory.byteAt? block position

variable {sizes : Nat → Nat} {known : Nat → Nat → Prop} {memory other : Memory}

theorem Agree.read_eq {region : Region} (h : Agree sizes known memory other)
    (hknown : ∀ block position, region.Covers block position → known block position) :
    other.read region = memory.read region :=
  read_congr fun block position hcovers => h.same block position (hknown block position hcovers)

theorem Agree.length_read (h : Agree sizes known memory other) (region : Region) :
    (other.read region).length = (memory.read region).length := by
  simp only [read, Bytes.slice, List.length_take, List.length_drop, h.length_block, h.length_other]

theorem Agree.write (h : Agree sizes known memory other) (region : Region) (data : Bytes) :
    Agree sizes (fun block position => known block position ∨
        region.Covers block position ∧ position < region.start + data.length)
      (memory.write region data) (other.write region data) := by
  refine ⟨?_, ?_, ?_⟩
  · intro block
    rw [length_block_write, h.length_block]
  · intro block
    rw [length_block_write, h.length_other]
  · intro block position hknown
    by_cases hwritten : region.Covers block position ∧ position < region.start + data.length
    · rw [byteAt?_write_of_covers _ _ _ hwritten.1 hwritten.2,
        byteAt?_write_of_covers _ _ _ hwritten.1 hwritten.2, h.length_block, h.length_other]
    · rw [byteAt?_write_of_not_written _ _ _ hwritten, byteAt?_write_of_not_written _ _ _ hwritten]
      exact h.same block position (hknown.resolve_right hwritten)

end Memory

namespace Host

/-- A host with another memory, and everything else as it is. -/
def swap (host : Host) (memory : Memory) : Host := { host with memory }

end Host

theorem resolve_swap (buffer : Buffer) (role : Role) (host : Host) (memory : Memory) :
    resolve buffer role (host.swap memory) =
      ((resolve buffer role host).1, (resolve buffer role host).2.swap memory) := by
  simp only [resolve]
  cases buffer.storage with
  | heap =>
    simp only [Host.pin, Host.swap]
    by_cases hgranted : (buffer.reachable && !host.refuses host.attempts) = true
    · simp only [hgranted, if_true]
      rfl
    · simp only [hgranted]
      rfl
  | direct => cases buffer.reachable <;> rfl

theorem Guard.release_swap (guard : Guard) (host : Host) (memory : Memory) :
    guard.release (host.swap memory) = (guard.release host).swap memory := by
  simp only [release]
  cases guard.pin <;> rfl

/-- Hosts that differ in their memories only, and these agree where it is known that they do. -/
def Coupling.memories (sizes : Nat → Nat) : Coupling where
  At known host host' := ∃ other, host' = host.swap other ∧ Memory.Agree sizes known host.memory other
  Pairs buffer buffer' := buffer' = buffer
  Held guard guard' := guard' = guard
  Backed region := region.start + region.length ≤ sizes region.block ∧ region.length ≤ maxSize
  weaken := by
    rintro known less host _ ⟨other, rfl, h⟩ hless
    exact ⟨other, rfl, h.length_block, h.length_other, fun _ _ hin => h.same _ _ (hless _ _ hin)⟩
  backs := by
    rintro known host _ region ⟨other, rfl, h⟩ ⟨hstop, hlength⟩
    exact ⟨by rwa [h.length_block], hlength⟩
  read := by
    rintro known host _ region ⟨other, rfl, h⟩ hknown
    exact h.read_eq hknown
  length_read := by
    rintro known host _ region ⟨other, rfl, h⟩
    exact h.length_read region
  write := by
    rintro known host _ region data ⟨other, rfl, h⟩
    exact ⟨_, rfl, h.write region data⟩
  note := by
    rintro known host _ event ⟨other, rfl, h⟩
    exact ⟨other, rfl, h⟩
  note_compressed := by
    rintro known host _ src _ dst _ length room rfl rfl ⟨other, rfl, h⟩
    exact ⟨other, rfl, h⟩
  place := by
    rintro _ _ rfl
    exact ⟨rfl, rfl, rfl⟩
  answers := by
    rintro known host _ _ buffer role rfl ⟨other, rfl, h⟩
    have hmemory := (resolve_ensures buffer role host.memory host rfl).1
    rw [resolve_swap]
    generalize resolve buffer role host = answer at hmemory
    rcases answer with ⟨result, after⟩
    rw [← hmemory] at h
    cases result with
    | error failure => exact .refused failure ⟨other, rfl, h⟩
    | ok guard => exact .granted rfl ⟨other, rfl, h⟩
  release := by
    rintro known host _ _ guard rfl ⟨other, rfl, h⟩
    rw [← guard.release_memory host] at h
    exact ⟨other, guard.release_swap host other, h⟩

/-- **A call depends on the bytes of its source window and on no others.** Given another memory of the
same layout, with the same bytes there, it gives the same reply and leaves the same host but for the
memory, so that the record of its run is the same, with every request, release and raised code. Where it
returns, what it has produced is the same in both memories. -/
theorem Call.run_confined (bridge : Bridge) (call : Call) (host : Host) (other : Memory)
    (hlayout : ∀ block, (other.block block).length = (host.memory.block block).length)
    (hsource : ∀ block position, call.Reads block position →
      other.byteAt? block position = host.memory.byteAt? block position) :
    ∃ memory, call.run bridge (host.swap other) =
        ((call.run bridge host).1, (call.run bridge host).2.swap memory) ∧
      ∀ reply after, call.Returns bridge host reply after →
        (∀ buffer, call.source? = some buffer → host.memory.Backs buffer.region) →
        ∀ block position, call.Produces reply block position →
          memory.byteAt? block position = after.memory.byteAt? block position := by
  have hat : (Coupling.memories fun block => (host.memory.block block).length).At call.Reads host
      (host.swap other) := ⟨other, rfl, fun _ => rfl, hlayout, hsource⟩
  have hpaired : Paired (Coupling.memories fun block => (host.memory.block block).length).Pairs
      call call := by
    apply paired_self
    intro buffer
    rfl
  obtain ⟨hreply, memory, hhost, hagree⟩ := Call.run_runs bridge hpaired (fun _ _ => id) hat
  refine ⟨memory, Prod.ext hreply hhost, ?_⟩
  intro reply after hreturns hbacked block position hproduced
  have hop := hreturns.op_eq_ok
  have hafter := hagree.same block position (.inr ⟨reply, hop, fun buffer hbuffer =>
    ⟨(hbacked buffer hbuffer).stop_le, (hbacked buffer hbuffer).length_le⟩, hproduced⟩)
  rwa [hreturns.1] at hafter

/-- A host with a block and, behind it, room for what it decompresses to. -/
def staleHost : Host where
  memory := ⟨[doubled ++ List.replicate 8 0xFF]⟩

/-- The same with other bytes where the block is decompressed to. -/
def freshMemory : Memory := staleHost.memory.write ⟨0, 8, 8⟩ [1, 2, 3, 4]

theorem Call.run_confined_stale :
    freshMemory ≠ staleHost.memory ∧
      ∃ memory after, (Call.uncompress behindItself).Returns {} staleHost (.number 8) after ∧
        (Call.uncompress behindItself).run {} (staleHost.swap freshMemory) =
          (.number 8, after.swap memory) ∧
        memory.byteAt? 0 8 = some 97 := by
  have hsource : ∀ block position, (Call.uncompress behindItself).Reads block position →
      freshMemory.byteAt? block position = staleHost.memory.byteAt? block position := by
    intro block position hreads
    apply Memory.byteAt?_write_of_not_covers
    intro hcovers
    have hbefore : position < 0 + 8 := hreads.1.2.2
    have hbehind : 8 ≤ position := hcovers.2.1
    omega
  obtain ⟨memory, hrun, hproduced⟩ := run_confined {} (.uncompress behindItself) staleHost freshMemory
    (fun block => Memory.length_block_write _ _ _ block) hsource
  have hreturns : (Call.uncompress behindItself).Returns {} staleHost (.number 8) _ :=
    ⟨Prod.ext (by decide +kernel) rfl, _, (List.nil_append _).symm, by decide +kernel⟩
  have hbyte := hproduced _ _ hreturns (by rintro _ ⟨⟩; exact ⟨by decide, by decide⟩) 0 8
    ⟨⟨rfl, by decide, by decide⟩, by decide, by decide⟩
  rw [hreturns.1] at hrun
  refine ⟨by decide, memory, _, hreturns, hrun, hbyte.trans ?_⟩
  decide +kernel

end BufferBridge
