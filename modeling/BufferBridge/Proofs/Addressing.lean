import BufferBridge.Proofs.Lockstep

/-!
# Heap buffers and off-heap buffers

How a buffer is kept makes no difference to a call, as long as the buffer can be had at all: the call
returns or raises the same and leaves the same memory. The record of the run tells of pins or of addresses
as the case may be, and where a window was compressed, whether there were pins.
-/
namespace BufferBridge

/-! ## Records without the borrowing -/

namespace Event

/-- Whether an event is a part of borrowing a buffer or of giving it back. -/
def isBorrowing (event : Event) : Bool := event.isRequest || event.isRelease

/-- The event without the mention of pins. -/
def unpinned : Event → Event
  | log (.compressed inputLength outputLength _ _) =>
    log (.compressed inputLength outputLength false false)
  | event => event

end Event

/-- The events that are not about borrowing. -/
def unborrowed (events : List Event) : List Event := events.filter fun event => !event.isBorrowing

/-- What is told of a run, other than how its buffers were borrowed. -/
def dealings (events : List Event) : List Event := (unborrowed events).map Event.unpinned

@[simp] theorem dealings_append (events later : List Event) :
    dealings (events ++ later) = dealings events ++ dealings later := by
  rw [dealings, unborrowed, List.filter_append, List.map_append]
  rfl

theorem dealings_of_isRequest {event : Event} (h : event.isRequest = true) : dealings [event] = [] := by
  have hborrowing : event.isBorrowing = true := by rw [Event.isBorrowing, h, Bool.true_or]
  simp [dealings, unborrowed, hborrowing]

/-- A code that is raised is told of. -/
theorem raises_dealings (events : List Event) : raises (dealings events) = raises events := by
  rw [raises, raises, dealings, unborrowed, List.filterMap_map, List.filterMap_filter]
  congr
  funext event
  cases event with
  | log record => cases record <;> rfl
  | pin | refuse | unpin | address | raise | codec => rfl

theorem Guard.dealings_handback (guard : Guard) : dealings guard.handback = [] := by
  rw [handback]
  cases guard.pin <;> rfl

/-! ## Borrowing from a host that refuses nothing -/

/-- No pin attempt to come is refused. -/
def Host.Grants (host : Host) : Prop :=
  ∀ attempt, host.attempts ≤ attempt → host.refuses attempt = false

theorem Guard.release_grants {host : Host} (guard : Guard) (h : host.Grants) :
    (guard.release host).Grants := by
  rw [release]
  cases guard.pin <;> exact h

theorem resolve_of_grants {buffer : Buffer} {host : Host} (role : Role) (h : host.Grants)
    (hreachable : buffer.reachable = true) :
    ∃ guard after, resolve buffer role host = (.ok guard, after) ∧ guard.Holds buffer role ∧
      after.memory = host.memory ∧ after.Grants := by
  rw [resolve]
  cases buffer.storage with
  | heap =>
    rw [Host.pin, hreachable, h host.attempts (Nat.le_refl _)]
    refine ⟨_, _, rfl, ⟨rfl, rfl, rfl⟩, rfl, ?_⟩
    intro attempt hlater
    exact h attempt (Nat.le_of_succ_le hlater)
  | direct =>
    rw [hreachable]
    exact ⟨_, _, rfl, ⟨rfl, rfl, rfl⟩, rfl, h⟩

/-- Buffers that can be had and stand for the same bytes, however each of them is kept. -/
structure Buffer.SameBytes (buffer other : Buffer) : Prop where
  region : other.region = buffer.region
  writable : other.writable = buffer.writable
  reachable : buffer.reachable = true
  reachable_other : other.reachable = true

theorem Buffer.SameBytes.samePlace {buffer other : Buffer} {role : Role} {guard guard' : Guard}
    (h : buffer.SameBytes other) (hguard : guard.Holds buffer role) (hguard' : guard'.Holds other role) :
    guard.SamePlace guard' where
  region := by rw [hguard.region, hguard'.region, h.region]
  writable := by rw [hguard.writable, hguard'.writable, h.writable]
  role := by rw [hguard.role, hguard'.role]

/-- Hosts with the same memory that refuse nothing, and that have been told the same. -/
structure Host.Twin (host host' : Host) : Prop where
  memory : host'.memory = host.memory
  told : dealings host'.trace = dealings host.trace
  grants : host.Grants
  grants' : host'.Grants

theorem Host.Twin.record {host host' : Host} {event event' : Event} (h : host.Twin host')
    (hevent : dealings [event'] = dealings [event]) :
    (host.record event).Twin (host'.record event') where
  memory := h.memory
  told := by rw [Host.record, Host.record, dealings_append, dealings_append, h.told, hevent]
  grants := h.grants
  grants' := h.grants'

theorem Host.Twin.write {host host' : Host} (h : host.Twin host') (region : Region) (data : Bytes) :
    Host.Twin { host with memory := host.memory.write region data }
      { host' with memory := host'.memory.write region data } where
  memory := congrArg (fun memory => Memory.write memory region data) h.memory
  told := h.told
  grants := h.grants
  grants' := h.grants'

theorem Host.Twin.resolve {host host' : Host} {buffer buffer' : Buffer} (role : Role)
    (hbuffer : buffer.SameBytes buffer') (h : host.Twin host') :
    Answers Host.Twin Guard.SamePlace (resolve buffer role host) (resolve buffer' role host') := by
  obtain ⟨guard, after, hrun, hholds, hmemory, hgrants⟩ :=
    resolve_of_grants role h.grants hbuffer.reachable
  obtain ⟨guard', after', hrun', hholds', hmemory', hgrants'⟩ :=
    resolve_of_grants role h.grants' hbuffer.reachable_other
  obtain ⟨request, hrequest, htrace, -⟩ := resolve_trace hrun
  obtain ⟨request', hrequest', htrace', -⟩ := resolve_trace hrun'
  rw [hrun, hrun']
  refine .granted (hbuffer.samePlace hholds hholds') ⟨?_, ?_, hgrants, hgrants'⟩
  · rw [hmemory, hmemory', h.memory]
  · rw [htrace, htrace', dealings_append, dealings_append, h.told,
      dealings_of_isRequest hrequest.isRequest, dealings_of_isRequest hrequest'.isRequest]

theorem Host.Twin.release {host host' : Host} (guard guard' : Guard) (h : host.Twin host') :
    (guard.release host).Twin (guard'.release host') where
  memory := by rw [guard.release_memory, guard'.release_memory, h.memory]
  told := by
    rw [guard.release_trace, guard'.release_trace, dealings_append, dealings_append, h.told,
      guard.dealings_handback, guard'.dealings_handback]
  grants := guard.release_grants h.grants
  grants' := guard'.release_grants h.grants'

/-- Hosts that are the same but for how they lend their buffers. All bytes are the same, known or not. -/
def Coupling.addressing : Coupling where
  At _ := Host.Twin
  Pairs := Buffer.SameBytes
  Held := Guard.SamePlace
  Backed _ := False
  weaken h _ := h
  backs _ h := h.elim
  read h _ := by rw [h.memory]
  length_read _ h := by rw [h.memory]
  write region data h := h.write region data
  note _ h := h.record rfl
  note_compressed _ _ _ _ h := h.record rfl
  place := id
  answers role := Host.Twin.resolve role
  release _ h := h.release _ _

/-! ## Calls -/

/-- Off-heap buffers are what a direct call demands. -/
theorem requireDirect_of_storage {input output : Buffer} (hinput : input.storage = .direct)
    (houtput : output.storage = .direct) : requireDirect input output = .ok () := by
  rw [requireDirect, hinput, houtput]
  rfl

namespace Call

/-- **How the buffers are kept makes no difference to a call.** From a host that refuses no pin, a call
and the same call on other buffers over the same bytes have the same reply, leave the same memory, raise
the same and tell of the same but for the borrowing: of the log records, the one of a compression says
which buffers were pinned. And on off-heap buffers, a call that demands them runs just as the one that
does not. -/
theorem run_readdressed :
    (∀ (bridge : Bridge) (call call' : Call) (host : Host), Paired Buffer.SameBytes call call' →
      host.Grants → ∃ events events',
        (call.run bridge host).2.trace = host.trace ++ events ∧
        (call'.run bridge host).2.trace = host.trace ++ events' ∧
        (call'.run bridge host).1 = (call.run bridge host).1 ∧
        (call'.run bridge host).2.memory = (call.run bridge host).2.memory ∧
        raises events' = raises events ∧ dealings events' = dealings events) ∧
    ∀ (bridge : Bridge) (args : Transfer) (host : Host), args.input.storage = .direct →
      args.output.storage = .direct →
        (compressDirect args).run bridge host = (compress args).run bridge host ∧
        (uncompressDirect args).run bridge host = (uncompress args).run bridge host ∧
        ∀ direction width,
          (shuffleDirect direction width args).run bridge host =
            (shuffle direction width args).run bridge host := by
  refine ⟨?_, ?_⟩
  · intro bridge call call' host hpaired hgrants
    obtain ⟨events, htrace, -⟩ := call.raises_run bridge host
    obtain ⟨events', htrace', -⟩ := call'.raises_run bridge host
    have hat : Coupling.addressing.At (fun _ _ => True) host host := ⟨rfl, rfl, hgrants, hgrants⟩
    obtain ⟨hreply, hmemory, htold, -⟩ := Call.run_runs bridge hpaired (fun _ _ _ => trivial) hat
    rw [htrace, htrace', dealings_append, dealings_append] at htold
    have hdealings := List.append_cancel_left htold
    refine ⟨events, events', htrace, htrace', hreply, hmemory, ?_, hdealings⟩
    rw [← raises_dealings events', hdealings, raises_dealings]
  · intro bridge args host hinput houtput
    have haccepts := requireDirect_of_storage hinput houtput
    refine ⟨?_, ?_, ?_⟩
    · simp only [run, op, haccepts]
      rfl
    · simp only [run, op, haccepts]
      rfl
    · intro direction width
      simp only [run, op, haccepts]
      rfl

/-- The arguments to compress four bytes, with both buffers kept in some way. -/
def fourBytes (storage : Storage) : Transfer where
  input := { id := 0, storage, region := ⟨0, 0, 4⟩ }
  inputOffset := 0
  length := 4
  output := { id := 1, storage, region := ⟨1, 0, 40⟩ }
  outputOffset := 0

def fourBytesHost : Host where
  memory := ⟨[[97, 98, 99, 100], List.replicate 40 0]⟩

theorem paired_fourBytes : Paired Buffer.SameBytes (.compress (fourBytes .heap))
    (.compress (fourBytes .direct)) :=
  .compress ⟨rfl, rfl, rfl, rfl⟩ ⟨rfl, rfl, rfl, rfl⟩

theorem run_readdressed_fourBytes :
    Paired Buffer.SameBytes (.compress (fourBytes .heap)) (.compress (fourBytes .direct)) ∧
      fourBytesHost.Grants ∧
      ((compress (fourBytes .direct)).run {} fourBytesHost).1 = .number 6 ∧
      ((compressDirect (fourBytes .direct)).run {} fourBytesHost).1 = .number 6 := by
  have hgrants : fourBytesHost.Grants := fun _ _ => rfl
  obtain ⟨_, _, -, -, hreply, -⟩ :=
    run_readdressed.1 {} _ _ fourBytesHost paired_fourBytes hgrants
  have hdirect := (run_readdressed.2 {} (fourBytes .direct) fourBytesHost rfl rfl).1
  have hheap : ((compress (fourBytes .heap)).run {} fourBytesHost).1 = .number 6 := by decide +kernel
  rw [hheap] at hreply
  rw [hdirect]
  exact ⟨paired_fourBytes, hgrants, hreply, hreply⟩

/-- The record of a compression tells heap buffers from off-heap buffers, also apart from pins and
addresses. -/
theorem compress_tells_of_pins :
    Paired Buffer.SameBytes (.compress (fourBytes .heap)) (.compress (fourBytes .direct)) ∧
      fourBytesHost.Grants ∧
      unborrowed ((compress (fourBytes .direct)).run {} fourBytesHost).2.trace ≠
        unborrowed ((compress (fourBytes .heap)).run {} fourBytesHost).2.trace := by
  have hheap : unborrowed ((compress (fourBytes .heap)).run {} fourBytesHost).2.trace =
      [.codec (.maxCompressedLength 4), .codec (.compress [97, 98, 99, 100] 40),
        .log (.compressed 4 6 true true)] := by decide +kernel
  have hdirect : unborrowed ((compress (fourBytes .direct)).run {} fourBytesHost).2.trace =
      [.codec (.maxCompressedLength 4), .codec (.compress [97, 98, 99, 100] 40),
        .log (.compressed 4 6 false false)] := by decide +kernel
  refine ⟨paired_fourBytes, fun _ _ => rfl, ?_⟩
  rw [hheap, hdirect]
  decide

end Call

end BufferBridge
