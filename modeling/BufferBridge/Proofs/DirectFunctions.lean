import BufferBridge.Proofs.Addressing
import BufferBridge.Proofs.BitShuffle.Relay
import BufferBridge.Proofs.Delivery
import BufferBridge.Proofs.Exports

/-!
# What the direct functions cover

The functions on direct objects take no window: they are meant for all of the input. Its length goes
through an integer of the host, though, and one that is too long for that counts as the longest there is.
So what such a function covers are the bytes of the input up to there, which is all of it as long as an
integer of the host holds its length, and a shorter part, without a word, where it does not.
-/
namespace BufferBridge

open BitShuffle (transform)
open Op (Ensures)

/-! ## What an operation that succeeds has done -/

namespace Dispatch

variable {reader : Snappy.Reader} {input output : Buffer} {window : Window} {offset : Nat}
variable {memory : Memory}

/-- What stands in the output after compressing is a block of the bytes of the source window. -/
theorem compress_leaves_block (houtput : memory.Shows output.region) :
    (compress (.snappy reader) input window output offset).Ensures memory fun result after =>
      ∀ length, result = .ok length → ∃ block, block.length = length ∧
        (∀ release, Owned.uncompress block release =
          .ok (memory.read (input.region.part window.offset window.length))) ∧
        after.read (output.region.part offset length) = block := by
  refine compress_ensures ?_ ?_
  · intro _ _ h
    cases h
  · intro _ _ _ hcarvable length hresult
    obtain ⟨⟨hpos, hroom⟩, rfl⟩ := BlockCodec.snappy_compress_eq_ok_iff.mp hresult
    have hfits := Nat.le_trans (Snappy.length_compress_le hpos) hroom
    have hlong : output.region.length ≠ 0 := by omega
    refine ⟨_, rfl, ?_, ?_⟩
    · exact fun _ => Owned.uncompress_eq_ok_iff.mpr
        (Snappy.decodes_compress (Snappy.le_maxInputLength hpos))
    · rw [BlockCodec.snappy_compress hpos hroom]
      exact (houtput.backs hlong).read_write hcarvable.takes.within hfits

/-- What is written is what the bytes of the source window decompress to. -/
theorem uncompress_writes :
    (uncompress (.snappy reader) input window output offset).Ensures memory fun result after =>
      ∀ length, result = .ok length → ∃ data, data.length = length ∧
        Owned.uncompress (memory.read (input.region.part window.offset window.length)) reader =
          .ok data ∧
        offset + length ≤ output.region.length ∧
        after = memory.write (output.region.part offset length) data := by
  refine uncompress_ensures ?_ ?_
  · intro _ _ h
    cases h
  · intro declared _ hcarvable length hresult
    obtain ⟨_, hdecoded, rfl⟩ := map_eq_ok_iff.mp hresult
    obtain ⟨data, hdecodes, rfl⟩ := BlockCodec.snappy_uncompress_eq_ok_iff.mp hdecoded
    refine ⟨data, rfl, Owned.uncompress_eq_ok_iff.mpr hdecodes, hcarvable.takes.within, ?_⟩
    rw [BlockCodec.snappy_uncompress hdecodes]

/-- The output receives what the bytes of the source window decompress to. -/
theorem uncompress_leaves_data (houtput : memory.Shows output.region) :
    (uncompress (.snappy reader) input window output offset).Ensures memory fun result after =>
      ∀ length, result = .ok length → ∃ data, data.length = length ∧
        Owned.uncompress (memory.read (input.region.part window.offset window.length)) reader =
          .ok data ∧
        memory.Received (output.region.part offset length) data after := by
  refine uncompress_writes.mono fun result after hwrites length hresult => ?_
  obtain ⟨data, hlength, hdata, hwithin, rfl⟩ := hwrites length hresult
  exact ⟨data, hlength, hdata, houtput.received_write_part hwithin hlength⟩

variable {direction : BitShuffle.Direction} {request : ShuffleRequest} {policy : RemainderPolicy}

/-- The output receives the whole elements of the source window, regrouped. -/
theorem shuffle_leaves_elements (hinput : memory.Shows input.region)
    (houtput : memory.Shows output.region) :
    (shuffle direction input output request policy).Ensures memory fun result after =>
      ∀ processed, result = .ok processed → ∃ count,
        request.elementSize.count request.length policy = .ok count ∧
        processed = count * request.elementSize.bytes ∧
        memory.Received (output.region.part request.outputOffset processed)
          (transform direction request.elementSize.bytes count
            (memory.read (input.region.part request.inputOffset processed))) after := by
  refine shuffle_ensures ?_ ?_
  · intro _ _ h
    cases h
  · intro count total _ regrouped hcount htotal hcarvable happly processed hresult
    cases hresult
    subst htotal
    have hbytes := hinput.length_read hcarvable.window_within
    have hbefore := houtput.length_read hcarvable.takes.within
    -- the output window is just as long as what is regrouped, so that nothing of it is kept
    rw [BitShuffle.apply_eq_ok direction request.elementSize.bytes_pos
        (Nat.le_of_add_left_le hcarvable.window_size) (Nat.le_of_eq hbytes.symm)
        (Nat.le_of_eq hbefore.symm),
      List.drop_of_length_le (Nat.le_of_eq hbefore), List.append_nil] at happly
    cases happly
    have hlength := BitShuffle.length_transform direction (Nat.le_of_eq hbytes.symm)
    exact ⟨count, hcount, rfl, houtput.received_write_part hcarvable.takes.within hlength⟩

end Dispatch

theorem ElementSize.whole_of_count {size : ElementSize} {length count : Nat}
    (h : size.count length .reject = .ok count) : count * size.bytes = length := by
  by_cases hwhole : length / size.bytes * size.bytes = length
  · rw [eq_div_of_count_eq_ok h]
    exact hwhole
  · rw [count_of_partial rfl hwhole] at h
    cases h

/-! ## A length as a result -/

namespace Op

variable {op : Op Nat} {host : Host}

/-- An operation with its length as an integer of the host, as most calls have it. -/
def numbered (op : Op Nat) : Op Reply :=
  Reply.number <$> (op >>= fun length => (liftM (toHostInt length) : Op Int32))

theorem numbered_result : (op.numbered host).1 = Reply.number <$> ((op host).1 >>= toHostInt) := by
  rw [numbered, map_result, bind_ofExcept_result]

theorem numbered_after : (op.numbered host).2 = (op host).2 := by
  simp only [numbered, Functor.map, Bind.bind]
  rcases op host with ⟨result, after⟩
  cases result with
  | error failure => rfl
  | ok length =>
    simp only [liftM, monadLift, MonadLift.monadLift, ofExcept]
    cases toHostInt length <;> rfl

end Op

namespace Bridge

variable {bridge : Bridge} {args : Transfer} {window : Window} {offset : Nat}

theorem compressOp_eq (h : args.Asks window offset) :
    Reply.number <$> bridge.compressOp args =
      (Dispatch.compress bridge.codec args.input window args.output offset).numbered := by
  rw [compressOp, h.bind_ofHost]
  rfl

theorem uncompressOp_eq (h : args.Asks window offset) :
    Reply.number <$> bridge.uncompressOp args =
      (Dispatch.uncompress bridge.codec args.input window args.output offset).numbered := by
  rw [uncompressOp, h.bind_ofHost]
  rfl

end Bridge

namespace Export

/-! ## The length of a direct object -/

/-- The number of bytes that a direct function takes of a direct object. -/
def Span.taken (span : Span) : Nat := min span.length maxHostInt

theorem Span.taken_le (span : Span) : span.taken ≤ span.region.length := Nat.min_le_left ..

/-- A direct object as the buffer of a call. -/
def Span.buffer (span : Span) : Buffer := ⟨span.block, .direct, span.region, span.writable, true⟩

theorem Span.lends (host : Host) (input output : Span) : host.Lends input.buffer output.buffer :=
  ⟨_, _, _, rfl⟩

theorem Object.toInt_directLength (span : Span) :
    (Object.direct span).directLength.toInt = span.taken := by
  have hmin : min (span.length : Int) maxHostInt = (span.taken : Int) := by
    rw [Span.taken]
    omega
  have hlt : span.taken < 2 ^ 31 := Nat.lt_succ_of_le (Nat.min_le_right ..)
  rw [directLength, hmin, Int32.ofInt_eq_ofNat, Int32.toInt_ofNat_of_lt hlt]

theorem toInt_of_hostInt? {value : Int} {number : Int32} (h : hostInt? value = some number) :
    number.toInt = value := by
  rw [hostInt?] at h
  split at h
  · rename_i hrange
    cases h
    simp only [maxHostInt] at hrange
    exact Int32.toInt_ofInt_of_le (by omega) (by omega)
  · cases h

theorem Object.toInt?_of_toInt32 {object : Object} {number : Int32} (h : object.toInt32 = .ok number) :
    object.toInt? = some number.toInt := by
  rw [toInt32] at h
  split at h
  · cases h
  · rename_i value hvalue
    split at h
    · cases h
    · rename_i found hfound
      cases h
      rw [hvalue, toInt_of_hostInt? hfound]

theorem Object.toInt32_of_le {value : Nat} (h : value ≤ maxHostInt) :
    (Object.integer value).toInt32 = .ok (Int32.ofNat value) := by
  have hrange : hostInt? value = some (Int32.ofNat value) := by
    rw [hostInt?, if_pos (by omega), Int32.ofInt_eq_ofNat]
  simp only [toInt32, toInt?, hrange]

theorem Request.wholeTransfer_asks (memory : Memory) (input output : Span) :
    (wholeTransfer memory (.direct input) (.direct output)).Asks ⟨0, input.taken⟩ 0 :=
  ⟨rfl, Object.toInt_directLength input, rfl⟩

/-! ## A function whose result is a length -/

namespace Session

variable {session after : Session} {function : Function} {arguments : Arguments}
variable {call : Call} {objects : List Object} {op : Op Nat}

theorem request_of_bind (h : arguments.bind function.parameters = .ok objects) :
    session.request function arguments =
      Request.ofArguments session.host.memory function objects := by
  rw [request, h]
  rfl

/-- A function that asks the bridge for a length returns it where the operation does, as long as it is
one that an integer of the host holds. -/
theorem act_numbered_eq_ok_iff {value : Object}
    (hrequest : session.request function arguments = .ok (.call call objects))
    (hop : call.op session.bridge.1 = op.numbered) :
    (session.act (.call function arguments)).1 = .ok value ↔
      ∃ length, (op session.bridge.2).1 = .ok length ∧ length ≤ maxHostInt ∧
        value = .integer length := by
  simp only [act, hrequest, perform, runCall_result, hop, Op.numbered_result]
  generalize (op session.bridge.2).1 = result
  constructor
  · intro h
    cases result with
    | error failure => cases h
    | ok length =>
      cases hnumber : toHostInt length with
      | error failure =>
        simp only [Bind.bind, Except.bind, hnumber, Functor.map, Except.map] at h
        cases h
      | ok number =>
        have hlength := toHostInt_eq_ok_iff.mp hnumber
        simp only [Bind.bind, Except.bind, hnumber, Functor.map, Except.map] at h
        cases h
        have hlt := number.toInt_lt
        refine ⟨length, rfl, ?_, ?_⟩
        · simp only [maxHostInt]
          omega
        · rw [ofReply, hlength]
  · rintro ⟨length, rfl, hle, rfl⟩
    have hnumber : toHostInt length = .ok (Int32.ofNat length) := by rw [toHostInt, if_pos hle]
    simp only [Bind.bind, Except.bind, hnumber, Functor.map, Except.map]
    rw [ofReply, toHostInt_eq_ok_iff.mp hnumber]

theorem act_numbered_memory
    (hrequest : session.request function arguments = .ok (.call call objects))
    (hop : call.op session.bridge.1 = op.numbered) :
    (session.act (.call function arguments)).2.host.memory =
      (op session.bridge.2).2.memory := by
  simp only [act, hrequest, perform, runCall_memory, hop, Op.numbered_after]

/-- What there is when such a function has returned. -/
theorem numbered_of_act {value : Object}
    (hrequest : session.request function arguments = .ok (.call call objects))
    (hop : call.op session.bridge.1 = op.numbered)
    (h : session.act (.call function arguments) = (.ok value, after)) :
    ∃ length : Nat, value = .integer length ∧ (op session.bridge.2).1 = .ok length ∧
      after.host.memory = (op session.bridge.2).2.memory := by
  have hmemory := act_numbered_memory hrequest hop
  obtain ⟨length, hlength, -, rfl⟩ := (act_numbered_eq_ok_iff hrequest hop).mp (congrArg Prod.fst h)
  rw [h] at hmemory
  exact ⟨length, rfl, hlength, hmemory⟩

/-! ## The direct functions -/

variable {direction : BitShuffle.Direction} {input output : Span}

/-- The bytes that a direct function takes of its input. -/
def covered (session : Session) (input : Span) : Bytes :=
  session.host.memory.read (input.region.part 0 input.taken)

theorem compressDirect_op (session : Session) (memory : Memory) (input output : Span) :
    (Call.compressDirect (Request.wholeTransfer memory (.direct input) (.direct output))).op session.bridge.1 =
      (Dispatch.compress (.snappy session.libraries.reader) input.buffer ⟨0, input.taken⟩ output.buffer 0).numbered :=
  Bridge.compressOp_eq (Request.wholeTransfer_asks memory input output)

theorem uncompressDirect_op (session : Session) (memory : Memory) (input output : Span) :
    (Call.uncompressDirect (Request.wholeTransfer memory (.direct input) (.direct output))).op session.bridge.1 =
      (Dispatch.uncompress (.snappy session.libraries.reader) input.buffer ⟨0, input.taken⟩ output.buffer 0).numbered :=
  Bridge.uncompressOp_eq (Request.wholeTransfer_asks memory input output)

theorem shuffleDirect_op {width : Int32} {size : ElementSize} (hwidth : width.toInt = size.bytes)
    (session : Session) (memory : Memory) (direction : BitShuffle.Direction) (input output : Span) :
    (Call.shuffleDirect direction width
        (Request.wholeTransfer memory (.direct input) (.direct output))).op session.bridge.1 =
      (Dispatch.shuffle direction input.buffer output.buffer ⟨0, size, input.taken, 0⟩
        .reject).numbered := by
  have hasks := Request.wholeTransfer_asks memory input output
  calc
    _ = (Call.shuffle direction width
          (Request.wholeTransfer memory (.direct input) (.direct output))).op session.bridge.1 := rfl
    _ = _ := Call.shuffle_op hwidth hasks

theorem compressDirect_eq_ok {value : Object}
    (hbind : arguments.bind Function.compressDirect.parameters = .ok [.direct input, .direct output])
    (h : session.act (.call .compressDirect arguments) = (.ok value, after))
    (houtput : session.host.memory.Shows output.region) :
    ∃ block : Bytes, value = .integer block.length ∧
      (∀ release, Owned.uncompress block release = .ok (session.covered input)) ∧
      after.host.memory.read (output.region.part 0 block.length) = block := by
  have hrequest : session.request .compressDirect arguments = .ok (.call (.compressDirect
      (Request.wholeTransfer session.host.memory (.direct input) (.direct output)))
      [.direct input, .direct output]) := request_of_bind hbind
  obtain ⟨length, rfl, hlength, hmemory⟩ :=
    numbered_of_act hrequest (compressDirect_op session session.host.memory input output) h
  obtain ⟨block, rfl, hblock, hread⟩ :=
    Dispatch.compress_leaves_block houtput session.bridge.2 rfl length hlength
  rw [hmemory]
  exact ⟨block, rfl, hblock, hread⟩

theorem uncompressDirect_eq_ok {value : Object}
    (hbind : arguments.bind Function.uncompressDirect.parameters =
      .ok [.direct input, .direct output])
    (h : session.act (.call .uncompressDirect arguments) = (.ok value, after))
    (houtput : session.host.memory.Shows output.region) :
    ∃ data : Bytes, value = .integer data.length ∧
      Owned.uncompress (session.covered input) session.libraries.reader = .ok data ∧
      session.host.memory.Received (output.region.part 0 data.length) data after.host.memory := by
  have hrequest : session.request .uncompressDirect arguments = .ok (.call (.uncompressDirect
      (Request.wholeTransfer session.host.memory (.direct input) (.direct output)))
      [.direct input, .direct output]) := request_of_bind hbind
  obtain ⟨length, rfl, hlength, hmemory⟩ :=
    numbered_of_act hrequest (uncompressDirect_op session session.host.memory input output) h
  obtain ⟨data, rfl, hdata, hreceived⟩ :=
    Dispatch.uncompress_leaves_data houtput session.bridge.2 rfl length hlength
  rw [hmemory]
  exact ⟨data, rfl, hdata, hreceived⟩

theorem shuffleDirect_op_of_width {width : Int32} {failure : Failure}
    (hwidth : ElementSize.ofHost width = .error failure) (session : Session) (memory : Memory)
    (direction : BitShuffle.Direction) (input output : Span) :
    (Call.shuffleDirect direction width
      (Request.wholeTransfer memory (.direct input) (.direct output))).op session.bridge.1 = Op.fail failure := by
  show Reply.number <$> Bridge.shuffleOp session.bridge.1 direction width _ = _
  rw [Bridge.shuffleOp,
    nonNegative_eq_ok_iff.mpr (Request.wholeTransfer_asks memory input output).inputOffset, hwidth]
  rfl

/-- A width that is no element size is refused. -/
theorem width_of_shuffleDirect {width : Object} {value : Object}
    (hbind : arguments.bind (Function.shuffleDirect direction).parameters =
      .ok [.direct input, width, .direct output])
    (h : session.act (.call (.shuffleDirect direction) arguments) = (.ok value, after)) :
    ∃ (number : Int32) (size : ElementSize), width.toInt? = some (size.bytes : Int) ∧
      number.toInt = size.bytes ∧
      session.request (.shuffleDirect direction) arguments = .ok (.call (.shuffleDirect direction number
        (Request.wholeTransfer session.host.memory (.direct input) (.direct output)))
        [.direct input, .direct output]) := by
  have hrequest : session.request (.shuffleDirect direction) arguments = _ := request_of_bind hbind
  simp only [Request.ofArguments] at hrequest
  cases hwidth : width.toInt32 with
  | error fault =>
    rw [hwidth] at hrequest
    rw [act, hrequest] at h
    cases h
  | ok number =>
    replace hrequest : session.request (.shuffleDirect direction) arguments = .ok (.call
        (.shuffleDirect direction number
          (Request.wholeTransfer session.host.memory (.direct input) (.direct output)))
        [.direct input, .direct output]) := by
      rw [hrequest, hwidth]
      rfl
    cases hsize : ElementSize.ofHost number with
    | error failure =>
      simp only [act, hrequest, perform] at h
      have hresult := congrArg Prod.fst h
      rw [runCall_result, shuffleDirect_op_of_width hsize] at hresult
      cases hresult
    | ok size =>
      have hbytes := ElementSize.ofHost_eq_ok hsize
      exact ⟨number, size, hbytes ▸ Object.toInt?_of_toInt32 hwidth, hbytes, hrequest⟩

theorem shuffleDirect_eq_ok {width : Object} {value : Object}
    (hbind : arguments.bind (Function.shuffleDirect direction).parameters =
      .ok [.direct input, width, .direct output])
    (h : session.act (.call (.shuffleDirect direction) arguments) = (.ok value, after))
    (hinput : session.host.memory.Shows input.region)
    (houtput : session.host.memory.Shows output.region) :
    value = .integer input.taken ∧
      ∃ (size : ElementSize) (count : Nat), width.toInt? = some (size.bytes : Int) ∧
        count * size.bytes = input.taken ∧
        session.host.memory.Received (output.region.part 0 input.taken)
          (transform direction size.bytes count (session.covered input)) after.host.memory := by
  obtain ⟨number, size, hwidth, hnumber, hrequest⟩ := width_of_shuffleDirect hbind h
  obtain ⟨length, rfl, hlength, hmemory⟩ := numbered_of_act hrequest
    (shuffleDirect_op hnumber session session.host.memory direction input output) h
  obtain ⟨count, hcount, rfl, hreceived⟩ :=
    Dispatch.shuffle_leaves_elements hinput houtput session.bridge.2 rfl length hlength
  have hwhole := ElementSize.whole_of_count hcount
  simp only at hwhole hreceived
  rw [hwhole] at hreceived
  rw [hmemory]
  refine ⟨by rw [hwhole], size, count, hwidth, hwhole, hreceived⟩

/-- **A direct function that returns has covered its input as far as an integer of the host counts.** To
compress leaves a block from which just these bytes come back, to decompress leaves what they decompress
to, and to shuffle leaves them regrouped and returns their number. Where an integer of the host holds the
length of the input, they are all of it. -/
theorem direct_functions_cover {session : Session} {input output : Span}
    (hinput : session.host.memory.Shows input.region)
    (houtput : session.host.memory.Shows output.region) :
    ((session.covered input).length = min input.length maxHostInt ∧
      (input.length ≤ maxHostInt →
        session.covered input = session.host.memory.read input.region)) ∧
    (∀ (arguments : Arguments) (value : Object) (after : Session),
      arguments.bind Function.compressDirect.parameters = .ok [.direct input, .direct output] →
      session.act (.call .compressDirect arguments) = (.ok value, after) →
        ∃ block : Bytes, value = .integer block.length ∧
          (∀ release, Owned.uncompress block release = .ok (session.covered input)) ∧
          after.host.memory.read (output.region.part 0 block.length) = block) ∧
    (∀ (arguments : Arguments) (value : Object) (after : Session),
      arguments.bind Function.uncompressDirect.parameters = .ok [.direct input, .direct output] →
      session.act (.call .uncompressDirect arguments) = (.ok value, after) →
        ∃ data : Bytes, value = .integer data.length ∧
          Owned.uncompress (session.covered input) session.libraries.reader = .ok data ∧
          session.host.memory.Received (output.region.part 0 data.length) data after.host.memory) ∧
    ∀ (direction : BitShuffle.Direction) (arguments : Arguments) (width value : Object)
        (after : Session),
      arguments.bind (Function.shuffleDirect direction).parameters =
        .ok [.direct input, width, .direct output] →
      session.act (.call (.shuffleDirect direction) arguments) = (.ok value, after) →
        value = .integer (min input.length maxHostInt : Nat) ∧
        ∃ (size : ElementSize) (count : Nat), width.toInt? = some (size.bytes : Int) ∧
          count * size.bytes = min input.length maxHostInt ∧
          session.host.memory.Received (output.region.part 0 (min input.length maxHostInt))
            (transform direction size.bytes count (session.covered input)) after.host.memory := by
  refine ⟨⟨?_, ?_⟩, ?_, ?_, ?_⟩
  · exact hinput.length_read (Nat.le_trans (Nat.le_of_eq (Nat.zero_add _)) input.taken_le)
  · intro h
    have htaken : input.taken = input.region.length := Nat.min_eq_left h
    rw [covered, htaken]
    rfl
  · intro arguments value after hbind h
    exact compressDirect_eq_ok hbind h houtput
  · intro arguments value after hbind h
    exact uncompressDirect_eq_ok hbind h houtput
  · intro direction arguments width value after hbind h
    exact shuffleDirect_eq_ok hbind h hinput houtput

theorem eq_ok_of_kept {result : Except Fault Object} {value : Int} (h : kept result = .integer value) :
    result = .ok (.integer value) := by
  cases result with
  | error fault => cases h
  | ok object => exact congrArg Except.ok h

/-- A session with a direct object of eight bytes, and one of sixty that may be written. -/
def heldSession : Session where
  host := { memory := ⟨[[1, 2, 3, 4, 5, 6, 7, 8], List.replicate 60 0]⟩ }

def heldInput : Span := .whole 0 8 1 "B" false

def heldOutput : Span := .whole 1 60 1 "B" true

theorem direct_functions_cover_held :
    heldSession.host.memory.Shows heldInput.region ∧
      heldSession.host.memory.Shows heldOutput.region ∧
      (∃ (block : Bytes) (after : Session),
        heldSession.act (.call .compressDirect
          { inOrder := [.direct heldInput, .direct heldOutput] }) =
            (.ok (.integer block.length), after) ∧
        Owned.uncompress block = .ok [1, 2, 3, 4, 5, 6, 7, 8]) ∧
      ∃ after : Session,
        heldSession.act (.call (.shuffleDirect .shuffle)
          { inOrder := [.direct heldInput, .integer 1, .direct heldOutput] }) =
            (.ok (.integer 8), after) ∧
        after.host.memory.read ⟨1, 0, 8⟩ = transform .shuffle 1 8 [1, 2, 3, 4, 5, 6, 7, 8] := by
  have hinput : heldSession.host.memory.Shows heldInput.region := ⟨by decide, by decide⟩
  have houtput : heldSession.host.memory.Shows heldOutput.region := ⟨by decide, by decide⟩
  obtain ⟨-, hcompress, -, hshuffle⟩ := direct_functions_cover hinput houtput
  have hcompressed : (heldSession.act (.call .compressDirect
      { inOrder := [.direct heldInput, .direct heldOutput] })).1 = .ok (.integer 10) := by
    exact eq_ok_of_kept (by decide +kernel)
  have hshuffled : (heldSession.act (.call (.shuffleDirect .shuffle)
      { inOrder := [.direct heldInput, .integer 1, .direct heldOutput] })).1 = .ok (.integer 8) := rfl
  refine ⟨hinput, houtput, ?_, ?_⟩
  · obtain ⟨block, hvalue, hblock, -⟩ := hcompress _ _ _ rfl (Prod.ext hcompressed rfl)
    exact ⟨block, _, Prod.ext (hvalue ▸ hcompressed) rfl, hblock _⟩
  · obtain ⟨-, size, count, hwidth, hcount, hreceived⟩ :=
      hshuffle .shuffle _ (.integer 1) _ _ rfl (Prod.ext hshuffled rfl)
    have hone : size.bytes = 1 := by
      have := Option.some.inj hwidth
      omega
    have height : count = 8 := by
      rw [hone, Nat.mul_one] at hcount
      exact hcount
    rw [hone, height] at hreceived
    exact ⟨_, Prod.ext hshuffled rfl, hreceived.read_eq⟩

/-! ## Inputs that are too long -/

/-- An input that is too long for an integer of the host is shuffled up to there, if an element ends
there, and nothing is said of the rest. -/
theorem shuffleDirect_cuts {size : ElementSize} {count : Nat}
    (hinput : session.host.memory.Shows input.region)
    (houtput : session.host.memory.Shows output.region) (hlong : maxHostInt < input.length)
    (hwhole : count * size.bytes = maxHostInt)
    (htakes : output.buffer.Takes ⟨0, maxHostInt⟩ (input.region.part 0 maxHostInt))
    (direction : BitShuffle.Direction) :
    (session.act (.call (.shuffleDirect direction)
      { inOrder := [.direct input, .integer size.bytes, .direct output] })).1 =
        .ok (.integer maxHostInt) := by
  have hle : size.bytes ≤ maxHostInt :=
    Nat.le_of_dvd (by decide) ⟨count, by rw [Nat.mul_comm, hwhole]⟩
  have hnumber : (Int32.ofNat size.bytes).toInt = size.bytes :=
    Int32.toInt_ofNat_of_lt (Nat.lt_succ_of_le hle)
  have hrequest : session.request (.shuffleDirect direction)
      { inOrder := [.direct input, .integer size.bytes, .direct output] } =
        .ok (.call (.shuffleDirect direction (Int32.ofNat size.bytes)
          (Request.wholeTransfer session.host.memory (.direct input) (.direct output)))
          [.direct input, .direct output]) := by
    show Request.ofArguments session.host.memory (.shuffleDirect direction)
      [.direct input, .integer size.bytes, .direct output] = _
    simp only [Request.ofArguments, Object.toInt32_of_le hle]
    rfl
  have htaken : input.taken = maxHostInt := Nat.min_eq_right (Nat.le_of_lt hlong)
  have hcount : size.count maxHostInt .reject = .ok count := by
    have hdiv : maxHostInt / size.bytes = count := by
      rw [← hwhole, Nat.mul_div_cancel _ size.bytes_pos]
    rw [← hdiv]
    exact ElementSize.count_of_whole (.inr (by rw [hdiv, hwhole]))
  refine (act_numbered_eq_ok_iff hrequest (shuffleDirect_op hnumber session _ direction input output)).mpr
    ⟨maxHostInt, ?_, Nat.le_refl _, rfl⟩
  rw [htaken]
  exact (@Dispatch.shuffle_of_takes direction input.buffer output.buffer ⟨0, size, maxHostInt, 0⟩
    .reject session.bridge.2 count maxHostInt (Span.lends ..) hinput houtput hcount
    hwhole (by rw [Nat.zero_add]; exact Nat.le_of_lt hlong) htakes).1

/-- Makes two objects of so many zeros, and a direct object over each of them. -/
def giants (length : Nat) : List Stage :=
  [.make (.frozen (List.replicate length 0)), .make (.growable (List.replicate length 0)),
    .make (.direct 0), .make (.direct 1)]

/-- The first of the two direct objects. -/
def giantInput (length : Nat) : Span := .whole 0 length 1 "B" false

/-- The second of the two direct objects. -/
def giantOutput (length : Nat) : Span := .whole 1 length 1 "B" true

theorem runAll_giants (length : Nat) :
    runAll (giants length) {} =
      { host := { memory := ⟨[List.replicate length 0, List.replicate length 0]⟩ }
        objects := [.frozen 0, .growable 1, .direct (giantInput length), .direct (giantOutput length)]
        exports := ⟨[1, 0]⟩ } := by
  have hbytes : isUnsignedByte "B" = true := by decide
  simp [giants, runAll, advance, make, build, allocate, direct, Object.acquire, Object.span?, object,
    kept, Memory.block, hbytes, giantInput, giantOutput, Span.whole, Span.isContiguous, Ledger.take]

theorem region_giantInput (length : Nat) : (giantInput length).region = ⟨0, 0, length⟩ := by
  simp [giantInput, Span.whole, Span.region, Span.length]

theorem region_giantOutput (length : Nat) : (giantOutput length).region = ⟨1, 0, length⟩ := by
  simp [giantOutput, Span.whole, Span.region, Span.length]

theorem shuffleDirect_cuts_giants {length : Nat} (hlong : maxHostInt < length)
    (hsize : length ≤ maxSize) :
    ((runAll (giants length) {}).act (.call (.shuffleDirect .shuffle)
      { inOrder := [.direct (giantInput length), .integer maxHostInt,
        .direct (giantOutput length)] })).1 = .ok (.integer maxHostInt) := by
  have hinput : (runAll (giants length) {}).host.memory.Shows (giantInput length).region := by
    rw [runAll_giants, region_giantInput]
    exact ⟨by simp [Memory.block], hsize⟩
  have houtput : (runAll (giants length) {}).host.memory.Shows (giantOutput length).region := by
    rw [runAll_giants, region_giantOutput]
    exact ⟨by simp [Memory.block], hsize⟩
  have hlength : maxHostInt < (giantInput length).length := by
    show maxHostInt < (giantInput length).region.length
    rw [region_giantInput]
    exact hlong
  have htakes : (giantOutput length).buffer.Takes ⟨0, maxHostInt⟩
      ((giantInput length).region.part 0 maxHostInt) := by
    refine ⟨?_, rfl, ?_⟩
    · show 0 + maxHostInt ≤ (giantOutput length).region.length
      rw [region_giantOutput, Nat.zero_add]
      exact Nat.le_of_lt hlong
    · show ∀ block position, _ → ¬ ((giantOutput length).region.part 0 maxHostInt).Covers block position
      rw [region_giantInput, region_giantOutput]
      rintro block position ⟨rfl, -⟩ ⟨h, -⟩
      cases h
  exact @shuffleDirect_cuts _ (giantInput length) (giantOutput length) ⟨maxHostInt, by decide⟩ 1
    hinput houtput hlength (Nat.one_mul _) htakes .shuffle

/-- A script that holds a direct object of one byte more than an integer of the host counts, and one as
long to shuffle into, is told that all has been shuffled but for this byte. -/
theorem shuffleDirect_cuts_last_byte :
    .direct (giantInput (maxHostInt + 1)) ∈ (runAll (giants (maxHostInt + 1)) {}).objects ∧
      ((runAll (giants (maxHostInt + 1)) {}).act
        (.capacity (.direct (giantInput (maxHostInt + 1))))).1 = .ok (.integer (maxHostInt + 1)) ∧
      ((runAll (giants (maxHostInt + 1)) {}).act (.call (.shuffleDirect .shuffle)
        { inOrder := [.direct (giantInput (maxHostInt + 1)), .integer maxHostInt,
          .direct (giantOutput (maxHostInt + 1))] })).1 = .ok (.integer maxHostInt) := by
  refine ⟨?_, ?_, shuffleDirect_cuts_giants (Nat.lt_succ_self _) (by decide)⟩
  · rw [runAll_giants]
    simp
  · simp [act, giantInput, Span.whole, Span.length]

end Session

end Export

end BufferBridge
