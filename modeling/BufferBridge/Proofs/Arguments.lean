import BufferBridge.Proofs.Decompression

/-!
# Arguments that are wrong by themselves

Some arguments of a call are wrong whatever the buffers hold and whatever the host would answer: an
integer below zero, elements of no width, a part of an element, a size without a bound, a buffer of the
wrong kind. Every call looks at these first. So it is turned down before the host is asked for anything
if one of its arguments is of this kind, and only then.
-/
namespace BufferBridge

/-! ## What the checks blame -/

theorem code_of_nonNegative_eq_error {value : Int32} {what : String} {failure : Failure}
    (h : nonNegative value what = .error failure) : failure.code = .parsing := by
  rw [nonNegative] at h
  split at h
  · cases h
    rfl
  · cases h

theorem nonNegative_of_nonneg {value : Int32} {what : String} (h : 0 ≤ value.toInt) :
    nonNegative value what = .ok value.toInt.toNat :=
  nonNegative_eq_ok_iff.mpr (Int.toNat_of_nonneg h).symm

theorem Window.code_of_ofHost_eq_error {offset length : Int32} {failure : Failure}
    (h : ofHost offset length = .error failure) : failure.code = .parsing := by
  rw [ofHost, bind_eq_error_iff] at h
  rcases h with h | ⟨_, -, h⟩
  · exact code_of_nonNegative_eq_error h
  · rcases bind_eq_error_iff.mp h with h | ⟨_, -, h⟩
    · exact code_of_nonNegative_eq_error h
    · cases h

theorem Window.ofHost_of_nonneg {offset length : Int32} (hoffset : 0 ≤ offset.toInt)
    (hlength : 0 ≤ length.toInt) :
    ofHost offset length = .ok ⟨offset.toInt.toNat, length.toInt.toNat⟩ :=
  ofHost_eq_ok_iff.mpr ⟨(Int.toNat_of_nonneg hoffset).symm, (Int.toNat_of_nonneg hlength).symm⟩

namespace ElementSize

theorem code_of_ofHost_eq_error {width : Int32} {failure : Failure}
    (h : ofHost width = .error failure) : failure.code = .parsing := by
  rw [ofHost, bind_eq_error_iff] at h
  rcases h with h | ⟨size, -, h⟩
  · exact code_of_nonNegative_eq_error h
  · rw [ofNat] at h
    split at h
    · cases h
    · cases h
      rfl

theorem code_of_count_eq_error {size : ElementSize} {length : Nat} {policy : RemainderPolicy}
    {failure : Failure} (h : size.count length policy = .error failure) : failure.code = .parsing := by
  rw [count] at h
  split at h
  · cases h
    rfl
  · cases h

end ElementSize

theorem BlockCodec.bound_of_eq_zero {codec : BlockCodec} {length : Nat}
    (h : codec.maxCompressedLength length = 0) :
    codec.bound length = .error (.invalid (.tooLargeToCompress length)) := by
  simp only [bound, h]

theorem BlockCodec.bound_of_ne_zero {codec : BlockCodec} {length : Nat}
    (h : codec.maxCompressedLength length ≠ 0) :
    codec.bound length = .ok (codec.maxCompressedLength length) := by
  rw [bound]
  split
  · contradiction
  · rfl

theorem code_of_requireDirect_eq_error {input output : Buffer} {failure : Failure}
    (h : requireDirect input output = .error failure) : failure.code = .notDirect := by
  rw [requireDirect] at h
  split at h
  · cases h
    rfl
  · split at h
    · cases h
      rfl
    · cases h

theorem requireDirect_eq_ok_iff {input output : Buffer} :
    requireDirect input output = .ok () ↔ input.storage = .direct ∧ output.storage = .direct := by
  rw [requireDirect]
  split
  · simp [*]
  · split <;> simp_all

/-! ## Turned down, or asking -/

namespace Op

variable {α β : Type} {code : ErrorCode}

/-- An operation that fails before it has called the host: notes are all that is new about the host. -/
def TurnsDown (code : ErrorCode) (op : Op α) : Prop :=
  ∀ host, ∃ failure notes, failure.code = code ∧ hostCalls notes = [] ∧
    op host = (.error failure, { host with trace := host.trace ++ notes })

theorem TurnsDown.ofExcept {result : Except Failure α} {failure : Failure}
    (h : result = .error failure) (hcode : failure.code = code) :
    (liftM result : Op α).TurnsDown code := by
  intro host
  refine ⟨failure, [], hcode, rfl, ?_⟩
  rw [h, List.append_nil]
  rfl

theorem TurnsDown.bind {op : Op α} (h : op.TurnsDown code) (next : α → Op β) :
    (op >>= next).TurnsDown code := by
  intro host
  obtain ⟨failure, notes, hcode, hnotes, hrun⟩ := h host
  refine ⟨failure, notes, hcode, hnotes, ?_⟩
  simp only [Bind.bind, hrun]

theorem TurnsDown.map {op : Op α} (f : α → β) (h : op.TurnsDown code) : (f <$> op).TurnsDown code :=
  h.bind _

theorem TurnsDown.bind_note {event : Event} {next : Unit → Op α} (hevent : event.isHostCall = false)
    (h : (next ()).TurnsDown code) : (Op.note event >>= next).TurnsDown code := by
  intro host
  obtain ⟨failure, notes, hcode, hnotes, hrun⟩ := h (host.record event)
  refine ⟨failure, event :: notes, hcode, ?_, ?_⟩
  · rwa [hostCalls, List.filter_cons_of_neg (by simp [hevent])]
  · change next () (host.record event) = _
    rw [hrun, Host.record, List.append_assoc]
    rfl

/-- A check that may turn the operation down by itself, where what comes after it does so otherwise. -/
theorem TurnsDown.bind_ofExcept {result : Except Failure α} {next : α → Op β}
    (herror : ∀ failure, result = .error failure → failure.code = code)
    (hok : ∀ value, result = .ok value → (next value).TurnsDown code) :
    ((liftM result : Op α) >>= next).TurnsDown code := by
  cases h : result with
  | error failure => exact (TurnsDown.ofExcept rfl (herror failure h)).bind next
  | ok value => exact hok value h

end Op

open Op (TurnsDown Borrows)

/-! ## Arguments that are wrong -/

namespace Transfer

/-- One of the integers is below zero. -/
def Negative (args : Transfer) : Prop :=
  args.inputOffset.toInt < 0 ∨ args.length.toInt < 0 ∨ args.outputOffset.toInt < 0

/-- One of the two buffers is on the heap. -/
def OnHeap (args : Transfer) : Prop :=
  args.input.storage = .heap ∨ args.output.storage = .heap

/-- The elements of some width are not elements at all, or the length does not allow for them. -/
def Misshapen (args : Transfer) (width : Int32) (policy : RemainderPolicy) : Prop :=
  width.toInt ≤ 0 ∨ policy = .reject ∧ args.length.toInt % width.toInt ≠ 0

end Transfer

namespace Call

/-- A call that takes off-heap buffers only is given one on the heap. -/
def GivenHeap : Call → Prop
  | compressDirect args | uncompressDirect args | shuffleDirect _ _ args => args.OnHeap
  | compress _ | uncompress _ | maxCompressedLength _ | uncompressedLength .. | isValid .. | copy _
  | shuffle .. => False

/-- An integer among the arguments of a call is wrong: it is below zero, it is no width or no length of
whole elements, or compressing so many bytes has no bound that could be told. -/
def Misnumbered (bridge : Bridge) : Call → Prop
  | uncompress args | uncompressDirect args | copy args => args.Negative
  | compress args | compressDirect args =>
    args.Negative ∨ bridge.codec.maxCompressedLength args.length.toInt.toNat = 0
  | shuffle _ width args | shuffleDirect _ width args =>
    args.Negative ∨ args.Misshapen width bridge.config.remainder
  | maxCompressedLength length =>
    length.toInt < 0 ∨ bridge.codec.maxCompressedLength length.toInt.toNat = 0 ∨
      maxHostInt < bridge.codec.maxCompressedLength length.toInt.toNat
  | uncompressedLength _ offset length | isValid _ offset length => offset.toInt < 0 ∨ length.toInt < 0

/-- From a host, a call does nothing but raise a code: it replies with what stands in for a result, that
is the one call of the host, and notes are all else that is new about the host. -/
def OnlyRaises (bridge : Bridge) (call : Call) (host : Host) (code : ErrorCode) : Prop :=
  ∃ events, call.run bridge host = (call.sentinel, { host with trace := host.trace ++ events }) ∧
    hostCalls events = [.raise code]

end Call

/-! ## The operations behind the calls -/

section

variable {α : Type} {offset length : Int32} {next : Window → Op α}

theorem Window.turnsDown_of_negative (h : offset.toInt < 0 ∨ length.toInt < 0) :
    (do
      let window ← Window.ofHost offset length
      next window : Op α).TurnsDown .parsing := by
  refine .bind_ofExcept (fun _ => Window.code_of_ofHost_eq_error) fun window hwindow => ?_
  obtain ⟨hoffset, hlength⟩ := Window.ofHost_eq_ok_iff.mp hwindow
  rcases h with h | h <;> omega

theorem Window.adds_of_not_negative {kind : List Event → Prop}
    (h : ¬ (offset.toInt < 0 ∨ length.toInt < 0))
    (hnext : (next ⟨offset.toInt.toNat, length.toInt.toNat⟩).Adds kind) :
    (do
      let window ← Window.ofHost offset length
      next window : Op α).Adds kind := by
  simp only [not_or, Int.not_lt] at h
  exact .bind_ok (Window.ofHost_of_nonneg h.1 h.2) hnext

end

section

variable {α : Type} {args : Transfer} {what : String} {next : Window → Nat → Op α}

theorem Transfer.turnsDown_of_negative (h : args.Negative) :
    (do
      let window ← Window.ofHost args.inputOffset args.length
      let offset ← nonNegative args.outputOffset what
      next window offset : Op α).TurnsDown .parsing := by
  refine .bind_ofExcept (fun _ => Window.code_of_ofHost_eq_error) fun window hwindow => ?_
  refine .bind_ofExcept (fun _ => code_of_nonNegative_eq_error) fun offset hoffset => ?_
  obtain ⟨hinput, hlength⟩ := Window.ofHost_eq_ok_iff.mp hwindow
  have houtput := nonNegative_eq_ok_iff.mp hoffset
  rcases h with h | h | h <;> omega

theorem Transfer.adds_of_not_negative {kind : List Event → Prop} (h : ¬ args.Negative)
    (hnext : (next ⟨args.inputOffset.toInt.toNat, args.length.toInt.toNat⟩
      args.outputOffset.toInt.toNat).Adds kind) :
    (do
      let window ← Window.ofHost args.inputOffset args.length
      let offset ← nonNegative args.outputOffset what
      next window offset : Op α).Adds kind := by
  simp only [Negative, not_or, Int.not_lt] at h
  obtain ⟨hinput, hlength, houtput⟩ := h
  exact .bind_ok (Window.ofHost_of_nonneg hinput hlength)
    (.bind_ok (nonNegative_of_nonneg houtput) hnext)

end

namespace Bridge

variable {bridge : Bridge} {args : Transfer}

theorem compressOp_turnsDown (h : args.Negative ∨
    bridge.codec.maxCompressedLength args.length.toInt.toNat = 0) :
    (bridge.compressOp args).TurnsDown .parsing := by
  rcases h with h | h
  · exact Transfer.turnsDown_of_negative h
  · refine .bind_ofExcept (fun _ => Window.code_of_ofHost_eq_error) fun window hwindow => ?_
    refine .bind_ofExcept (fun _ => code_of_nonNegative_eq_error) fun offset _ => ?_
    have hlength : args.length.toInt.toNat = window.length := by
      rw [(Window.ofHost_eq_ok_iff.mp hwindow).2, Int.toNat_natCast]
    rw [hlength] at h
    refine TurnsDown.bind ?_ _
    rw [Dispatch.compress, Dispatch.maxCompressedLength_bind]
    exact .bind_note rfl (TurnsDown.bind (.ofExcept (BlockCodec.bound_of_eq_zero h) rfl) _)

theorem compressOp_borrows (h : ¬ (args.Negative ∨
    bridge.codec.maxCompressedLength args.length.toInt.toNat = 0)) :
    (bridge.compressOp args).Borrows (some args.input) (some args.output) := by
  rw [not_or] at h
  refine Transfer.adds_of_not_negative h.1 ?_
  have hbound := BlockCodec.bound_of_ne_zero h.2
  exact (Dispatch.compress_borrows hbound args.input args.output _).bind_quiet fun _ => .ofExcept _

theorem uncompressOp_borrows (h : ¬ args.Negative) :
    (bridge.uncompressOp args).Borrows (some args.input) (some args.output) :=
  Transfer.adds_of_not_negative h
    ((Dispatch.uncompress_borrows bridge.codec args.input _ args.output _).bind_quiet
      fun _ => .ofExcept _)

theorem copyOp_borrows (h : ¬ args.Negative) :
    (bridge.copyOp args).Borrows (some args.input) (some args.output) :=
  Transfer.adds_of_not_negative h
    (Dispatch.copy_borrows args.input _ args.output _ bridge.config.overlap)

theorem maxCompressedLengthOp_turnsDown {length : Int32} (bridge : Bridge)
    (h : length.toInt < 0 ∨ bridge.codec.maxCompressedLength length.toInt.toNat = 0 ∨
      maxHostInt < bridge.codec.maxCompressedLength length.toInt.toNat) :
    (bridge.maxCompressedLengthOp length).TurnsDown .parsing := by
  refine .bind_ofExcept (fun _ => code_of_nonNegative_eq_error) fun size hsize => ?_
  have hlength := nonNegative_eq_ok_iff.mp hsize
  obtain rfl : length.toInt.toNat = size := by omega
  rw [Dispatch.maxCompressedLength_bind]
  refine .bind_note rfl ?_
  by_cases hzero : bridge.codec.maxCompressedLength length.toInt.toNat = 0
  · exact TurnsDown.bind (.ofExcept (BlockCodec.bound_of_eq_zero hzero) rfl) _
  · rw [BlockCodec.bound_of_ne_zero hzero]
    refine .ofExcept (toHostInt_eq_error_iff.mpr ⟨?_, rfl⟩) rfl
    rcases h with h | h | h
    · omega
    · contradiction
    · exact h

theorem maxCompressedLengthOp_returns {length : Int32} (bridge : Bridge)
    (h : ¬ (length.toInt < 0 ∨ bridge.codec.maxCompressedLength length.toInt.toNat = 0 ∨
      maxHostInt < bridge.codec.maxCompressedLength length.toInt.toNat)) (host : Host) :
    ∃ value, (bridge.maxCompressedLengthOp length host).1 = .ok value := by
  simp only [not_or, Int.not_lt, Nat.not_lt] at h
  obtain ⟨hlength, hbound, hwidth⟩ := h
  refine ⟨Int32.ofNat (bridge.codec.maxCompressedLength length.toInt.toNat), ?_⟩
  rw [maxCompressedLengthOp, nonNegative_of_nonneg hlength]
  change ((liftM (bridge.codec.bound length.toInt.toNat) >>= fun bound =>
    (liftM (toHostInt bound) : Op Int32))
      (host.record (.codec (.maxCompressedLength length.toInt.toNat)))).1 = _
  rw [BlockCodec.bound_of_ne_zero hbound]
  exact if_pos hwidth

theorem shuffleOp_turnsDown {width : Int32} (direction : BitShuffle.Direction)
    (h : args.Negative ∨ args.Misshapen width bridge.config.remainder) :
    (bridge.shuffleOp direction width args).TurnsDown .parsing := by
  refine .bind_ofExcept (fun _ => code_of_nonNegative_eq_error) fun inputOffset hinputOffset => ?_
  refine .bind_ofExcept (fun _ => ElementSize.code_of_ofHost_eq_error) fun size hsize => ?_
  refine .bind_ofExcept (fun _ => code_of_nonNegative_eq_error) fun length hlength => ?_
  refine .bind_ofExcept (fun _ => code_of_nonNegative_eq_error) fun outputOffset houtputOffset => ?_
  have hinput := nonNegative_eq_ok_iff.mp hinputOffset
  have hwidth := ElementSize.ofHost_eq_ok hsize
  have hasked := nonNegative_eq_ok_iff.mp hlength
  have houtput := nonNegative_eq_ok_iff.mp houtputOffset
  have hpos := size.bytes_pos
  -- all integers are read, so that only a part of an element can be what is wrong
  rcases h with (h | h | h) | h | ⟨hpolicy, hpart⟩
  · omega
  · omega
  · omega
  · omega
  · rw [hasked, hwidth] at hpart
    have hpartial : length % size.bytes ≠ 0 := by exact_mod_cast hpart
    refine TurnsDown.bind (TurnsDown.bind_ofExcept (fun _ => ElementSize.code_of_count_eq_error) ?_) _
    intro count hcount
    rw [ElementSize.count, if_pos ⟨hpartial, hpolicy⟩] at hcount
    cases hcount

theorem shuffleOp_borrows {width : Int32} (direction : BitShuffle.Direction)
    (h : ¬ (args.Negative ∨ args.Misshapen width bridge.config.remainder)) :
    (bridge.shuffleOp direction width args).Borrows (some args.input) (some args.output) := by
  simp only [Transfer.Negative, Transfer.Misshapen, not_or, Int.not_lt, Int.not_le] at h
  obtain ⟨⟨hinput, hlength, houtput⟩, hwidth, hwhole⟩ := h
  obtain ⟨size, hsize⟩ : ∃ size : ElementSize, width.toInt = size.bytes :=
    ⟨⟨width.toInt.toNat, by omega⟩, by simp only; omega⟩
  refine .bind_ok (nonNegative_of_nonneg hinput) (.bind_ok (ElementSize.ofHost_of_toInt hsize)
    (.bind_ok (nonNegative_of_nonneg hlength) (.bind_ok (nonNegative_of_nonneg houtput) ?_)))
  have hcount : size.count args.length.toInt.toNat bridge.config.remainder =
      .ok (args.length.toInt.toNat / size.bytes) := by
    rw [ElementSize.count, if_neg]
    rintro ⟨hpart, hpolicy⟩
    refine hwhole ⟨hpolicy, ?_⟩
    rw [hsize, ← Int.toNat_of_nonneg hlength]
    exact_mod_cast hpart
  exact (Dispatch.shuffle_borrows hcount direction args.input args.output).bind_quiet
    fun _ => .ofExcept _

end Bridge

namespace Call

variable {bridge : Bridge} {call : Call}

/-- A buffer of the wrong kind is what a call is turned down for first. -/
theorem op_turnsDown_of_givenHeap (h : call.GivenHeap) : (call.op bridge).TurnsDown .notDirect := by
  have hdirect : ∀ {α : Type} {args : Transfer} (next : Unit → Op α), args.OnHeap →
      ((liftM (requireDirect args.input args.output) : Op Unit) >>= next).TurnsDown .notDirect := by
    intro α args next honHeap
    refine .bind_ofExcept (fun _ => code_of_requireDirect_eq_error) fun _ hok => ?_
    obtain ⟨hinput, houtput⟩ := requireDirect_eq_ok_iff.mp hok
    simp [Transfer.OnHeap, hinput, houtput] at honHeap
  cases call with
  | compressDirect args => exact hdirect _ h
  | uncompressDirect args => exact hdirect _ h
  | shuffleDirect direction width args => exact hdirect _ h
  | compress | uncompress | maxCompressedLength | uncompressedLength | isValid | copy | shuffle =>
    exact h.elim

theorem requireDirect_of_not_onHeap {args : Transfer} (h : ¬ args.OnHeap) :
    requireDirect args.input args.output = .ok () := by
  rw [requireDirect_eq_ok_iff]
  simp only [Transfer.OnHeap, not_or] at h
  constructor
  · cases hinput : args.input.storage with
    | heap => exact absurd hinput h.1
    | direct => rfl
  · cases houtput : args.output.storage with
    | heap => exact absurd houtput h.2
    | direct => rfl

theorem op_turnsDown_of_misnumbered (hheap : ¬ call.GivenHeap) (h : call.Misnumbered bridge) :
    (call.op bridge).TurnsDown .parsing := by
  cases call with
  | compress args => exact (Bridge.compressOp_turnsDown h).map _
  | uncompress args => exact TurnsDown.map _ (Transfer.turnsDown_of_negative h)
  | compressDirect args =>
    rw [op, requireDirect_of_not_onHeap hheap]
    exact (Bridge.compressOp_turnsDown h).map _
  | uncompressDirect args =>
    rw [op, requireDirect_of_not_onHeap hheap]
    exact TurnsDown.map _ (Transfer.turnsDown_of_negative h)
  | maxCompressedLength length => exact (bridge.maxCompressedLengthOp_turnsDown h).map _
  | uncompressedLength input offset length => exact TurnsDown.map _ (Window.turnsDown_of_negative h)
  | isValid input offset length => exact TurnsDown.map _ (Window.turnsDown_of_negative h)
  | copy args => exact TurnsDown.bind (Transfer.turnsDown_of_negative h) _
  | shuffle direction width args => exact (Bridge.shuffleOp_turnsDown direction h).map _
  | shuffleDirect direction width args =>
    rw [op, requireDirect_of_not_onHeap hheap]
    exact (Bridge.shuffleOp_turnsDown direction h).map _

/-- With all arguments as they should be, a call asks for its buffers; a call without buffers gives a
number. -/
theorem op_of_well_asked (hheap : ¬ call.GivenHeap) (h : ¬ call.Misnumbered bridge) :
    (call.op bridge).Borrows call.source? call.destination? ∨
      ∀ host, ∃ reply, (call.op bridge host).1 = .ok reply := by
  cases call with
  | compress args => exact .inl (.map _ (Bridge.compressOp_borrows h))
  | uncompress args => exact .inl (.map _ (Bridge.uncompressOp_borrows h))
  | compressDirect args =>
    rw [op, requireDirect_of_not_onHeap hheap]
    exact .inl (.map _ (Bridge.compressOp_borrows h))
  | uncompressDirect args =>
    rw [op, requireDirect_of_not_onHeap hheap]
    exact .inl (.map _ (Bridge.uncompressOp_borrows h))
  | maxCompressedLength length =>
    refine .inr fun host => ?_
    obtain ⟨value, hvalue⟩ := bridge.maxCompressedLengthOp_returns h host
    refine ⟨.number value, ?_⟩
    rw [op, Op.map_result, hvalue]
    rfl
  | uncompressedLength input offset length =>
    exact .inl (.map _ (Window.adds_of_not_negative h
      ((Dispatch.inspect_borrows input _ _ _).bind_quiet fun _ => .ofExcept _)))
  | isValid input offset length =>
    exact .inl (.map _ (Window.adds_of_not_negative h (Dispatch.inspect_borrows input _ _ _)))
  | copy args => exact .inl (.bind_quiet (Bridge.copyOp_borrows h) fun _ => .pure _)
  | shuffle direction width args => exact .inl (.map _ (Bridge.shuffleOp_borrows direction h))
  | shuffleDirect direction width args =>
    rw [op, requireDirect_of_not_onHeap hheap]
    exact .inl (.map _ (Bridge.shuffleOp_borrows direction h))

end Call

/-! ## The calls -/

namespace Call

variable {bridge : Bridge} {call : Call} {host : Host} {code : ErrorCode}

theorem onlyRaises_of_turnsDown (h : (call.op bridge).TurnsDown code) :
    call.OnlyRaises bridge host code := by
  obtain ⟨failure, notes, rfl, hnotes, hop⟩ := h host
  refine ⟨notes ++ [.log (.raising failure), .raise failure.code], ?_, ?_⟩
  · rw [run_of_op_error hop, Host.record, Host.record]
    simp only [List.append_assoc]
    rfl
  · rw [hostCalls_append, hnotes]
    rfl

/-- The code that a call raises is that of its operation. -/
theorem OnlyRaises.codesOf_op (h : call.OnlyRaises bridge host code) :
    codesOf (call.op bridge host).1 = [code] := by
  obtain ⟨events, hrun, hcalls⟩ := h
  rw [Call.codesOf_op hrun rfl, ← raises_hostCalls, hcalls]
  rfl

/-- A call that asks for a buffer does more than to raise. -/
theorem not_onlyRaises_of_borrows (h : (call.op bridge).Borrows call.source? call.destination?) :
    ¬ call.OnlyRaises bridge host code := by
  rintro ⟨events, hrun, hcalls⟩
  obtain ⟨events', calls, htrace, hcalls', ⟨requests, hrequests, -, rfl⟩, hsome⟩ := run_adds h host
  rw [hrun] at htrace
  obtain rfl := List.append_cancel_left htrace
  rw [hcalls] at hcalls'
  cases hrequests with
  | none => exact hsome rfl
  | one _ hfirst | two _ hfirst =>
    injection hcalls' with hraise
    subst hraise
    exact hfirst

/-- **A call is turned down by itself just where one of its arguments is wrong by itself.** Whatever the
other arguments, the buffers, the memory and the answers that the host has in store, such a call raises
one code and that is the only call of the host; it replies with what stands in for a result, and the
host is as before but for the record. The code tells of a buffer of the wrong kind where there is one,
and of the arguments otherwise. A call whose arguments are all as they should be is none of these. -/
theorem onlyRaises_iff (bridge : Bridge) (call : Call) (host : Host) (code : ErrorCode) :
    call.OnlyRaises bridge host code ↔
      call.GivenHeap ∧ code = .notDirect ∨
        ¬ call.GivenHeap ∧ call.Misnumbered bridge ∧ code = .parsing := by
  by_cases hheap : call.GivenHeap
  · have hraises := @onlyRaises_of_turnsDown bridge call host _ (op_turnsDown_of_givenHeap hheap)
    simp only [hheap, true_and, not_true_eq_false, false_and, or_false]
    constructor
    · intro h
      have hcodes := h.codesOf_op.symm.trans hraises.codesOf_op
      exact List.head_eq_of_cons_eq hcodes
    · rintro rfl
      exact hraises
  · simp only [hheap, false_and, not_false_eq_true, true_and, false_or]
    by_cases hnumbers : call.Misnumbered bridge
    · have hraises := @onlyRaises_of_turnsDown bridge call host _
        (op_turnsDown_of_misnumbered hheap hnumbers)
      simp only [hnumbers, true_and]
      constructor
      · intro h
        have hcodes := h.codesOf_op.symm.trans hraises.codesOf_op
        exact List.head_eq_of_cons_eq hcodes
      · rintro rfl
        exact hraises
    · simp only [hnumbers, false_and, iff_false]
      rcases op_of_well_asked hheap hnumbers with hborrows | hreturns
      · exact not_onlyRaises_of_borrows hborrows
      · intro h
        obtain ⟨reply, hop⟩ := hreturns host
        have hcodes := h.codesOf_op
        rw [hop] at hcodes
        cases hcodes

end Call

end BufferBridge
