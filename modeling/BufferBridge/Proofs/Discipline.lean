import BufferBridge.Proofs.HostCalls

/-!
# Pins, releases and raised failures

Every call of a bridge brackets its requests, and tells the host of a failure only when all that was
granted has gone back. The discipline is first shown for each operation, from the fact that what
happens between borrowing and giving back is quiet, and then read off the record of the call.
-/
namespace BufferBridge

open Op (Quiet Brackets Borrows Bracketed Requests)

/-! ## The operations on windows are quiet -/

theorem copyWindow_quiet (src : Guard) (window : Window) (dst : Guard) (offset : Nat)
    (allowOverlap : Bool) : (copyWindow src window dst offset allowOverlap).Quiet := by
  refine .bind (.ofExcept _) fun _ => .bind (.ofExcept _) fun input =>
    .bind (.ofExcept _) fun output => ?_
  split
  · exact .fail _
  · exact .bind (.read input) fun data => .write output data

namespace Dispatch

theorem deliver_quiet {α : Type} (region : Region) (outcome : Outcome α) :
    (deliver region outcome).Quiet :=
  .bind (.write region outcome.written) fun _ => .ofExcept outcome.result

theorem maxCompressedLength_bind {α : Type} (codec : BlockCodec) (length : Nat) (next : Nat → Op α) :
    (maxCompressedLength codec length >>= next) =
      (Op.note (.codec (.maxCompressedLength length)) >>= fun _ => liftM (codec.bound length) >>= next) :=
  rfl

theorem maxCompressedLength_quiet (codec : BlockCodec) (length : Nat) :
    (maxCompressedLength codec length).Quiet :=
  .bind (.note rfl) fun _ => .ofExcept _

/-! ## The operations on buffers are bracketed

They ask for their buffers, unless an argument is turned down before. -/

theorem compress_borrows {codec : BlockCodec} {window : Window} {room : Nat}
    (hbound : codec.bound window.length = .ok room) (input output : Buffer) (offset : Nat) :
    (compress codec input window output offset).Borrows (some input) (some output) := by
  rw [compress, maxCompressedLength_bind]
  refine .bind_note rfl (.bind_ok hbound (withPair_borrows fun src dst => ?_))
  split
  · exact .fail _
  · exact .bind (.ofExcept _) fun ⟨source, destination⟩ => .bind (.read source) fun bytes =>
      .bind (.note rfl) fun _ => .bind (deliver_quiet destination _) fun length =>
        .bind (.note rfl) fun _ => .pure length

theorem compress_brackets (codec : BlockCodec) (input : Buffer) (window : Window) (output : Buffer)
    (offset : Nat) :
    (compress codec input window output offset).Brackets (some input) (some output) := by
  cases hbound : codec.bound window.length with
  | ok room => exact (compress_borrows hbound input output offset).brackets
  | error failure =>
    rw [compress, maxCompressedLength_bind]
    exact .bind_note rfl (Quiet.brackets (.bind_error hbound _))

theorem uncompress_borrows (codec : BlockCodec) (input : Buffer) (window : Window)
    (output : Buffer) (offset : Nat) :
    (uncompress codec input window output offset).Borrows (some input) (some output) := by
  refine withPair_borrows fun src dst => ?_
  refine .bind (.ofExcept _) fun source => .bind (.read source) fun bytes =>
    .bind (.note rfl) fun _ => .bind (.ofExcept _) fun length => ?_
  extract_lets target fits decode
  -- the block is decoded after it was looked at once more, or at once
  have hdecode : ∀ checked, (decode checked).Quiet := by
    intro checked
    simp only [decode]
    split
    · exact .fail _
    · exact .bind (.ofExcept _) fun ⟨_, destination⟩ => .bind (.note rfl) fun _ =>
        .bind (deliver_quiet destination _) fun _ => .bind (.note rfl) fun _ => .pure length
  split
  · exact .bind (.note rfl) hdecode
  · exact hdecode ()

theorem inspect_borrows {α : Type} (input : Buffer) (window : Window) (ask : Bytes → CodecCall)
    (answer : Bytes → Except Failure α) :
    (inspect input window ask answer).Borrows (some input) none :=
  withGuard_borrows fun _ => .bind (.ofExcept _) fun source => .bind (.read source) fun _ =>
    .bind (.note rfl) fun _ => .ofExcept _

theorem copy_borrows (source : Buffer) (window : Window) (destination : Buffer) (offset : Nat)
    (allowOverlap : Bool) :
    (copy source window destination offset allowOverlap).Borrows (some source) (some destination) :=
  withPair_borrows fun src dst => copyWindow_quiet src window dst offset allowOverlap

theorem shuffle_borrows {request : ShuffleRequest} {policy : RemainderPolicy} {count : Nat}
    (hcount : request.elementSize.count request.length policy = .ok count)
    (direction : BitShuffle.Direction) (input output : Buffer) :
    (shuffle direction input output request policy).Borrows (some input) (some output) := by
  refine .bind_ok hcount (withPair_borrows fun src dst => ?_)
  refine .bind (.ofExcept _) fun ⟨source, destination⟩ => .bind (.read source) fun bytes =>
    .bind (.read destination) fun before => .bind (.note rfl) fun _ => ?_
  split
  · exact .fail _
  · refine .bind (.write destination _) fun _ => ?_
    split
    · exact .bind (.note rfl) fun _ => .pure _
    · exact .pure _

theorem shuffle_brackets (direction : BitShuffle.Direction) (input output : Buffer)
    (request : ShuffleRequest) (policy : RemainderPolicy) :
    (shuffle direction input output request policy).Brackets (some input) (some output) := by
  cases hcount : request.elementSize.count request.length policy with
  | ok count => exact (shuffle_borrows hcount direction input output).brackets
  | error failure => exact Quiet.brackets (.bind_error hcount _)

end Dispatch

/-! ## Calls -/

namespace Call

/-- The buffer that a call reads from, if it takes one. -/
def source? : Call → Option Buffer
  | compress args | uncompress args | compressDirect args | uncompressDirect args | copy args
  | shuffle _ _ args | shuffleDirect _ _ args => some args.input
  | uncompressedLength input _ _ | isValid input _ _ => some input
  | maxCompressedLength _ => none

/-- The buffer that a call writes to, if it takes one. -/
def destination? : Call → Option Buffer
  | compress args | uncompress args | compressDirect args | uncompressDirect args | copy args
  | shuffle _ _ args | shuffleDirect _ _ args => some args.output
  | uncompressedLength .. | isValid .. | maxCompressedLength _ => none

end Call

/-! Reading the arguments before and the result after are quiet. -/

namespace Bridge

variable (bridge : Bridge)

theorem compressOp_brackets (args : Transfer) :
    (bridge.compressOp args).Brackets (some args.input) (some args.output) :=
  Quiet.bind_brackets (.ofExcept _) fun window => Quiet.bind_brackets (.ofExcept _) fun offset =>
    (Dispatch.compress_brackets bridge.codec args.input window args.output offset).bind_quiet
      fun _ => .ofExcept _

theorem uncompressOp_brackets (args : Transfer) :
    (bridge.uncompressOp args).Brackets (some args.input) (some args.output) :=
  Quiet.bind_brackets (.ofExcept _) fun window => Quiet.bind_brackets (.ofExcept _) fun offset =>
    (Dispatch.uncompress_borrows bridge.codec args.input window args.output offset).brackets.bind_quiet
      fun _ => .ofExcept _

theorem maxCompressedLengthOp_quiet (length : Int32) : (bridge.maxCompressedLengthOp length).Quiet :=
  .bind (.ofExcept _) fun length =>
    .bind (Dispatch.maxCompressedLength_quiet bridge.codec length) fun _ => .ofExcept _

theorem uncompressedLengthOp_brackets (input : Buffer) (offset length : Int32) :
    (bridge.uncompressedLengthOp input offset length).Brackets (some input) none :=
  Quiet.bind_brackets (.ofExcept _) fun window =>
    (Dispatch.inspect_borrows input window _ _).brackets.bind_quiet fun _ => .ofExcept _

theorem isValidOp_brackets (input : Buffer) (offset length : Int32) :
    (bridge.isValidOp input offset length).Brackets (some input) none :=
  Quiet.bind_brackets (.ofExcept _) fun window =>
    (Dispatch.inspect_borrows input window _ _).brackets

theorem copyOp_brackets (args : Transfer) :
    (bridge.copyOp args).Brackets (some args.input) (some args.output) :=
  Quiet.bind_brackets (.ofExcept _) fun window => Quiet.bind_brackets (.ofExcept _) fun offset =>
    (Dispatch.copy_borrows args.input window args.output offset bridge.config.overlap).brackets

theorem shuffleOp_brackets (direction : BitShuffle.Direction) (width : Int32) (args : Transfer) :
    (bridge.shuffleOp direction width args).Brackets (some args.input) (some args.output) :=
  Quiet.bind_brackets (.ofExcept _) fun _ => Quiet.bind_brackets (.ofExcept _) fun _ =>
    Quiet.bind_brackets (.ofExcept _) fun _ => Quiet.bind_brackets (.ofExcept _) fun _ =>
      (Dispatch.shuffle_brackets direction args.input args.output _ bridge.config.remainder).bind_quiet
        fun _ => .ofExcept _

end Bridge

/-- Every operation behind a call brackets its requests. -/
theorem Call.op_brackets (bridge : Bridge) (call : Call) :
    (call.op bridge).Brackets call.source? call.destination? := by
  cases call with
  | compress args => exact (bridge.compressOp_brackets args).map _
  | uncompress args => exact (bridge.uncompressOp_brackets args).map _
  | compressDirect args =>
    exact Quiet.bind_brackets (.ofExcept _) fun _ => (bridge.compressOp_brackets args).map _
  | uncompressDirect args =>
    exact Quiet.bind_brackets (.ofExcept _) fun _ => (bridge.uncompressOp_brackets args).map _
  | maxCompressedLength length => exact ((bridge.maxCompressedLengthOp_quiet length).map _).brackets
  | uncompressedLength input offset length =>
    exact (bridge.uncompressedLengthOp_brackets input offset length).map _
  | isValid input offset length => exact (bridge.isValidOp_brackets input offset length).map _
  | copy args => exact (bridge.copyOp_brackets args).bind_quiet fun _ => .pure _
  | shuffle direction width args => exact (bridge.shuffleOp_brackets direction width args).map _
  | shuffleDirect direction width args =>
    exact Quiet.bind_brackets (.ofExcept _) fun _ =>
      (bridge.shuffleOp_brackets direction width args).map _

/-! ## The discipline -/

/-- The failures that are raised for the result of an operation. -/
def codesOf {α : Type} : Except Failure α → List ErrorCode
  | .ok _ => []
  | .error failure => [failure.code]

/-- What the host is told of the result of an operation. -/
def telling {α : Type} (result : Except Failure α) : List Event := (codesOf result).map .raise

section

variable {α : Type} (result : Except Failure α)

@[simp] theorem grants_telling : grants (telling result) = [] := by
  cases result <;> rfl

@[simp] theorem releases_telling : releases (telling result) = [] := by
  cases result <;> rfl

@[simp] theorem raises_telling : raises (telling result) = codesOf result := by
  cases result <;> rfl

@[simp] theorem countP_telling : (telling result).countP Event.isRequest = 0 := by
  cases result <;> rfl

end

theorem eq_raise_of_mem_telling {α : Type} {result : Except Failure α} {event : Event}
    (h : event ∈ telling result) : ∃ code, event = .raise code := by
  obtain ⟨code, -, rfl⟩ := List.mem_map.mp h
  exact ⟨code, rfl⟩

/-- The host calls of one bridge call, as they should be: which buffers they are about, what became of
the operation, and in what order they come. -/
structure Disciplined (destination : Option Buffer) (result : Except Failure Reply)
    (calls : List Event) : Prop where
  /-- A pin that was granted is released exactly once. -/
  released_once : ∀ buffer attempt, .pin buffer attempt ∈ calls →
    calls.count (.unpin buffer attempt) = 1
  /-- What is released was granted, and was not refused. -/
  released_granted : ∀ buffer attempt, .unpin buffer attempt ∈ calls →
    .pin buffer attempt ∈ calls ∧ ∀ other, .refuse other attempt ∉ calls
  /-- The releases come in reverse order of the pins. -/
  released_reversed : releases calls = (grants calls).reverse
  /-- After the first release nothing more is asked for. -/
  closed : ∀ before after buffer attempt, calls = before ++ .unpin buffer attempt :: after →
    ∀ event ∈ after, event.isRequest = false
  /-- From the first pin to the last release the destination is asked for, once at most, and pins are
  released, and that is all. -/
  confined : ∀ before middle after buffer attempt buffer' attempt',
    calls = before ++ .pin buffer attempt :: (middle ++ .unpin buffer' attempt' :: after) →
    middle.countP Event.isRequest ≤ 1 ∧
    ∀ event ∈ middle, event.isRelease = true ∨ ∃ dst, destination = some dst ∧ event.Resolves dst
  /-- A failure is raised once, with its code; a success is not. -/
  raised : raises calls = codesOf result
  /-- Nothing comes after a raised failure. -/
  raised_last : ∀ before after code, calls = before ++ .raise code :: after → after = []

/-! ## Reading the discipline off the brackets -/

theorem mem_grants {events : List Event} {buffer attempt : Nat} :
    (buffer, attempt) ∈ grants events ↔ .pin buffer attempt ∈ events := by
  rw [grants, List.mem_filterMap]
  constructor
  · intro h
    obtain ⟨event, hmem, hgrant⟩ := h
    cases event <;> cases hgrant
    exact hmem
  · intro hmem
    exact ⟨_, hmem, rfl⟩

theorem count_unpin (events : List Event) (buffer attempt : Nat) :
    events.count (.unpin buffer attempt) = (releases events).count (buffer, attempt) := by
  rw [releases, List.count_filterMap, List.count]
  apply List.countP_congr
  intro event _
  cases event <;> simp [Event.release?]

/-- Attempt numbers tell requests apart. -/
theorem eq_of_attempt_eq {events : List Event} (hnodup : (events.filterMap Event.attempt?).Nodup)
    {first second : Event} {attempt : Nat} (hfirst : first ∈ events) (hsecond : second ∈ events)
    (h : first.attempt? = some attempt) (h' : second.attempt? = some attempt) : first = second := by
  induction events with
  | nil => cases hfirst
  | cons event rest ih =>
    cases hevent : event.attempt? with
    | none =>
      rw [List.filterMap_cons_none hevent] at hnodup
      have hne : ∀ other : Event, other.attempt? = some attempt → other ≠ event := by
        rintro other hother rfl
        rw [hevent] at hother
        cases hother
      exact ih hnodup (List.mem_of_ne_of_mem (hne first h) hfirst)
        (List.mem_of_ne_of_mem (hne second h') hsecond)
    | some number =>
      rw [List.filterMap_cons_some hevent, List.nodup_cons] at hnodup
      have hlater : ∀ other ∈ rest, other.attempt? = some attempt → number ≠ attempt := by
        rintro other hmem hother rfl
        exact hnodup.1 (List.mem_filterMap.mpr ⟨other, hmem, hother⟩)
      -- the event in front is both, one of the two, or neither
      rcases List.mem_cons.mp hfirst with hf | hf <;> rcases List.mem_cons.mp hsecond with hs | hs
      · rw [hf, hs]
      · rw [hf, hevent] at h
        exact absurd (Option.some.inj h) (hlater _ hs h')
      · rw [hs, hevent] at h'
        exact absurd (Option.some.inj h') (hlater _ hf h)
      · exact ih hnodup.2 hf hs

theorem nodup_grants {events : List Event} (hnodup : (events.filterMap Event.attempt?).Nodup) :
    (grants events).Nodup := by
  rw [List.Nodup, List.pairwise_filterMap] at hnodup
  rw [grants, List.Nodup, List.pairwise_filterMap]
  refine hnodup.imp ?_
  intro first second hne pin hpin pin' hpin' heq
  cases first <;> cases hpin
  cases second <;> cases hpin'
  cases heq
  exact hne _ rfl _ rfl rfl

theorem Op.Requests.isRequest {source destination : Option Buffer} {requests : List Event}
    (h : Requests source destination requests) : ∀ event ∈ requests, event.isRequest = true := by
  cases h with
  | none => simp
  | one _ hfirst => simpa using hfirst.isRequest
  | two _ hfirst _ hsecond => simpa using ⟨hfirst.isRequest, hsecond.isRequest⟩

theorem Op.Requests.length_le {source destination : Option Buffer} {requests : List Event}
    (h : Requests source destination requests) : requests.length ≤ 2 := by
  cases h <;> simp

/-- Where something is told by no request, the requests of a call tell nothing of it. -/
theorem Op.Requests.filterMap_eq {β : Type} {f : Event → Option β}
    (hf : ∀ event, event.isRequest = true → f event = Option.none) {source destination : Option Buffer}
    {requests : List Event} (h : Requests source destination requests) : requests.filterMap f = [] :=
  List.filterMap_eq_nil_iff.mpr fun event hmem => hf event (h.isRequest event hmem)

theorem Op.Requests.releases_eq {source destination : Option Buffer} {requests : List Event}
    (h : Requests source destination requests) : releases requests = [] := by
  apply h.filterMap_eq
  intro event hrequest
  cases event with
  | unpin => cases hrequest
  | pin | refuse | address | raise | log | codec => rfl

theorem Op.Requests.raises_eq {source destination : Option Buffer} {requests : List Event}
    (h : Requests source destination requests) : raises requests = [] := by
  apply h.filterMap_eq
  intro event hrequest
  cases event with
  | raise => cases hrequest
  | pin | refuse | unpin | address | log | codec => rfl

theorem isRequest_of_isRelease {event : Event} (h : event.isRelease = true) :
    event.isRequest = false := by
  cases event <;> first | rfl | cases h

theorem countP_closing (requests : List Event) :
    (closing requests).countP Event.isRequest = 0 := by
  refine List.countP_eq_zero.mpr fun event hmem => ?_
  rw [isRequest_of_isRelease (mem_closing hmem).1]
  exact Bool.false_ne_true

/-- What may come later than what in a disciplined call. -/
def MayFollow (destination : Option Buffer) (earlier later : Event) : Prop :=
  (earlier.isRelease = true → later.isRequest = false) ∧ earlier.raise? = none ∧
    (earlier.grant?.isSome = true → later.isRelease = true ∨ later.raise?.isSome = true ∨
      ∃ dst, destination = some dst ∧ later.Resolves dst)

theorem mayFollow_of_isRequest {destination : Option Buffer} {earlier later : Event}
    (h : earlier.isRequest = true) (hlater : later.isRelease = true ∨ later.raise?.isSome = true ∨
      ∃ dst, destination = some dst ∧ later.Resolves dst) : MayFollow destination earlier later := by
  refine ⟨?_, ?_, fun _ => hlater⟩
  · intro hrelease
    rw [isRequest_of_isRelease hrelease] at h
    cases h
  · cases earlier with
    | pin | refuse | address => rfl
    | unpin | raise | log | codec => cases h

theorem mayFollow_of_isRelease {destination : Option Buffer} {earlier later : Event}
    (h : earlier.isRelease = true) (hlater : later.isRequest = false) :
    MayFollow destination earlier later := by
  refine ⟨fun _ => hlater, ?_, ?_⟩
  · cases earlier with
    | unpin => rfl
    | pin | refuse | address | raise | log | codec => cases h
  · intro hgrant
    cases earlier with
    | unpin => cases hgrant
    | pin | refuse | address | raise | log | codec => cases h

/-- The host calls of a call that brackets its requests and then tells of its result come in an order
that is allowed. -/
theorem Op.Requests.pairwise_mayFollow {source destination : Option Buffer} {requests : List Event}
    (h : Requests source destination requests) (result : Except Failure Reply) :
    (requests ++ closing requests ++ telling result).Pairwise (MayFollow destination) := by
  have hrequests := h.isRequest
  have hcloses : ∀ event ∈ closing requests, event.isRelease = true := fun _ hmem =>
    (mem_closing hmem).1
  refine List.pairwise_append.mpr ⟨List.pairwise_append.mpr ⟨?_, ?_, ?_⟩, ?_, ?_⟩
  · cases h with
    | none => exact .nil
    | one _ hfirst => exact List.pairwise_singleton ..
    | two _ hfirst hdst hsecond =>
      exact List.pairwise_pair.mpr
        (mayFollow_of_isRequest hfirst.isRequest (.inr (.inr ⟨_, hdst, hsecond⟩)))
  · refine List.pairwise_of_forall_mem_list ?_
    intro earlier hearlier later hlater
    exact mayFollow_of_isRelease (hcloses _ hearlier) (isRequest_of_isRelease (hcloses _ hlater))
  · intro earlier hearlier later hlater
    exact mayFollow_of_isRequest (hrequests _ hearlier) (.inl (hcloses _ hlater))
  · cases result with
    | ok reply => exact .nil
    | error failure => exact List.pairwise_singleton ..
  · intro earlier hearlier later hlater
    obtain ⟨code, rfl⟩ := eq_raise_of_mem_telling hlater
    rcases List.mem_append.mp hearlier with hearlier | hearlier
    · exact mayFollow_of_isRequest (hrequests _ hearlier) (.inr (.inl rfl))
    · exact mayFollow_of_isRelease (hcloses _ hearlier) rfl

/-- What comes after an event may follow it. -/
theorem mayFollow_of_eq {destination : Option Buffer} {calls before after : List Event} {event : Event}
    (hpairwise : calls.Pairwise (MayFollow destination)) (h : calls = before ++ event :: after) :
    ∀ later ∈ after, MayFollow destination event later := by
  rw [h, List.pairwise_append, List.pairwise_cons] at hpairwise
  exact hpairwise.2.1.1

/-- **An operation that brackets its requests is disciplined once its result is told.** -/
theorem Op.Bracketed.disciplined {source destination : Option Buffer} {calls : List Event}
    (h : Bracketed source destination calls) (result : Except Failure Reply) :
    Disciplined destination result (calls ++ telling result) := by
  obtain ⟨requests, hrequests, hnodup, rfl⟩ := h
  have hpairwise := hrequests.pairwise_mayFollow result
  have hgrants : grants (requests ++ closing requests ++ telling result) = grants requests := by
    simp only [grants_append, grants_closing, grants_telling, List.append_nil]
  have hreleases : releases (requests ++ closing requests ++ telling result)
      = (grants requests).reverse := by
    simp only [releases_append, hrequests.releases_eq, releases_closing, releases_telling,
      List.nil_append, List.append_nil]
  refine ⟨?_, ?_, ?_, ?_, ?_, ?_, ?_⟩
  · intro buffer attempt hpin
    rw [← mem_grants, hgrants] at hpin
    rw [count_unpin, hreleases, List.count_reverse, (nodup_grants hnodup).count, if_pos hpin]
  · intro buffer attempt hunpin
    have hpin : Event.pin buffer attempt ∈ requests := by
      rw [← List.count_pos_iff, count_unpin, hreleases, List.count_reverse, List.count_pos_iff] at hunpin
      exact mem_grants.mp hunpin
    refine ⟨List.mem_append_left _ (List.mem_append_left _ hpin), ?_⟩
    intro other hrefuse
    -- an attempt has one outcome only
    rcases List.mem_append.mp hrefuse with hrefuse | hrefuse
    · rcases List.mem_append.mp hrefuse with hrefuse | hrefuse
      · cases eq_of_attempt_eq hnodup hpin hrefuse rfl rfl
      · cases (mem_closing hrefuse).1
    · obtain ⟨code, hcode⟩ := eq_raise_of_mem_telling hrefuse
      cases hcode
  · rw [hreleases, hgrants]
  · intro before after buffer attempt heq event hmem
    exact (mayFollow_of_eq hpairwise heq event hmem).1 rfl
  · intro before middle after buffer attempt buffer' attempt' heq
    have hafter := mayFollow_of_eq hpairwise heq
    refine ⟨?_, ?_⟩
    · have hcount := congrArg (List.countP Event.isRequest) heq
      simp only [List.countP_append, List.countP_cons, countP_closing,
        countP_telling] at hcount
      have hlength := hrequests.length_le
      have hle : requests.countP Event.isRequest ≤ requests.length := List.countP_le_length
      simp only [Event.isRequest, if_true] at hcount
      omega
    · intro event hmem
      rcases (hafter event (List.mem_append_left _ hmem)).2.2 rfl with hrelease | hraise | hresolves
      · exact .inl hrelease
      · -- a failure is raised last, and there is a release to come
        rw [heq, List.pairwise_append, List.pairwise_cons, List.pairwise_append] at hpairwise
        have hnone := (hpairwise.2.1.2.2.2 event hmem _ List.mem_cons_self).2.1
        rw [hnone] at hraise
        cases hraise
      · exact .inr hresolves
  · simp only [raises_append, hrequests.raises_eq, raises_closing, raises_telling, List.nil_append]
  · intro before after code heq
    cases after with
    | nil => rfl
    | cons event rest =>
      cases (mayFollow_of_eq hpairwise heq event List.mem_cons_self).2.1

/-! ## The record of a call -/

theorem settle_trace {α : Type} [Sentinel α] (result : Except Failure α) (host : Host) :
    ∃ events, (settle result host).2.trace = host.trace ++ events ∧
      hostCalls events = telling result := by
  cases result with
  | ok value => exact ⟨[], (List.append_nil _).symm, rfl⟩
  | error failure =>
    exact ⟨[.log (.raising failure), .raise failure.code], List.append_assoc .., rfl⟩

/-- A call calls the host as its operation does, and then tells of the result. -/
theorem Call.run_adds {bridge : Bridge} {call : Call} {kind : List Event → Prop}
    (h : (call.op bridge).Adds kind) (host : Host) :
    ∃ events calls, (call.run bridge host).2.trace = host.trace ++ events ∧
      hostCalls events = calls ++ telling (call.op bridge host).1 ∧ kind calls := by
  obtain ⟨events, htrace, hkind⟩ := h host
  obtain ⟨told, htrace', htold⟩ :=
    @settle_trace _ ⟨call.sentinel⟩ (call.op bridge host).1 (call.op bridge host).2
  refine ⟨events ++ told, hostCalls events, ?_, ?_, hkind⟩
  · rw [← List.append_assoc, ← htrace]
    exact htrace'
  · rw [hostCalls_append, htold]

theorem Call.run_trace (bridge : Bridge) (call : Call) (host : Host) :
    ∃ events calls, (call.run bridge host).2.trace = host.trace ++ events ∧
      hostCalls events = calls ++ telling (call.op bridge host).1 ∧
      Bracketed call.source? call.destination? calls :=
  Call.run_adds (call.op_brackets bridge) host

theorem raises_hostCalls (events : List Event) : raises (hostCalls events) = raises events := by
  rw [raises, raises, hostCalls, List.filterMap_filter]
  congr
  funext event
  cases event <;> rfl

/-- What a call raises is told by the result of its operation alone. -/
theorem Call.raises_run (bridge : Bridge) (call : Call) (host : Host) :
    ∃ events, (call.run bridge host).2.trace = host.trace ++ events ∧
      raises events = codesOf (call.op bridge host).1 := by
  obtain ⟨events, calls, htrace, hcalls, hbracketed⟩ := call.run_trace bridge host
  refine ⟨events, htrace, ?_⟩
  rw [← raises_hostCalls, hcalls]
  exact (hbracketed.disciplined _).raised

/-- A call replies and raises nothing. -/
def Call.Returns (bridge : Bridge) (call : Call) (host : Host) (reply : Reply) (after : Host) : Prop :=
  call.run bridge host = (reply, after) ∧
    ∃ events, after.trace = host.trace ++ events ∧ raises events = []

/-- A call raises a failure, once, and replies with what stands in for a result. -/
def Call.Raises (bridge : Bridge) (call : Call) (host : Host) (code : ErrorCode) (after : Host) : Prop :=
  call.run bridge host = (call.sentinel, after) ∧
    ∃ events, after.trace = host.trace ++ events ∧ raises events = [code]

theorem Call.returns_of_op {bridge : Bridge} {call : Call} {host after : Host} {reply : Reply}
    (h : call.op bridge host = (.ok reply, after)) : call.Returns bridge host reply after := by
  have hrun : call.run bridge host = (reply, after) := by
    simp only [run, Op.call, h, settle]
  obtain ⟨events, htrace, hraises⟩ := call.raises_run bridge host
  rw [hrun] at htrace
  rw [h] at hraises
  exact ⟨hrun, events, htrace, hraises⟩

/-- Where its operation fails, a call tells of the failure and then raises its code. -/
theorem Call.run_of_op_error {bridge : Bridge} {call : Call} {host middle : Host} {failure : Failure}
    (h : call.op bridge host = (.error failure, middle)) :
    call.run bridge host =
      (call.sentinel, (middle.record (.log (.raising failure))).record (.raise failure.code)) := by
  simp only [run, Op.call, h, settle]

theorem Call.raises_of_op {bridge : Bridge} {call : Call} {host middle : Host} {failure : Failure}
    (h : call.op bridge host = (.error failure, middle)) :
    ∃ after, call.Raises bridge host failure.code after ∧ after.memory = middle.memory := by
  have hrun := Call.run_of_op_error h
  obtain ⟨events, htrace, hraises⟩ := call.raises_run bridge host
  rw [hrun] at htrace
  rw [h] at hraises
  exact ⟨_, ⟨hrun, events, htrace, hraises⟩, rfl⟩

/-- What a call raises tells how its operation ended. -/
theorem Call.codesOf_op {bridge : Bridge} {call : Call} {host after : Host} {reply : Reply}
    {events : List Event} (hrun : call.run bridge host = (reply, after))
    (htrace : after.trace = host.trace ++ events) :
    codesOf (call.op bridge host).1 = raises events := by
  obtain ⟨told, htold, hraises⟩ := call.raises_run bridge host
  rw [hrun] at htold
  obtain rfl : told = events := List.append_cancel_left (htold.symm.trans htrace)
  exact hraises.symm

theorem Call.Returns.op_eq_ok {bridge : Bridge} {call : Call} {host after : Host} {reply : Reply}
    (h : call.Returns bridge host reply after) : (call.op bridge host).1 = .ok reply := by
  obtain ⟨hrun, events, htrace, hraises⟩ := h
  have hcodes := Call.codesOf_op hrun htrace
  rw [hraises] at hcodes
  simp only [run, Op.call] at hrun
  generalize call.op bridge host = ran at hrun hcodes ⊢
  rcases ran with ⟨result, last⟩
  cases result with
  | ok value =>
    cases hrun
    rfl
  | error failure => cases hcodes

/-- A call that raises has an operation that failed, and to tell of it changed no byte. -/
theorem Call.Raises.op_eq_error {bridge : Bridge} {call : Call} {host after : Host} {code : ErrorCode}
    (h : call.Raises bridge host code after) :
    ∃ failure, (call.op bridge host).1 = .error failure ∧ failure.code = code ∧
      after.memory = (call.op bridge host).2.memory := by
  obtain ⟨hrun, events, htrace, hraises⟩ := h
  have hcodes := Call.codesOf_op hrun htrace
  rw [hraises] at hcodes
  cases hop : (call.op bridge host).1 with
  | ok reply =>
    rw [hop] at hcodes
    cases hcodes
  | error failure =>
    rw [hop] at hcodes
    cases hcodes
    rw [Call.run_of_op_error (Prod.ext hop rfl)] at hrun
    cases hrun
    exact ⟨failure, rfl, rfl, rfl⟩

/-! ## Pins that are held -/

/-- The attempts by which a buffer is pinned, after one more event. -/
def heldAfter (buffer : Nat) (pins : List Nat) : Event → List Nat
  | .pin b attempt => if b = buffer then pins ++ [attempt] else pins
  | .unpin b attempt => if b = buffer then pins.erase attempt else pins
  | _ => pins

theorem Host.pinsOf_eq (buffer : Nat) (host : Host) :
    host.pinsOf buffer = host.trace.foldl (heldAfter buffer) [] := by
  rw [pinsOf]
  congr

/-- Notes pin nothing. -/
theorem foldl_heldAfter_hostCalls (buffer : Nat) (events : List Event) (pins : List Nat) :
    events.foldl (heldAfter buffer) pins = (hostCalls events).foldl (heldAfter buffer) pins := by
  apply foldl_hostCalls
  intro pins event hnote
  cases event <;> first | rfl | cases hnote

/-- To ask for buffers and then to give back what was granted leaves the pins that there were. -/
theorem perm_foldl_closing (buffer : Nat) {requests : List Event}
    (h : ∀ event ∈ requests, event.isRequest = true) (pins : List Nat) :
    ((requests ++ closing requests).foldl (heldAfter buffer) pins).Perm pins := by
  refine foldl_closing (fun pins => .refl pins) ?_ h pins
  intro request hrequest pins pins' hheld
  cases request with
  | pin b attempt =>
    show (heldAfter buffer pins' (.unpin b attempt)).Perm pins
    by_cases hbuffer : b = buffer
    · simp only [heldAfter, hbuffer, if_true] at hheld ⊢
      refine (hheld.erase attempt).trans ((List.perm_append_comm.erase attempt).trans ?_)
      rw [List.singleton_append, List.erase_cons_head]
    · simp only [heldAfter, hbuffer, if_false] at hheld ⊢
      exact hheld
  | refuse | address => exact hheld
  | unpin | raise | log | codec => cases hrequest

theorem foldl_heldAfter_telling {α : Type} (buffer : Nat) (result : Except Failure α)
    (pins : List Nat) : (telling result).foldl (heldAfter buffer) pins = pins := by
  cases result <;> rfl

/-- A call leaves the pins that there were. -/
theorem Call.perm_pinsOf_run (bridge : Bridge) (call : Call) (host : Host) (buffer : Nat) :
    ((call.run bridge host).2.pinsOf buffer).Perm (host.pinsOf buffer) := by
  obtain ⟨events, calls, htrace, hcalls, requests, hrequests, -, rfl⟩ := call.run_trace bridge host
  rw [Host.pinsOf_eq, Host.pinsOf_eq, htrace, List.foldl_append, foldl_heldAfter_hostCalls, hcalls,
    List.foldl_append, foldl_heldAfter_telling]
  exact perm_foldl_closing buffer hrequests.isRequest _

/-- Calls of one bridge or of several, one after the other. -/
def Call.runAll (calls : List (Bridge × Call)) (host : Host) : Host :=
  calls.foldl (fun host call => (call.2.run call.1 host).2) host

theorem Call.perm_pinsOf_runAll (calls : List (Bridge × Call)) (host : Host) (buffer : Nat) :
    ((Call.runAll calls host).pinsOf buffer).Perm (host.pinsOf buffer) := by
  induction calls generalizing host with
  | nil => exact .refl _
  | cons call rest ih => exact (ih _).trans (call.2.perm_pinsOf_run call.1 host buffer)

/-- **Every call is disciplined**, whatever the buffers, the arguments, the memory and the answers of
the host, **and after any sequence of calls just those pins are held that were held before**. -/
theorem Call.runs_disciplined :
    (∀ (bridge : Bridge) (call : Call) (host : Host),
      ∃ events, (call.run bridge host).2.trace = host.trace ++ events ∧
        Disciplined call.destination? (call.op bridge host).1 (hostCalls events)) ∧
    ∀ (calls : List (Bridge × Call)) (host : Host) (buffer : Nat),
      ((Call.runAll calls host).pinsOf buffer).Perm (host.pinsOf buffer) := by
  refine ⟨?_, Call.perm_pinsOf_runAll⟩
  intro bridge call host
  obtain ⟨events, calls, htrace, hcalls, hbracketed⟩ := call.run_trace bridge host
  refine ⟨events, htrace, ?_⟩
  rw [hcalls]
  exact hbracketed.disciplined _

end BufferBridge
