import BufferBridge.Export.Session
import BufferBridge.Proofs.Discipline

/-!
# Exports are given back

A call gives back every export that it has taken, and so does a recipe that makes nothing. So at any point
of a script, what is exported is what the views and the direct objects show that are there, and a block
may grow just when none of them shows it.
-/
namespace BufferBridge.Export

namespace Ledger

@[simp] theorem give_take (block : Nat) (ledger : Ledger) : (ledger.take block).give block = ledger := by
  rw [take, give, List.erase_cons_head]

theorem count_take (block other : Nat) (ledger : Ledger) :
    (ledger.take other).count block = ledger.count block + if other = block then 1 else 0 := by
  simp only [count, take, List.count_cons, beq_iff_eq]

theorem count_give (block other : Nat) (ledger : Ledger) :
    (ledger.give other).count block = ledger.count block - if other = block then 1 else 0 := by
  simp only [count, give, List.count_erase, beq_iff_eq]

end Ledger

/-! ## What an object takes and gives back -/

namespace Object

/-- Asking for bytes takes an export if they are had, and none otherwise. -/
theorem acquire_eq (memory : Memory) (exports : Ledger) (object : Object) :
    object.acquire memory exports =
      (object.lend memory, match object.lend memory with
        | .ok span => exports.take span.block
        | .error _ => exports) := by
  simp only [lend, acquire]
  cases object.span? memory with
  | none => rfl
  | some span =>
    simp only [Ledger.give_take]
    split <;> rfl

theorem buffer_eq {memory : Memory} {object : Object} (h : ∀ span, object ≠ .direct span) :
    object.buffer memory = match object.lend memory with
      | .ok span => ⟨span.block, .heap, span.region, span.writable, span.isContiguous⟩
      | .error _ => ⟨memory.blocks.length, .heap, ⟨memory.blocks.length, 0, 0⟩, false, false⟩ := by
  cases object with
  | direct span => exact absurd rfl (h span)
  | _ => rfl

/-- A pin is had just where the object is reachable as a buffer. It takes an export of the block that the
buffer is known by, and where there is no pin no export is left. -/
theorem pin_ledger {memory : Memory} {object : Object} (exports : Ledger)
    (h : ∀ span, object ≠ .direct span) :
    (object.pin memory exports).2 =
      if object.isReachable memory then exports.take (object.buffer memory).id else exports := by
  rw [pin, acquire_eq, isReachable, buffer_eq h]
  cases object.lend memory with
  | error refusal => rfl
  | ok span =>
    simp only [Ledger.give_take]
    split <;> rfl

theorem pin_ledger_of_unreachable {memory : Memory} {object : Object} (exports : Ledger)
    (h : object.isReachable memory = false) : (object.pin memory exports).2 = exports := by
  have hdirect : ∀ span, object ≠ .direct span := by
    rintro span rfl
    cases h
  rw [pin_ledger exports hdirect, h, if_neg Bool.false_ne_true]

/-- The exports that there are when an object has come. -/
def retain (exports : Ledger) (object : Object) : Ledger :=
  match object.holds? with
  | some block => exports.take block
  | Option.none => exports

theorem count_retain (block : Nat) (exports : Ledger) (object : Object) :
    (object.retain exports).count block =
      exports.count block + if object.holds? = some block then 1 else 0 := by
  rw [retain]
  cases object.holds? with
  | none => simp
  | some other => simp [Ledger.count_take]

theorem count_release (block : Nat) (exports : Ledger) (object : Object) :
    (object.release exports).count block =
      exports.count block - if object.holds? = some block then 1 else 0 := by
  rw [release]
  cases object.holds? with
  | none => simp
  | some other => simp [Ledger.count_give]

end Object

theorem Span.block_of_slice {slice : Slice} {span shown : Span} (h : span.slice slice = .ok shown) :
    shown.block = span.block := by
  rw [Span.slice] at h
  split at h
  · cases h
  · cases h
    rfl

theorem Span.block_of_cast {format : String} {span shown : Span} (h : span.cast format = .ok shown) :
    shown.block = span.block := by
  rw [Span.cast] at h
  split at h
  · cases h
  · split at h
    · cases h
    · split at h
      · cases h
      · split at h <;> cases h
        rfl

namespace Session

/-! ## Making objects -/

/-- What is made is all that changes about the exports: one more if it shows bytes of another object. -/
structure Makes (session : Session) (made : Except Fault Object × Session) : Prop where
  objects : made.2.objects = session.objects
  results : made.2.results = session.results
  exports : made.2.exports = (kept made.1).retain session.exports

theorem view_makes {session : Session} {source : Nat} {adjust : Span → Except SpanFault Span}
    (hadjust : ∀ span shown, adjust span = .ok shown → shown.block = span.block) :
    session.Makes (session.view source adjust) := by
  unfold view
  split
  · exact ⟨rfl, rfl, rfl⟩
  · rename_i span _
    dsimp only
    split
    · exact ⟨rfl, rfl, Ledger.give_take ..⟩
    · rename_i shown hshown
      refine ⟨rfl, rfl, ?_⟩
      show session.exports.take span.block = session.exports.take shown.block
      rw [hadjust span shown hshown]

/-- A direct object is had with an export of the block that it shows, or nothing happens. -/
theorem direct_outcome (session : Session) (source : Nat) :
    (∃ fault, session.direct source = (.error fault, session)) ∨
      ∃ span, session.direct source =
        (.ok (.direct span), { session with exports := session.exports.take span.block }) := by
  unfold direct
  rw [Object.acquire_eq]
  cases (session.object source).lend session.host.memory with
  | error refusal => cases refusal <;> exact .inl ⟨_, rfl⟩
  | ok span =>
    by_cases hcontiguous : span.isContiguous = true
    · simp only [hcontiguous, if_true]
      exact .inr ⟨span, rfl⟩
    · simp only [hcontiguous, Ledger.give_take]
      exact .inl ⟨_, rfl⟩

theorem direct_makes (session : Session) (source : Nat) : session.Makes (session.direct source) := by
  rcases session.direct_outcome source with ⟨fault, hdirect⟩ | ⟨span, hdirect⟩
  · rw [hdirect]
    exact ⟨rfl, rfl, rfl⟩
  · rw [hdirect]
    exact ⟨rfl, rfl, rfl⟩

theorem build_makes (recipe : Recipe) (session : Session) : session.Makes (session.build recipe) := by
  cases recipe with
  | frozen data => exact ⟨rfl, rfl, rfl⟩
  | growable data => exact ⟨rfl, rfl, rfl⟩
  | items code data =>
    simp only [build]
    split
    · exact ⟨rfl, rfl, rfl⟩
    · split <;> exact ⟨rfl, rfl, rfl⟩
  | view source slice => exact view_makes fun _ _ => Span.block_of_slice
  | readonly source =>
    show session.Makes (session.view source fun span => .ok { span with writable := false })
    apply view_makes
    intro span shown h
    cases h
    rfl
  | cast source format => exact view_makes fun _ _ => Span.block_of_cast
  | direct source => exact session.direct_makes source
  | plain object =>
    simp only [build]
    cases hholds : object.holds? with
    | none => exact ⟨rfl, rfl, by simp [kept, Object.retain, hholds]⟩
    | some block => exact ⟨rfl, rfl, rfl⟩

/-- A recipe that makes nothing leaves no export behind. -/
theorem make_exports_of_error {recipe : Recipe} {session : Session} {fault : Fault}
    (h : (session.make recipe).1 = .error fault) :
    (session.make recipe).2.exports = session.exports := by
  have hmakes := build_makes recipe session
  simp only [make] at h ⊢
  generalize session.build recipe = made at hmakes h
  rcases made with ⟨result, after⟩
  cases result with
  | error failure => exact hmakes.exports
  | ok object => cases h

/-- A direct object keeps one export, of the block that it shows. -/
theorem make_direct {source : Nat} {session : Session}
    (h : (session.make (.direct source)).1 = .ok ()) :
    ∃ span, (session.make (.direct source)).2.objects = session.objects ++ [.direct span] ∧
      (session.make (.direct source)).2.exports = session.exports.take span.block := by
  simp only [make, build] at h ⊢
  rcases session.direct_outcome source with ⟨fault, hdirect⟩ | ⟨span, hdirect⟩
  · rw [hdirect] at h
    cases h
  · rw [hdirect]
    exact ⟨span, rfl, rfl⟩

/-! ## Calls -/

/-- The exports that a call has taken when it is over are none: each pin has been given back, and so has
what was exported by an object that refused one. -/
theorem foldl_follow {memory : Memory} {refused : Option Object} {requests : List Event}
    (hrequests : ∀ event ∈ requests, event.isRequest = true)
    (hrefused : ∀ object, refused = some object → object.isReachable memory = false)
    (exports : Ledger) :
    (requests ++ closing requests).foldl (follow memory refused) exports = exports := by
  refine foldl_closing (fun _ => rfl) ?_ hrequests exports
  rintro request hrequest exports _ rfl
  cases request with
  | pin block attempt => exact Ledger.give_take ..
  | refuse =>
    cases refused with
    | none => rfl
    | some object => exact object.pin_ledger_of_unreachable exports (hrefused object rfl)
  | address => rfl
  | unpin | raise | log | codec => cases hrequest

theorem follow_of_note {memory : Memory} {refused : Option Object} (exports : Ledger) (event : Event)
    (h : event.isHostCall = false) : follow memory refused exports event = exports := by
  cases event <;> first | rfl | cases h

theorem foldl_follow_telling {α : Type} {memory : Memory} {refused : Option Object} (exports : Ledger)
    (result : Except Failure α) : (telling result).foldl (follow memory refused) exports = exports := by
  cases result <;> rfl

theorem runCall_exports (call : Call) (objects : List Object) (session : Session) :
    (session.runCall call objects).2.exports = session.exports := by
  have hrefused : ∀ object,
      (objects.find? fun object => !object.isReachable session.host.memory) = some object →
        object.isReachable session.host.memory = false := by
    intro object hfound
    simpa using List.find?_some hfound
  -- the bridge is made for the one call, and is noted before it
  obtain ⟨events, calls, htrace, hcalls, requests, hrequests, -, rfl⟩ :=
    call.run_trace session.bridge.1 session.bridge.2
  have hexports : (session.runCall call objects).2.exports =
      ((call.run session.bridge.1 session.bridge.2).2.trace.drop
        session.host.trace.length).foldl
        (follow session.host.memory
          (objects.find? fun object => !object.isReachable session.host.memory)) session.exports := rfl
  rw [hexports, htrace, bridge, Bridge.create, Host.record, List.append_assoc, List.drop_left, foldl_hostCalls follow_of_note,
    hostCalls_append, hcalls, List.foldl_append, List.foldl_append, foldl_follow_telling]
  exact foldl_follow hrequests.isRequest hrefused _

/-- What a call comes to is told by its operation. -/
theorem runCall_result (call : Call) (objects : List Object) (session : Session) :
    (session.runCall call objects).1 =
      match (call.op session.bridge.1 session.bridge.2).1 with
      | .ok reply => .ok (ofReply reply)
      | .error failure => .error (.failed failure.code.message) := by
  obtain ⟨events, htrace, hraises⟩ := call.raises_run session.bridge.1 session.bridge.2
  have hraised : raised? ((call.run session.bridge.1 session.bridge.2).2.trace.drop
      session.host.trace.length) =
      (codesOf (call.op session.bridge.1 session.bridge.2).1).head? := by
    rw [htrace, bridge, Bridge.create, Host.record, List.append_assoc, List.drop_left,
      raised?_eq_head?,
      raises_append, ← Host.record, hraises]
    rfl
  simp only [runCall]
  rw [hraised]
  simp only [Call.run, Op.call]
  generalize call.op session.bridge.1 session.bridge.2 = ran
  rcases ran with ⟨result, after⟩
  cases result <;> rfl

theorem runCall_memory (call : Call) (objects : List Object) (session : Session) :
    (session.runCall call objects).2.host.memory =
      (call.op session.bridge.1 session.bridge.2).2.memory := by
  simp only [runCall, Call.run, Op.call]
  generalize call.op session.bridge.1 session.bridge.2 = ran
  rcases ran with ⟨result, after⟩
  cases result <;> rfl

/-! ## Actions -/

/-- No object comes or goes, and no export is taken or given back. -/
structure Keeps (before after : Session) : Prop where
  objects : after.objects = before.objects
  results : after.results = before.results
  exports : after.exports = before.exports

theorem ofBytes_keeps (result : Except Failure Bytes) (session : Session) :
    session.Keeps (session.ofBytes result).2 := by
  cases result <;> exact ⟨rfl, rfl, rfl⟩

theorem perform_keeps (request : Request) (session : Session) :
    session.Keeps (session.perform request).2 := by
  cases request with
  | call call objects => exact ⟨rfl, rfl, session.runCall_exports call objects⟩
  | compress data => exact session.ofBytes_keeps (Owned.compress data)
  | uncompress data => exact session.ofBytes_keeps _
  | version | supportsBitShuffle | enableLogging => exact ⟨rfl, rfl, rfl⟩

/-- Whatever is called with whatever arguments, and whatever comes of it, all exports are as they were. -/
theorem call_keeps (function : Function) (arguments : Arguments) (session : Session) :
    session.Keeps (session.act (.call function arguments)).2 := by
  simp only [act]
  cases session.request function arguments with
  | error fault => exact ⟨rfl, rfl, rfl⟩
  | ok request => exact session.perform_keeps request

/-- Appending either fails and does nothing, or it gives a length and changes the memory only. -/
theorem append_outcome (object value : Object) (session : Session) :
    (∃ fault, session.append object value = (.error fault, session)) ∨
      ∃ length memory, session.append object value =
        (.ok (.integer length), { session with host.memory := memory }) := by
  unfold append
  split
  · split
    · exact .inl ⟨_, rfl⟩
    · split
      · exact .inl ⟨_, rfl⟩
      · split
        · exact .inl ⟨_, rfl⟩
        · exact .inr ⟨_, _, rfl⟩
  · exact .inl ⟨_, rfl⟩

theorem append_keeps (object value : Object) (session : Session) :
    session.Keeps (session.append object value).2 := by
  rcases session.append_outcome object value with ⟨fault, happend⟩ | ⟨length, memory, happend⟩
  · rw [happend]
    exact ⟨rfl, rfl, rfl⟩
  · rw [happend]
    exact ⟨rfl, rfl, rfl⟩

theorem holds?_ofReply (reply : Reply) : (ofReply reply).holds? = none := by
  cases reply <;> rfl

theorem holds?_runCall (call : Call) (objects : List Object) (session : Session) :
    (kept (session.runCall call objects).1).holds? = none := by
  simp only [runCall]
  split
  · rfl
  · exact holds?_ofReply _

/-- No action has a result that shows bytes of another object. -/
theorem holds?_act (action : Action) (session : Session) :
    (kept (session.act action).1).holds? = none := by
  cases action with
  | call function arguments =>
    simp only [act]
    cases session.request function arguments with
    | error fault => rfl
    | ok request =>
      cases request with
      | call call objects => exact holds?_runCall call objects session
      | compress data | uncompress data =>
        simp only [perform, ofBytes]
        split <;> rfl
      | version | supportsBitShuffle => rfl
      | enableLogging file =>
        simp only [perform]
        cases (session.process.enable file).1 <;> rfl
  | capacity object | isReadonly object => cases object <;> rfl
  | append object value =>
    simp only [act]
    rcases session.append_outcome object value with ⟨fault, happend⟩ | ⟨length, memory, happend⟩
    · rw [happend]
      rfl
    · rw [happend]
      rfl
  | forget number => rfl

/-- A byte can be appended to a block of which nothing is exported. -/
theorem append_eq_ok_iff {block : Nat} {byte : UInt8} {session : Session} :
    (∃ length, (session.append (.growable block) (.integer byte.toNat)).1 =
      .ok (.integer length)) ↔ session.exports.count block = 0 := by
  have hbyte : ¬ ((byte.toNat : Int) < 0 ∨ 256 ≤ (byte.toNat : Int)) := by
    have := byte.toNat_lt
    omega
  simp only [append, Object.toInt?, if_neg hbyte]
  constructor
  · intro h
    obtain ⟨length, h⟩ := h
    split at h
    · cases h
    · omega
  · intro h
    rw [h, if_neg (Nat.lt_irrefl 0)]
    exact ⟨_, rfl⟩

/-! ## Scripts -/

/-- All exports are those of views and direct objects that are there to give them back, and no result is
one of these. -/
structure Accounted (session : Session) : Prop where
  exports : ∀ block, session.exports.count block = session.objects.countP (·.holds? = some block)
  results : ∀ object ∈ session.results, object.holds? = none

theorem make_accounted {session : Session} (recipe : Recipe) (h : session.Accounted) :
    (session.make recipe).2.Accounted := by
  have hmakes := build_makes recipe session
  refine ⟨?_, ?_⟩
  · intro block
    simp only [make]
    rw [hmakes.exports, hmakes.objects, Object.count_retain, h.exports block, List.countP_append,
      List.countP_singleton]
    simp only [decide_eq_true_eq]
  · simp only [make]
    rw [hmakes.results]
    exact h.results

theorem forget_accounted {session : Session} (number : Nat) (h : session.Accounted) :
    (session.act (.forget number)).2.Accounted := by
  refine ⟨?_, h.results⟩
  intro block
  simp only [act]
  rw [Object.count_release, h.exports block, object, List.getD_eq_getElem?_getD]
  by_cases hnumber : number < session.objects.length
  · rw [List.countP_set hnumber, List.getElem?_eq_getElem hnumber]
    have hgone : Object.none.holds? ≠ some block := nofun
    simp [hgone]
  · rw [List.set_eq_of_length_le (Nat.le_of_not_lt hnumber),
      List.getElem?_eq_none (Nat.le_of_not_lt hnumber)]
    rfl

theorem Keeps.accounted {before after : Session} (h : before.Keeps after) (hbefore : before.Accounted) :
    after.Accounted := by
  refine ⟨?_, ?_⟩
  · rw [h.exports, h.objects]
    exact hbefore.exports
  · rw [h.results]
    exact hbefore.results

theorem act_accounted {session : Session} (action : Action) (h : session.Accounted) :
    (session.act action).2.Accounted := by
  cases action with
  | call function arguments => exact (call_keeps function arguments session).accounted h
  | capacity object => cases object <;> exact h
  | isReadonly object => cases object <;> exact h
  | append object value => exact (append_keeps object value session).accounted h
  | forget number => exact forget_accounted number h

theorem step_accounted {session : Session} (action : Action) (h : session.Accounted) :
    (session.step action).2.Accounted := by
  have hact := act_accounted action h
  refine ⟨hact.exports, ?_⟩
  intro object hmem
  rcases List.mem_append.mp hmem with hmem | hmem
  · exact hact.results object hmem
  · rw [List.mem_singleton.mp hmem]
    exact holds?_act action session

/-- One thing that a script does: it makes an object, or it acts. -/
inductive Stage
  | make (recipe : Recipe)
  | act (action : Action)

def advance (session : Session) : Stage → Session
  | .make recipe => (session.make recipe).2
  | .act action => (session.step action).2

/-- The session after all that a script does. -/
def runAll (script : List Stage) (session : Session) : Session := script.foldl advance session

theorem advance_accounted {session : Session} (stage : Stage) (h : session.Accounted) :
    (session.advance stage).Accounted := by
  cases stage with
  | make recipe => exact make_accounted recipe h
  | act action => exact step_accounted action h

theorem runAll_accounted {session : Session} (script : List Stage) (h : session.Accounted) :
    (runAll script session).Accounted := by
  induction script generalizing session with
  | nil => exact h
  | cons stage rest ih => exact ih (advance_accounted stage h)

theorem accounted_empty : ({} : Session).Accounted := by
  refine ⟨fun _ => rfl, ?_⟩
  intro object hmem
  cases hmem

/-- **Exports are given back.** A call of any function with any arguments leaves the exports as they were,
whether it returns or fails, and so does a recipe that makes nothing; a direct object takes one export.
So after any script, what is exported of a block is what the objects show that are there, and a block may
grow just when no view and no direct object shows it. -/
theorem exports_given_back :
    (∀ (function : Function) (arguments : Arguments) (session : Session),
      (session.step (.call function arguments)).2.exports = session.exports) ∧
    (∀ (recipe : Recipe) (session : Session) (fault : Fault),
      (session.make recipe).1 = .error fault → (session.make recipe).2.exports = session.exports) ∧
    (∀ (source : Nat) (session : Session), (session.make (.direct source)).1 = .ok () →
      ∃ span, (session.make (.direct source)).2.objects = session.objects ++ [.direct span] ∧
        (session.make (.direct source)).2.exports = session.exports.take span.block) ∧
    ∀ (script : List Stage) (block : Nat),
      (runAll script {}).exports.count block =
        (runAll script {}).objects.countP (·.holds? = some block) ∧
      ∀ byte : UInt8,
        (∃ length, ((runAll script {}).step (.append (.growable block) (.integer byte.toNat))).1 =
          .ok (.integer length)) ↔
        ∀ object ∈ (runAll script {}).objects ++ (runAll script {}).results,
          object.holds? ≠ some block := by
  refine ⟨?_, ?_, ?_, ?_⟩
  · intro function arguments session
    exact (call_keeps function arguments session).exports
  · intro recipe session fault h
    exact make_exports_of_error h
  · intro source session h
    exact make_direct h
  · intro script block
    have haccounted := runAll_accounted script accounted_empty
    refine ⟨haccounted.exports block, ?_⟩
    intro byte
    refine append_eq_ok_iff.trans ?_
    rw [haccounted.exports block, List.countP_eq_zero]
    constructor
    · intro h object hmem hholds
      rcases List.mem_append.mp hmem with hmem | hmem
      · exact h object hmem (decide_eq_true hholds)
      · rw [haccounted.results object hmem] at hholds
        cases hholds
    · intro h object hmem hholds
      exact h object (List.mem_append_left _ hmem) (of_decide_eq_true hholds)

/-- A view of every second byte of an object, which cannot be pinned. -/
def everySecond : Object := .view ⟨0, 0, 2, 2, 1, "B", true⟩

/-- Makes the view over an object that may grow, and calls a function that cannot pin it. -/
def scattered : List Stage :=
  [.make (.growable [97, 98, 99, 100]), .make (.view 0 ⟨none, none, some 2⟩),
    .act (.call .isValid { inOrder := [everySecond, .integer 0, .integer 1] })]

/-- Gives up the view afterwards. -/
def forgotten : List Stage := scattered ++ [.act (.forget 1)]

theorem exports_given_back_scattered :
    ((runAll scattered {}).step (.call .isValid { inOrder := [everySecond, .integer 0, .integer 1] })).1 =
      .error (.failed "OUT_OF_MEMORY(4)") ∧
    ((runAll scattered {}).make (.direct 1)).1 =
      .error (.badValue "direct buffers must be C-contiguous") ∧
    ((runAll scattered {}).make (.direct 1)).2.exports = (runAll scattered {}).exports ∧
    (runAll scattered {}).exports.count 0 = 1 ∧
    (¬ ∃ length, ((runAll scattered {}).step
      (.append (.growable 0) (.integer (7 : UInt8).toNat))).1 = .ok (.integer length)) ∧
    ∃ length, ((runAll forgotten {}).step
      (.append (.growable 0) (.integer (7 : UInt8).toNat))).1 = .ok (.integer length) := by
  obtain ⟨-, hmake, -, hscript⟩ := exports_given_back
  have hdirect : ((runAll scattered {}).make (.direct 1)).1 =
      .error (.badValue "direct buffers must be C-contiguous") := rfl
  have hcount : (runAll scattered {}).objects.countP (·.holds? = some 0) = 1 := by decide +kernel
  have hthere : everySecond ∈ (runAll scattered {}).objects ++ (runAll scattered {}).results := by
    decide +kernel
  have hgone : ∀ object ∈ (runAll forgotten {}).objects ++ (runAll forgotten {}).results,
      object.holds? ≠ some 0 := by decide +kernel
  refine ⟨rfl, hdirect, hmake _ _ _ hdirect, (hscript scattered 0).1.trans hcount, ?_, ?_⟩
  · intro hgrows
    have hnone := ((hscript scattered 0).2 7).mp hgrows
    exact hnone everySecond hthere rfl
  · exact ((hscript forgotten 0).2 7).mpr hgone

end Session

end BufferBridge.Export
