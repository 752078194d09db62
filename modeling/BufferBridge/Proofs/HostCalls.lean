import BufferBridge.Bridge

/-!
# Calls of the host and how a bridge call brackets them

Of the events of a run only some are calls of the host: requests for a buffer, releases and raised
failures. The log records and codec calls in between are notes. An operation that only adds notes is
quiet; one that borrows buffers opens with its requests and closes by releasing what was granted, the
last first, whatever happens in between.
-/
namespace BufferBridge

/-! ## Reading a record of events -/

namespace Event

/-- Whether an event is a call of the host, and not just a note. -/
def isHostCall : Event → Bool
  | log _ | codec _ => false
  | _ => true

/-- Whether an event asks the host for a buffer, with whatever answer. -/
def isRequest : Event → Bool
  | pin .. | refuse .. | address _ => true
  | _ => false

/-- Whether an event gives a pin back. -/
def isRelease : Event → Bool
  | unpin .. => true
  | _ => false

/-- Whether an event asks for the address of a given buffer in the way its storage demands. -/
def Resolves (buffer : Buffer) : Event → Prop
  | pin id _ | refuse id _ => buffer.storage = .heap ∧ id = buffer.id
  | address id => buffer.storage = .direct ∧ id = buffer.id
  | _ => False

/-- The number of a pin attempt, granted or refused. -/
def attempt? : Event → Option Nat
  | pin _ attempt | refuse _ attempt => some attempt
  | _ => none

/-- The buffer and the attempt of a pin that was granted. -/
def grant? : Event → Option (Nat × Nat)
  | pin buffer attempt => some (buffer, attempt)
  | _ => none

/-- The buffer and the attempt of a pin that is given back. -/
def release? : Event → Option (Nat × Nat)
  | unpin buffer attempt => some (buffer, attempt)
  | _ => none

/-- The code of a failure that is raised. -/
def raise? : Event → Option ErrorCode
  | raise code => some code
  | _ => none

theorem Resolves.isRequest {event : Event} {buffer : Buffer} (h : event.Resolves buffer) :
    event.isRequest = true := by
  cases event <;> first | rfl | exact h.elim

theorem Resolves.isHostCall {event : Event} {buffer : Buffer} (h : event.Resolves buffer) :
    event.isHostCall = true := by
  cases event <;> first | rfl | exact h.elim

end Event

/-- The calls of the host among some events. -/
def hostCalls (events : List Event) : List Event := events.filter Event.isHostCall

/-- The pins granted in the course of some events. -/
def grants (events : List Event) : List (Nat × Nat) := events.filterMap Event.grant?

/-- The pins given back in the course of some events. -/
def releases (events : List Event) : List (Nat × Nat) := events.filterMap Event.release?

/-- The codes raised in the course of some events. -/
def raises (events : List Event) : List ErrorCode := events.filterMap Event.raise?

/-- What has to follow some requests: the pins granted go back, the last one first. -/
def closing (requests : List Event) : List Event :=
  (grants requests).reverse.map fun pin => .unpin pin.1 pin.2

@[simp] theorem hostCalls_append (events later : List Event) :
    hostCalls (events ++ later) = hostCalls events ++ hostCalls later :=
  List.filter_append ..

@[simp] theorem grants_append (events later : List Event) :
    grants (events ++ later) = grants events ++ grants later :=
  List.filterMap_append

@[simp] theorem releases_append (events later : List Event) :
    releases (events ++ later) = releases events ++ releases later :=
  List.filterMap_append

@[simp] theorem raises_append (events later : List Event) :
    raises (events ++ later) = raises events ++ raises later :=
  List.filterMap_append

/-- A caller sees the code that was raised first. -/
theorem raised?_eq_head? (events : List Event) : raised? events = (raises events).head? := by
  rw [raises, List.head?_filterMap, raised?]
  congr

/-- What is taken first is given back last. -/
theorem closing_append (requests later : List Event) :
    closing (requests ++ later) = closing later ++ closing requests := by
  simp only [closing, grants_append, List.reverse_append, List.map_append]

theorem mem_closing {requests : List Event} {event : Event} (h : event ∈ closing requests) :
    event.isRelease = true ∧ event.isHostCall = true := by
  obtain ⟨pin, -, rfl⟩ := List.mem_map.mp h
  exact ⟨rfl, rfl⟩

theorem filterMap_closing {β : Type} {f : Event → Option β}
    (hf : ∀ buffer attempt, f (.unpin buffer attempt) = none) (requests : List Event) :
    (closing requests).filterMap f = [] := by
  rw [closing, List.filterMap_map, List.filterMap_eq_nil_iff]
  intro pin _
  exact hf pin.1 pin.2

@[simp] theorem grants_closing (requests : List Event) : grants (closing requests) = [] :=
  filterMap_closing (fun _ _ => rfl) requests

@[simp] theorem releases_closing (requests : List Event) :
    releases (closing requests) = (grants requests).reverse := by
  rw [releases, closing, List.filterMap_map]
  exact List.filterMap_some

@[simp] theorem raises_closing (requests : List Event) : raises (closing requests) = [] :=
  filterMap_closing (fun _ _ => rfl) requests

@[simp] theorem hostCalls_closing (requests : List Event) :
    hostCalls (closing requests) = closing requests :=
  List.filter_eq_self.mpr fun _ h => (mem_closing h).2

/-! What is made of a record event by event, as its reader sees it. -/

section

variable {σ : Type} {f : σ → Event → σ}

/-- A reader who takes no account of notes sees the calls of the host only. -/
theorem foldl_hostCalls (h : ∀ state event, event.isHostCall = false → f state event = state)
    (events : List Event) (state : σ) : events.foldl f state = (hostCalls events).foldl f state := by
  induction events generalizing state with
  | nil => rfl
  | cons event rest ih =>
    by_cases hcall : event.isHostCall = true
    · rw [hostCalls, List.filter_cons_of_pos hcall]
      exact ih _
    · rw [hostCalls, List.filter_cons_of_neg hcall, List.foldl_cons,
        h state event (Bool.not_eq_true _ ▸ hcall)]
      exact ih _

/-- A reader for whom what follows a request takes the request back is, after some requests and all that
has to follow them, where the requests found it. -/
theorem foldl_closing {same : σ → σ → Prop} (hrefl : ∀ state, same state state)
    (hback : ∀ request, request.isRequest = true → ∀ state state', same state' (f state request) →
      same ((closing [request]).foldl f state') state)
    {requests : List Event} (h : ∀ event ∈ requests, event.isRequest = true) (state : σ) :
    same ((requests ++ closing requests).foldl f state) state := by
  induction requests generalizing state with
  | nil => exact hrefl state
  | cons request rest ih =>
    have hrest := ih (fun event hmem => h event (List.mem_cons_of_mem _ hmem)) (f state request)
    -- the request that came first is the one that is taken back last
    rw [← List.singleton_append, closing_append, List.append_assoc, ← List.append_assoc rest,
      List.foldl_append, List.foldl_append]
    exact hback request (h request List.mem_cons_self) state _ hrest

end

/-! ## What an operation adds to the record -/

namespace Op

variable {α β : Type}

/-- From any host, the calls of the host that an operation adds to the record are of some kind. -/
def Adds (kind : List Event → Prop) (op : Op α) : Prop :=
  ∀ host, ∃ events, (op host).2.trace = host.trace ++ events ∧ kind (hostCalls events)

/-- One operation after another: what both add, or where the first one fails, what that one adds. -/
theorem Adds.bind {first second both : List Event → Prop} {op : Op α} {next : α → Op β}
    (h : op.Adds first) (hnext : ∀ value, (next value).Adds second)
    (hfails : ∀ calls, first calls → both calls)
    (hruns : ∀ calls later, first calls → second later → both (calls ++ later)) :
    (op >>= next).Adds both := by
  intro host
  obtain ⟨events, htrace, hfirst⟩ := h host
  simp only [Bind.bind]
  split
  · rename_i value after hrun
    rw [hrun] at htrace
    obtain ⟨more, htrace', hsecond⟩ := hnext value after
    refine ⟨events ++ more, ?_, ?_⟩
    · rw [htrace', htrace, List.append_assoc]
    · rw [hostCalls_append]
      exact hruns _ _ hfirst hsecond
  · rename_i failure after hrun
    rw [hrun] at htrace
    exact ⟨events, htrace, hfails _ hfirst⟩

/-! ## Quiet operations -/

/-- An operation that calls nobody: all it adds to the record are notes. -/
def Quiet (op : Op α) : Prop := op.Adds fun calls => calls = []

theorem Quiet.pure (value : α) : (Pure.pure value : Op α).Quiet :=
  fun _ => ⟨[], (List.append_nil _).symm, rfl⟩

theorem Quiet.ofExcept (result : Except Failure α) : (liftM result : Op α).Quiet :=
  fun _ => ⟨[], (List.append_nil _).symm, rfl⟩

theorem Quiet.fail (failure : Failure) : (Op.fail failure : Op α).Quiet :=
  fun _ => ⟨[], (List.append_nil _).symm, rfl⟩

theorem Quiet.read (region : Region) : (Op.read region).Quiet :=
  fun _ => ⟨[], (List.append_nil _).symm, rfl⟩

theorem Quiet.write (region : Region) (data : Bytes) : (Op.write region data).Quiet :=
  fun _ => ⟨[], (List.append_nil _).symm, rfl⟩

theorem Quiet.note {event : Event} (h : event.isHostCall = false) : (Op.note event).Quiet :=
  fun _ => ⟨[event], rfl, by rw [hostCalls, List.filter_cons_of_neg (by simp [h])]; rfl⟩

theorem Quiet.bind {op : Op α} {next : α → Op β} (h : op.Quiet) (hnext : ∀ value, (next value).Quiet) :
    (op >>= next).Quiet := by
  refine Adds.bind h hnext (fun _ hnotes => hnotes) ?_
  intro notes more hnotes hmore
  rw [hnotes, hmore]
  rfl

theorem Quiet.map {op : Op α} (f : α → β) (h : op.Quiet) : (f <$> op).Quiet :=
  h.bind fun _ => .pure _

theorem Quiet.bind_error {result : Except Failure α} {failure : Failure} (h : result = .error failure)
    (next : α → Op β) : ((liftM result : Op α) >>= next).Quiet := by
  subst h
  exact .fail failure

/-- Notes after an operation change nothing about its calls of the host. -/
theorem Adds.bind_quiet {kind : List Event → Prop} {op : Op α} {next : α → Op β} (h : op.Adds kind)
    (hnext : ∀ value, (next value).Quiet) : (op >>= next).Adds kind := by
  refine Adds.bind h hnext (fun _ hcalls => hcalls) ?_
  intro calls notes hcalls hnotes
  rwa [hnotes, List.append_nil]

theorem Adds.map {kind : List Event → Prop} {op : Op α} (f : α → β) (h : op.Adds kind) :
    (f <$> op).Adds kind :=
  h.bind_quiet fun _ => .pure _

theorem Adds.bind_ok {kind : List Event → Prop} {result : Except Failure α} {value : α}
    {next : α → Op β} (hresult : result = .ok value) (h : (next value).Adds kind) :
    ((liftM result : Op α) >>= next).Adds kind := by
  subst hresult
  exact h

theorem Adds.bind_note {kind : List Event → Prop} {event : Event} {next : Unit → Op α}
    (hevent : event.isHostCall = false) (h : (next ()).Adds kind) :
    (Op.note event >>= next).Adds kind := by
  intro host
  obtain ⟨events, htrace, hkind⟩ := h (host.record event)
  refine ⟨event :: events, ?_, ?_⟩
  · change (next () (host.record event)).2.trace = _
    rw [htrace, Host.record, List.append_assoc]
    rfl
  · rwa [hostCalls, List.filter_cons_of_neg (by simp [hevent])]

/-! ## Brackets -/

/-- The host calls of an operation that borrows at most a source and a destination: the requests, each
in its turn, and then what has to follow them. A request that fails is the last one. -/
inductive Requests (source destination : Option Buffer) : List Event → Prop
  | none : Requests source destination []
  | one {src : Buffer} {first : Event} : source = some src → first.Resolves src →
      Requests source destination [first]
  | two {src dst : Buffer} {first second : Event} : source = some src → first.Resolves src →
      destination = some dst → second.Resolves dst →
      Requests source destination [first, second]

/-- Some calls of the host that open with requests under attempt numbers of their own and close by
releasing what was granted. -/
def Bracketed (source destination : Option Buffer) (calls : List Event) : Prop :=
  ∃ requests, Requests source destination requests ∧
    (requests.filterMap Event.attempt?).Nodup ∧ calls = requests ++ closing requests

/-- An operation whose host calls are bracketed. -/
def Brackets (source destination : Option Buffer) (op : Op α) : Prop :=
  op.Adds (Bracketed source destination)

variable {source destination : Option Buffer}

theorem bracketed_nil : Bracketed source destination [] :=
  ⟨[], .none, List.nodup_nil, rfl⟩

theorem Quiet.brackets {op : Op α} (h : op.Quiet) : op.Brackets source destination := by
  intro host
  obtain ⟨notes, htrace, hnotes⟩ := h host
  refine ⟨notes, htrace, ?_⟩
  rw [hnotes]
  exact bracketed_nil

/-- Notes before a bracketed operation change nothing. -/
theorem Quiet.bind_brackets {op : Op α} {next : α → Op β} (h : op.Quiet)
    (hnext : ∀ value, (next value).Brackets source destination) :
    (op >>= next).Brackets source destination := by
  refine Adds.bind h hnext ?_ ?_
  · intro notes hnotes
    rw [hnotes]
    exact bracketed_nil
  · intro notes calls hnotes hcalls
    rwa [hnotes, List.nil_append]

/-- An operation whose host calls are bracketed, and that makes some. -/
def Borrows (source destination : Option Buffer) (op : Op α) : Prop :=
  op.Adds fun calls => Bracketed source destination calls ∧ calls ≠ []

theorem Borrows.brackets {op : Op α} (h : op.Borrows source destination) :
    op.Brackets source destination := by
  intro host
  obtain ⟨events, htrace, hbracketed, -⟩ := h host
  exact ⟨events, htrace, hbracketed⟩

end Op

/-! ## Borrowing -/

/-- What has to be said to the host to give a guard back. -/
def Guard.handback (guard : Guard) : List Event :=
  match guard.pin with
  | some attempt => [.unpin guard.buffer attempt]
  | none => []

theorem Guard.release_trace (guard : Guard) (host : Host) :
    (guard.release host).trace = host.trace ++ guard.handback := by
  rw [release, handback]
  cases guard.pin with
  | none => exact (List.append_nil _).symm
  | some attempt => rfl

/-- A request made of `host`, which is `after` it: a pin attempt takes the next number. -/
def Numbered (host : Host) (request : Event) (after : Host) : Prop :=
  request.attempt? = none ∧ after.attempts = host.attempts ∨
    request.attempt? = some host.attempts ∧ after.attempts = host.attempts + 1

theorem nodup_attempt (request : Event) : ([request].filterMap Event.attempt?).Nodup := by
  cases hattempt : request.attempt? <;> simp [hattempt]

theorem Numbered.nodup_attempts {host middle after : Host} {first second : Event}
    (hfirst : Numbered host first middle) (hsecond : Numbered middle second after) :
    ([first, second].filterMap Event.attempt?).Nodup := by
  rcases hfirst with ⟨hf, -⟩ | ⟨hf, hnext⟩
  · rw [List.filterMap_cons_none hf]
    exact nodup_attempt second
  · rcases hsecond with ⟨hs, -⟩ | ⟨hs, -⟩ <;> simp [hf, hs, hnext]

/-- Asking for a buffer is one request. A guard that comes of it is handed back as the request demands,
and where there is no guard nothing was granted. -/
theorem resolve_trace {buffer : Buffer} {role : Role} {host after : Host}
    {result : Except Failure Guard} (h : resolve buffer role host = (result, after)) :
    ∃ request, request.Resolves buffer ∧ after.trace = host.trace ++ [request] ∧
      Numbered host request after ∧
      closing [request] = match result with
        | .ok guard => guard.handback
        | .error _ => [] := by
  rw [resolve] at h
  split at h
  · rename_i hstorage
    rw [Host.pin] at h
    cases hgranted : buffer.reachable && !host.refuses host.attempts with
    | true =>
      simp only [hgranted, if_true] at h
      cases h
      exact ⟨.pin buffer.id host.attempts, ⟨hstorage, rfl⟩, rfl, .inr ⟨rfl, rfl⟩, rfl⟩
    | false =>
      simp only [hgranted, Bool.false_eq_true, if_false] at h
      cases h
      exact ⟨.refuse buffer.id host.attempts, ⟨hstorage, rfl⟩, rfl, .inr ⟨rfl, rfl⟩, rfl⟩
  · rename_i hstorage
    split at h
    · cases h
      exact ⟨.address buffer.id, ⟨hstorage, rfl⟩, rfl, .inl ⟨rfl, rfl⟩, rfl⟩
    · cases h
      exact ⟨.address buffer.id, ⟨hstorage, rfl⟩, rfl, .inl ⟨rfl, rfl⟩, rfl⟩

/-- Asking for two buffers is one request or two, under different attempt numbers. Where not both can
be had, what was granted has gone back already. -/
theorem resolvePair_trace {source destination : Buffer} {host after : Host}
    {result : Except Failure (Guard × Guard)}
    (h : resolvePair source destination host = (result, after)) :
    ∃ requests, Op.Requests (some source) (some destination) requests ∧ requests ≠ [] ∧
      (requests.filterMap Event.attempt?).Nodup ∧
      match result with
      | .ok (src, dst) => after.trace = host.trace ++ requests ∧
          closing requests = dst.handback ++ src.handback
      | .error _ => after.trace = host.trace ++ (requests ++ closing requests) := by
  rw [resolvePair] at h
  split at h
  · rename_i failure middle hsource
    obtain ⟨first, hfirst, htrace, -, hclosing⟩ := resolve_trace hsource
    cases h
    refine ⟨[first], .one rfl hfirst, by simp, nodup_attempt first, ?_⟩
    rw [htrace, hclosing]
    rfl
  · rename_i src middle hsource
    obtain ⟨first, hfirst, htrace, hnumber, hclosing⟩ := resolve_trace hsource
    split at h
    · rename_i failure last hdestination
      obtain ⟨second, hsecond, htrace', hnumber', hclosing'⟩ := resolve_trace hdestination
      cases h
      refine ⟨[first] ++ [second], .two rfl hfirst rfl hsecond, by simp,
        hnumber.nodup_attempts hnumber', ?_⟩
      -- the second request granted nothing, so that only the source goes back
      rw [closing_append, hclosing, hclosing', Guard.release_trace, htrace', htrace]
      simp only [List.nil_append, List.append_assoc]
    · rename_i dst last hdestination
      obtain ⟨second, hsecond, htrace', hnumber', hclosing'⟩ := resolve_trace hdestination
      cases h
      refine ⟨[first] ++ [second], .two rfl hfirst rfl hsecond, by simp,
        hnumber.nodup_attempts hnumber', ?_, ?_⟩
      · rw [htrace', htrace, List.append_assoc]
      · rw [closing_append, hclosing, hclosing']

theorem Op.Requests.hostCalls_eq {source destination : Option Buffer} {requests : List Event}
    (h : Op.Requests source destination requests) : hostCalls requests = requests := by
  cases h with
  | none => rfl
  | one _ hfirst => exact List.filter_cons_of_pos hfirst.isHostCall
  | two _ hfirst _ hsecond =>
    rw [hostCalls, List.filter_cons_of_pos hfirst.isHostCall,
      List.filter_cons_of_pos hsecond.isHostCall]
    rfl

/-- Some requests, notes and what has to follow the requests: that is bracketed. -/
theorem Op.Requests.bracketed {source destination : Option Buffer} {requests : List Event}
    (notes : List Event) (h : Op.Requests source destination requests) (hsome : requests ≠ [])
    (hnodup : (requests.filterMap Event.attempt?).Nodup) (hnotes : hostCalls notes = []) :
    Op.Bracketed source destination (hostCalls (requests ++ notes ++ closing requests)) ∧
      hostCalls (requests ++ notes ++ closing requests) ≠ [] := by
  have hcalls : hostCalls (requests ++ notes ++ closing requests) = requests ++ closing requests := by
    rw [hostCalls_append, hostCalls_append, hnotes, h.hostCalls_eq, hostCalls_closing, List.append_nil]
  rw [hcalls]
  exact ⟨⟨requests, h, hnodup, rfl⟩, List.append_ne_nil_of_left_ne_nil hsome _⟩

variable {α : Type}

/-- Whatever is done quietly with a borrowed buffer, the buffer is given back. -/
theorem withGuard_borrows {buffer : Buffer} {role : Role} {use : Guard → Op α}
    (huse : ∀ guard, (use guard).Quiet) : (withGuard buffer role use).Borrows (some buffer) none := by
  intro host
  rw [withGuard]
  split
  · rename_i failure after hrun
    obtain ⟨request, hresolves, htrace, -, hclosing⟩ := resolve_trace hrun
    refine ⟨_, ?_, (Op.Requests.one rfl hresolves).bracketed [] (by simp) (nodup_attempt request) rfl⟩
    rw [hclosing]
    exact htrace
  · rename_i guard after hrun
    obtain ⟨request, hresolves, htrace, -, hclosing⟩ := resolve_trace hrun
    obtain ⟨notes, htrace', hnotes⟩ := huse guard after
    refine ⟨_, ?_,
      (Op.Requests.one rfl hresolves).bracketed notes (by simp) (nodup_attempt request) hnotes⟩
    rw [hclosing, Guard.release_trace, htrace', htrace]
    simp only [List.append_assoc]

/-- Whatever is done quietly with two borrowed buffers, both are given back, and the source also where
the destination cannot be had. -/
theorem withPair_borrows {source destination : Buffer} {use : Guard → Guard → Op α}
    (huse : ∀ src dst, (use src dst).Quiet) :
    (withPair source destination use).Borrows (some source) (some destination) := by
  intro host
  rw [withPair]
  split
  · rename_i failure after hrun
    obtain ⟨requests, hrequests, hsome, hnodup, htrace⟩ := resolvePair_trace hrun
    refine ⟨_, ?_, hrequests.bracketed [] hsome hnodup rfl⟩
    rw [List.append_nil]
    exact htrace
  · rename_i src dst after hrun
    obtain ⟨requests, hrequests, hsome, hnodup, htrace, hclosing⟩ := resolvePair_trace hrun
    obtain ⟨notes, htrace', hnotes⟩ := huse src dst after
    refine ⟨_, ?_, hrequests.bracketed notes hsome hnodup hnotes⟩
    rw [hclosing, Guard.release_trace, Guard.release_trace, htrace', htrace]
    simp only [List.append_assoc]

end BufferBridge
