import BufferBridge.Dispatch

/-!
# What an operation does to the memory

Between borrowing and giving back, an operation sees the host's memory only. So its result and the
memory after can be told from the memory before, one step of the operation at a time. Borrowing and
giving back leave the memory as it is, and a guard stands for the buffer that it was asked for.
-/
namespace BufferBridge

/-- What a guard on a buffer says about the buffer. -/
structure Guard.Holds (guard : Guard) (buffer : Buffer) (role : Role) : Prop where
  region : guard.region = buffer.region
  writable : guard.writable = buffer.writable
  role : guard.role = role

theorem Guard.Holds.capacity_eq {guard : Guard} {buffer : Buffer} {role : Role}
    (h : guard.Holds buffer role) : guard.capacity = buffer.region.length := by
  rw [capacity, h.region]

namespace Op

variable {α β : Type}

/-- From some memory, an operation ends with such a result and such a memory, whatever else is true of
the host. -/
def Ensures (op : Op α) (memory : Memory) (post : Except Failure α → Memory → Prop) : Prop :=
  ∀ host, host.memory = memory → post (op host).1 (op host).2.memory

variable {memory : Memory} {post : Except Failure α → Memory → Prop}

theorem Ensures.pure {value : α} (h : post (.ok value) memory) :
    (Pure.pure value : Op α).Ensures memory post := by
  intro host hmemory
  subst hmemory
  exact h

theorem Ensures.fail {failure : Failure} (h : post (.error failure) memory) :
    (Op.fail failure : Op α).Ensures memory post := by
  intro host hmemory
  subst hmemory
  exact h

theorem Ensures.ofExcept {result : Except Failure α} (h : post result memory) :
    (liftM result : Op α).Ensures memory post := by
  intro host hmemory
  subst hmemory
  exact h

theorem Ensures.mono {post' : Except Failure α → Memory → Prop} {op : Op α}
    (h : op.Ensures memory post) (hpost : ∀ result after, post result after → post' result after) :
    op.Ensures memory post' :=
  fun host hmemory => hpost _ _ (h host hmemory)

theorem Ensures.and {post' : Except Failure α → Memory → Prop} {op : Op α}
    (h : op.Ensures memory post) (h' : op.Ensures memory post') :
    op.Ensures memory fun result after => post result after ∧ post' result after :=
  fun host hmemory => ⟨h host hmemory, h' host hmemory⟩

variable {mid : Except Failure α → Memory → Prop} {next : α → Op β}
variable {post : Except Failure β → Memory → Prop}

/-- One operation after another: the second starts from what the first ensures, and where the first
fails, that is the end. -/
theorem Ensures.bind {op : Op α} (h : op.Ensures memory mid)
    (herror : ∀ failure after, mid (.error failure) after → post (.error failure) after)
    (hok : ∀ value after, mid (.ok value) after → (next value).Ensures after post) :
    (op >>= next).Ensures memory post := by
  intro host hmemory
  have hmid := h host hmemory
  simp only [Bind.bind]
  split
  · rename_i value after hrun
    rw [hrun] at hmid
    exact hok value after.memory hmid after rfl
  · rename_i failure after hrun
    rw [hrun] at hmid
    exact herror failure after.memory hmid

theorem Ensures.bind_ofExcept {result : Except Failure α}
    (herror : ∀ failure, result = .error failure → post (.error failure) memory)
    (hok : ∀ value, result = .ok value → (next value).Ensures memory post) :
    ((liftM result : Op α) >>= next).Ensures memory post := by
  have hresult : (liftM result : Op α).Ensures memory fun outcome after =>
      outcome = result ∧ after = memory := .ofExcept ⟨rfl, rfl⟩
  refine hresult.bind ?_ ?_
  · rintro failure after ⟨h, rfl⟩
    exact herror failure h.symm
  · rintro value after ⟨h, rfl⟩
    exact hok value h.symm

theorem Ensures.bind_ok {result : Except Failure α} {value : α} (hresult : result = .ok value)
    (h : (next value).Ensures memory post) : ((liftM result : Op α) >>= next).Ensures memory post := by
  subst hresult
  exact h

theorem Ensures.bind_error {result : Except Failure α} {failure : Failure}
    (hresult : result = .error failure) (h : post (.error failure) memory) :
    ((liftM result : Op α) >>= next).Ensures memory post := by
  subst hresult
  intro host hmemory
  subst hmemory
  exact h

theorem Ensures.bind_read {region : Region} {next : Bytes → Op β}
    (h : (next (memory.read region)).Ensures memory post) :
    (Op.read region >>= next).Ensures memory post := by
  intro host hmemory
  subst hmemory
  exact h host rfl

theorem Ensures.bind_note {event : Event} {next : Unit → Op β} (h : (next ()).Ensures memory post) :
    (Op.note event >>= next).Ensures memory post := by
  intro host hmemory
  subst hmemory
  exact h (host.record event) rfl

theorem Ensures.write {region : Region} {data : Bytes} {post : Except Failure Unit → Memory → Prop}
    (h : post (.ok ()) (memory.write region data)) : (Op.write region data).Ensures memory post := by
  intro host hmemory
  subst hmemory
  exact h

theorem Ensures.bind_write {region : Region} {data : Bytes} {next : Unit → Op β}
    (h : (next ()).Ensures (memory.write region data) post) :
    (Op.write region data >>= next).Ensures memory post := by
  intro host hmemory
  subst hmemory
  exact h { host with memory := host.memory.write region data } rfl

theorem Ensures.map {op : Op α} {f : α → β}
    (h : op.Ensures memory fun result after => post (f <$> result) after) :
    (f <$> op).Ensures memory post :=
  h.bind (fun _ _ hpost => hpost) fun _ _ hpost => .pure hpost

end Op

/-! ## Borrowing -/

theorem Guard.release_memory (guard : Guard) (host : Host) :
    (guard.release host).memory = host.memory := by
  rw [release]
  cases guard.pin <;> rfl

/-- Asking for a buffer leaves the memory as it is, and a guard that comes of it holds the buffer. -/
theorem resolve_ensures (buffer : Buffer) (role : Role) (memory : Memory) :
    (resolve buffer role).Ensures memory fun result after =>
      after = memory ∧ ∀ guard, result = .ok guard → guard.Holds buffer role := by
  intro host hmemory
  subst hmemory
  rw [resolve]
  cases buffer.storage with
  | heap =>
    simp only [Host.pin]
    cases hgranted : buffer.reachable && !host.refuses host.attempts with
    | true =>
      refine ⟨rfl, ?_⟩
      intro guard h
      cases h
      exact ⟨rfl, rfl, rfl⟩
    | false => exact ⟨rfl, fun _ h => nomatch h⟩
  | direct =>
    cases hreachable : buffer.reachable with
    | true =>
      refine ⟨rfl, ?_⟩
      intro guard h
      cases h
      exact ⟨rfl, rfl, rfl⟩
    | false => exact ⟨rfl, fun _ h => nomatch h⟩

theorem resolvePair_ensures (source destination : Buffer) (memory : Memory) :
    (resolvePair source destination).Ensures memory fun result after =>
      after = memory ∧ ∀ src dst, result = .ok (src, dst) →
        src.Holds source .source ∧ dst.Holds destination .destination := by
  intro host hmemory
  subst hmemory
  have hsource := resolve_ensures source .source host.memory host rfl
  rw [resolvePair]
  split
  · rename_i failure middle hrun
    rw [hrun] at hsource
    exact ⟨hsource.1, fun _ _ h => nomatch h⟩
  · rename_i src middle hrun
    rw [hrun] at hsource
    have hdestination := resolve_ensures destination .destination middle.memory middle rfl
    split
    · rename_i failure last hrun'
      rw [hrun'] at hdestination
      exact ⟨(src.release_memory last).trans (hdestination.1.trans hsource.1), fun _ _ h => nomatch h⟩
    · rename_i dst last hrun'
      rw [hrun'] at hdestination
      refine ⟨hdestination.1.trans hsource.1, ?_⟩
      intro _ _ h
      cases h
      exact ⟨hsource.2 _ rfl, hdestination.2 _ rfl⟩

/-- What a host answers to a request depends on the attempts so far and on its schedule. -/
theorem resolve_congr {buffer : Buffer} {role : Role} {host other : Host}
    (hattempts : host.attempts = other.attempts) (hrefuses : host.refuses = other.refuses) :
    (resolve buffer role host).1 = (resolve buffer role other).1 ∧
      (resolve buffer role host).2.attempts = (resolve buffer role other).2.attempts ∧
      (resolve buffer role host).2.refuses = (resolve buffer role other).2.refuses := by
  simp only [resolve]
  cases buffer.storage with
  | heap =>
    simp only [Host.pin, hattempts, hrefuses]
    cases buffer.reachable && !other.refuses other.attempts with
    | true => exact ⟨rfl, rfl, rfl⟩
    | false => exact ⟨rfl, rfl, rfl⟩
  | direct =>
    cases buffer.reachable with
    | true => exact ⟨rfl, hattempts, hrefuses⟩
    | false => exact ⟨rfl, hattempts, hrefuses⟩

theorem resolvePair_congr {source destination : Buffer} {host other : Host}
    (hattempts : host.attempts = other.attempts) (hrefuses : host.refuses = other.refuses) :
    (resolvePair source destination host).1 = (resolvePair source destination other).1 := by
  have hsource := @resolve_congr source .source _ _ hattempts hrefuses
  simp only [resolvePair]
  generalize resolve source .source host = first, resolve source .source other = first' at hsource
  rcases first with ⟨result, middle⟩
  rcases first' with ⟨_, middle'⟩
  obtain ⟨rfl, hattempts, hrefuses⟩ := hsource
  cases result with
  | error failure => rfl
  | ok src =>
    have hdestination := @resolve_congr destination .destination _ _ hattempts hrefuses
    simp only
    generalize resolve destination .destination middle = second,
      resolve destination .destination middle' = second' at hdestination
    rcases second with ⟨result, last⟩
    rcases second' with ⟨_, last'⟩
    obtain ⟨rfl, -, -⟩ := hdestination
    cases result <;> rfl

theorem resolvePair_record {source destination : Buffer} {host middle : Host} {src dst : Guard}
    (h : resolvePair source destination host = (.ok (src, dst), middle)) (event : Event) :
    ∃ later, resolvePair source destination (host.record event) = (.ok (src, dst), later) := by
  have hsame : (resolvePair source destination (host.record event)).1 =
      (resolvePair source destination host).1 := resolvePair_congr rfl rfl
  rw [h] at hsame
  exact ⟨(resolvePair source destination (host.record event)).2, Prod.ext hsame rfl⟩

theorem holds_of_resolvePair {source destination : Buffer} {host after : Host} {src dst : Guard}
    (h : resolvePair source destination host = (.ok (src, dst), after)) :
    src.Holds source .source ∧ dst.Holds destination .destination := by
  have hguards := resolvePair_ensures source destination host.memory host rfl
  rw [h] at hguards
  exact hguards.2 src dst rfl

/-- The host lets a source and a destination be had together. -/
def Host.Lends (host : Host) (source destination : Buffer) : Prop :=
  ∃ src dst after, resolvePair source destination host = (.ok (src, dst), after)

theorem Host.Lends.guards {host : Host} {source destination : Buffer}
    (h : host.Lends source destination) :
    ∃ src dst after, resolvePair source destination host = (.ok (src, dst), after) ∧
      src.Holds source .source ∧ dst.Holds destination .destination := by
  obtain ⟨src, dst, after, h⟩ := h
  exact ⟨src, dst, after, h, holds_of_resolvePair h⟩

variable {α : Type} {memory : Memory} {post : Except Failure α → Memory → Prop}

/-- What the use of a borrowed buffer ensures, the whole ensures, if it stands also where the buffer
cannot be had. -/
theorem withGuard_ensures {buffer : Buffer} {role : Role} {use : Guard → Op α}
    (herror : ∀ failure, post (.error failure) memory)
    (huse : ∀ guard, guard.Holds buffer role → (use guard).Ensures memory post) :
    (withGuard buffer role use).Ensures memory post := by
  intro host hmemory
  subst hmemory
  have hresolve := resolve_ensures buffer role host.memory host rfl
  rw [withGuard]
  split
  · rename_i failure after hrun
    rw [hrun] at hresolve
    rw [hresolve.1]
    exact herror failure
  · rename_i guard after hrun
    rw [hrun] at hresolve
    simp only [Guard.release_memory]
    exact huse guard (hresolve.2 guard rfl) after hresolve.1

/-- Where two buffers can be had, the whole ensures what their use ensures. -/
theorem withPair_of_resolvePair {source destination : Buffer} {use : Guard → Guard → Op α}
    {host middle : Host} {src dst : Guard} (post : Except Failure α → Memory → Prop)
    (h : resolvePair source destination host = (.ok (src, dst), middle))
    (huse : src.Holds source .source → dst.Holds destination .destination →
      (use src dst).Ensures host.memory post) :
    post (withPair source destination use host).1 (withPair source destination use host).2.memory := by
  have hresolve := resolvePair_ensures source destination host.memory host rfl
  rw [h] at hresolve
  obtain ⟨hsrc, hdst⟩ := hresolve.2 src dst rfl
  simp only [withPair, h, Guard.release_memory]
  exact huse hsrc hdst middle hresolve.1

/-- What the use of two borrowed buffers ensures, the whole ensures, if it stands also where not both
can be had. -/
theorem withPair_ensures {source destination : Buffer} {use : Guard → Guard → Op α}
    (herror : ∀ failure, post (.error failure) memory)
    (huse : ∀ src dst, src.Holds source .source → dst.Holds destination .destination →
      (use src dst).Ensures memory post) :
    (withPair source destination use).Ensures memory post := by
  intro host hmemory
  subst hmemory
  rcases hrun : resolvePair source destination host with ⟨result, after⟩
  cases result with
  | error failure =>
    have hresolve := resolvePair_ensures source destination host.memory host rfl
    rw [hrun] at hresolve
    simp only [withPair, hrun]
    rw [hresolve.1]
    exact herror failure
  | ok guards => exact withPair_of_resolvePair post hrun (huse guards.1 guards.2)

/-- Delivering what a codec leaves behind is writing it; the result is the codec's. -/
theorem Dispatch.deliver_ensures (region : Region) (outcome : Outcome α) (memory : Memory) :
    (deliver region outcome).Ensures memory fun result after =>
      result = outcome.result ∧ after = memory.write region outcome.written :=
  .bind_write (.ofExcept ⟨rfl, rfl⟩)

end BufferBridge
