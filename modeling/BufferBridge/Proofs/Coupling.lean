import BufferBridge.Proofs.Effects
import BufferBridge.Proofs.Memory

/-!
# Two runs side by side

Some properties of a call compare two runs of it. A coupling says which pairs of hosts are at the same
point of two runs, and that asking for a buffer, giving it back, and each thing that is done in between
lead from one such pair to the next. Then whatever is put together from these steps has the same result
in both runs. On the way it may become known that the two memories hold the same byte at more addresses.
-/
namespace BufferBridge

/-- Guards on the same bytes for the same purpose, however each of them is held. -/
structure Guard.SamePlace (guard other : Guard) : Prop where
  region : other.region = guard.region
  writable : other.writable = guard.writable
  role : other.role = guard.role

/-- The same answer to a request in both runs. -/
inductive Answers (At : Host → Host → Prop) (Held : Guard → Guard → Prop) :
    Except Failure Guard × Host → Except Failure Guard × Host → Prop
  | granted {guard guard' : Guard} {after after' : Host} : Held guard guard' → At after after' →
      Answers At Held (.ok guard, after) (.ok guard', after')
  | refused (failure : Failure) {after after' : Host} : At after after' →
      Answers At Held (.error failure, after) (.error failure, after')

structure Coupling where
  /-- Hosts at the same point of two runs, with addresses at which both are known to hold the same
  byte. -/
  At (known : Nat → Nat → Prop) : Host → Host → Prop
  /-- Buffers that stand for one another. -/
  Pairs : Buffer → Buffer → Prop
  /-- Guards that stand for one another. -/
  Held : Guard → Guard → Prop
  /-- Regions that the first memory is known to have. -/
  Backed : Region → Prop
  weaken {known less : Nat → Nat → Prop} {host host' : Host} : At known host host' →
    (∀ block position, less block position → known block position) → At less host host'
  backs {known : Nat → Nat → Prop} {host host' : Host} {region : Region} : At known host host' →
    Backed region → host.memory.Backs region
  read {known : Nat → Nat → Prop} {host host' : Host} {region : Region} : At known host host' →
    (∀ block position, region.Covers block position → known block position) →
    host'.memory.read region = host.memory.read region
  length_read {known : Nat → Nat → Prop} {host host' : Host} (region : Region) : At known host host' →
    (host'.memory.read region).length = (host.memory.read region).length
  write {known : Nat → Nat → Prop} {host host' : Host} (region : Region) (data : Bytes) :
    At known host host' →
    At (fun block position => known block position ∨
        region.Covers block position ∧ position < region.start + data.length)
      { host with memory := host.memory.write region data }
      { host' with memory := host'.memory.write region data }
  note {known : Nat → Nat → Prop} {host host' : Host} (event : Event) : At known host host' →
    At known (host.record event) (host'.record event)
  /-- The one note that tells how guards are held. -/
  note_compressed {known : Nat → Nat → Prop} {host host' : Host} {src src' dst dst' : Guard}
    (length room : Nat) : Held src src' → Held dst dst' → At known host host' →
    At known (host.record (.log (.compressed length room src.isPinned dst.isPinned)))
      (host'.record (.log (.compressed length room src'.isPinned dst'.isPinned)))
  place {guard guard' : Guard} : Held guard guard' → guard.SamePlace guard'
  answers {known : Nat → Nat → Prop} {host host' : Host} {buffer buffer' : Buffer} (role : Role) :
    Pairs buffer buffer' → At known host host' →
    Answers (At known) Held (resolve buffer role host) (resolve buffer' role host')
  release {known : Nat → Nat → Prop} {host host' : Host} {guard guard' : Guard} : Held guard guard' →
    At known host host' → At known (guard.release host) (guard'.release host')

namespace Guard.SamePlace

variable {guard guard' src src' dst dst' : Guard}

theorem capacity_eq (h : guard.SamePlace guard') : guard'.capacity = guard.capacity := by
  rw [capacity, capacity, h.region]

theorem span_eq (h : guard.SamePlace guard') (window : Window) :
    guard'.span window = guard.span window := by
  rw [span, span, h.capacity_eq, h.region]

theorem checkWritable_eq (h : guard.SamePlace guard') :
    guard'.checkWritable = guard.checkWritable := by
  rw [checkWritable, checkWritable, h.writable, h.role]

theorem splitWindows_eq (hsrc : src.SamePlace src') (hdst : dst.SamePlace dst')
    (window target : Window) :
    splitWindows src' window dst' target = splitWindows src window dst target := by
  rw [splitWindows, splitWindows, hsrc.span_eq, hdst.span_eq, hdst.checkWritable_eq]

theorem copyWindow_eq (hsrc : src.SamePlace src') (hdst : dst.SamePlace dst') (window : Window)
    (offset : Nat) (allowOverlap : Bool) :
    copyWindow src' window dst' offset allowOverlap = copyWindow src window dst offset allowOverlap := by
  rw [copyWindow, copyWindow, hsrc.span_eq, hdst.span_eq, hdst.checkWritable_eq]

end Guard.SamePlace

namespace Coupling

variable {α β : Type} {c : Coupling} {known : Nat → Nat → Prop}

/-- From hosts at the same point, two operations have the same result and end at the same point. Where
they succeed, both memories then hold the same bytes at some more addresses. -/
def Runs (c : Coupling) (known : Nat → Nat → Prop) (op op' : Op α)
    (gains : α → Nat → Nat → Prop) : Prop :=
  ∀ host host', c.At known host host' →
    (op' host').1 = (op host).1 ∧
      c.At (fun block position => known block position ∨
        ∃ value, (op host).1 = .ok value ∧ gains value block position) (op host).2 (op' host').2

variable {gains : α → Nat → Nat → Prop} {op op' : Op α}

/-- From a failure nothing is gained. -/
theorem at_error {host host' : Host} {failure : Failure} (h : c.At known host host') :
    c.At (fun block position => known block position ∨
      ∃ value, Except.error failure = .ok value ∧ gains value block position) host host' := by
  refine c.weaken h ?_
  rintro block position (hknown | ⟨_, hvalue, -⟩)
  · exact hknown
  · cases hvalue

theorem Runs.fail {failure : Failure} : c.Runs known (Op.fail failure : Op α) (Op.fail failure) gains :=
  fun _ _ hat => ⟨rfl, at_error hat⟩

theorem Runs.pure {value : α}
    (h : ∀ block position, gains value block position → known block position) :
    c.Runs known (Pure.pure value : Op α) (Pure.pure value) gains := by
  intro host host' hat
  refine ⟨rfl, c.weaken hat ?_⟩
  rintro block position (hknown | ⟨_, hvalue, hgain⟩)
  · exact hknown
  · cases hvalue
    exact h block position hgain

theorem Runs.ofExcept {result : Except Failure α}
    (h : ∀ value, result = .ok value → ∀ block position, gains value block position →
      known block position) : c.Runs known (liftM result : Op α) (liftM result) gains := by
  cases result with
  | error failure => exact .fail
  | ok value => exact .pure (h value rfl)

theorem Runs.write {region : Region} {data : Bytes} {gains : Unit → Nat → Nat → Prop}
    (h : ∀ block position, gains () block position → known block position ∨
      region.Covers block position ∧ position < region.start + data.length) :
    c.Runs known (Op.write region data) (Op.write region data) gains := by
  intro host host' hat
  refine ⟨rfl, c.weaken (c.write region data hat) ?_⟩
  rintro block position (hknown | ⟨_, -, hgain⟩)
  · exact .inl hknown
  · exact h block position hgain

/-! ## One operation after another -/

variable {mid : α → Nat → Nat → Prop} {gains : β → Nat → Nat → Prop} {next next' : α → Op β}

theorem Runs.bind (h : c.Runs known op op' mid)
    (hnext : ∀ value, c.Runs (fun block position => known block position ∨ mid value block position)
      (next value) (next' value) gains) : c.Runs known (op >>= next) (op' >>= next') gains := by
  intro host host' hat
  have hfirst := h host host' hat
  simp only [Bind.bind]
  generalize op host = first, op' host' = first' at hfirst
  rcases first with ⟨_, after⟩
  rcases first' with ⟨result, after'⟩
  obtain ⟨rfl, hat⟩ := hfirst
  cases result with
  | error failure =>
    refine ⟨rfl, at_error (c.weaken hat fun block position h => .inl h)⟩
  | ok value =>
    obtain ⟨hresult, hat⟩ := hnext value after after' (c.weaken hat fun block position h =>
      h.imp_right fun hmid => ⟨value, rfl, hmid⟩)
    exact ⟨hresult, c.weaken hat fun block position h => h.imp_left .inl⟩

theorem Runs.map {f : α → β} (h : c.Runs known op op' mid)
    (hgains : ∀ value block position, gains (f value) block position →
      known block position ∨ mid value block position) :
    c.Runs known (f <$> op) (f <$> op') gains :=
  h.bind fun value => .pure (hgains value)

theorem Runs.bind_ofExcept {result : Except Failure α}
    (hnext : ∀ value, result = .ok value → c.Runs known (next value) (next' value) gains) :
    c.Runs known ((liftM result : Op α) >>= next) ((liftM result : Op α) >>= next') gains := by
  cases result with
  | error failure => exact .fail
  | ok value => exact hnext value rfl

theorem Runs.bind_note {event : Event} {next next' : Unit → Op β}
    (hnext : c.Runs known (next ()) (next' ()) gains) :
    c.Runs known (Op.note event >>= next) (Op.note event >>= next') gains :=
  fun _ _ hat => hnext _ _ (c.note event hat)

theorem Runs.bind_note_compressed {length room : Nat} {src src' dst dst' : Guard}
    {next next' : Unit → Op β} (hsrc : c.Held src src') (hdst : c.Held dst dst')
    (hnext : c.Runs known (next ()) (next' ()) gains) :
    c.Runs known (Op.note (.log (.compressed length room src.isPinned dst.isPinned)) >>= next)
      (Op.note (.log (.compressed length room src'.isPinned dst'.isPinned)) >>= next') gains :=
  fun _ _ hat => hnext _ _ (c.note_compressed length room hsrc hdst hat)

/-- Bytes that both memories hold are the same in both runs. -/
theorem Runs.bind_read {region : Region} {next next' : Bytes → Op β}
    (hknown : ∀ block position, region.Covers block position → known block position)
    (hnext : ∀ memory : Memory, (∀ region, c.Backed region → memory.Backs region) →
      c.Runs known (next (memory.read region)) (next' (memory.read region)) gains) :
    c.Runs known (Op.read region >>= next) (Op.read region >>= next') gains := by
  intro host host' hat
  have hread := c.read hat hknown
  simp only [Bind.bind, Op.read, hread]
  exact hnext host.memory (fun _ hbacked => c.backs hat hbacked) host host' hat

/-- Of bytes that may differ, as many are read in both runs. -/
theorem Runs.bind_read_unknown {region : Region} {next next' : Bytes → Op β}
    (hnext : ∀ bytes bytes' : Bytes, bytes'.length = bytes.length → bytes.length ≤ region.length →
      c.Runs known (next bytes) (next' bytes') gains) :
    c.Runs known (Op.read region >>= next) (Op.read region >>= next') gains :=
  fun host host' hat => hnext _ _ (c.length_read region hat) (List.length_take_le ..) host host' hat

theorem Runs.bind_write {region : Region} {data : Bytes} {next next' : Unit → Op β}
    (hnext : c.Runs (fun block position => known block position ∨
      region.Covers block position ∧ position < region.start + data.length)
      (next ()) (next' ()) gains) :
    c.Runs known (Op.write region data >>= next) (Op.write region data >>= next') gains := by
  intro host host' hat
  obtain ⟨hresult, hat⟩ := hnext _ _ (c.write region data hat)
  exact ⟨hresult, c.weaken hat fun block position h => h.imp_left .inl⟩

/-- What a codec leaves behind is known where it has written. -/
theorem Runs.bind_deliver {region : Region} {outcome : Outcome α}
    (hnext : ∀ value, outcome.result = .ok value →
      c.Runs (fun block position => known block position ∨
        region.Covers block position ∧ position < region.start + outcome.written.length)
        (next value) (next' value) gains) :
    c.Runs known (Dispatch.deliver region outcome >>= next) (Dispatch.deliver region outcome >>= next')
      gains := by
  have hwrite : ∀ next : α → Op β, (Dispatch.deliver region outcome >>= next) =
      Op.write region outcome.written >>= fun _ => liftM outcome.result >>= next := fun _ => rfl
  rw [hwrite next, hwrite next']
  exact .bind_write (.bind_ofExcept hnext)

/-! ## Borrowing -/

theorem Runs.withGuard {buffer buffer' : Buffer} {role : Role} {use use' : Guard → Op β}
    (hbuffer : c.Pairs buffer buffer')
    (huse : ∀ guard guard', c.Held guard guard' → guard.Holds buffer role →
      c.Runs known (use guard) (use' guard') gains) :
    c.Runs known (withGuard buffer role use) (withGuard buffer' role use') gains := by
  intro host host' hat
  have hanswers := c.answers role hbuffer hat
  have hholds := resolve_ensures buffer role host.memory host rfl
  simp only [BufferBridge.withGuard]
  generalize resolve buffer role host = answer, resolve buffer' role host' = answer' at hanswers hholds
  cases hanswers with
  | refused failure hat => exact ⟨rfl, at_error hat⟩
  | granted hheld hat =>
    obtain ⟨hresult, hat⟩ := huse _ _ hheld (hholds.2 _ rfl) _ _ hat
    exact ⟨hresult, c.release hheld hat⟩

/-- The source goes back in both runs also where the destination cannot be had. -/
theorem Runs.withPair {source source' destination destination' : Buffer}
    {use use' : Guard → Guard → Op β} (hsource : c.Pairs source source')
    (hdestination : c.Pairs destination destination')
    (huse : ∀ src src' dst dst', c.Held src src' → c.Held dst dst' → src.Holds source .source →
      dst.Holds destination .destination → c.Runs known (use src dst) (use' src' dst') gains) :
    c.Runs known (withPair source destination use) (withPair source' destination' use') gains := by
  intro host host' hat
  have hfirst := c.answers .source hsource hat
  have hsrcHolds := resolve_ensures source .source host.memory host rfl
  simp only [BufferBridge.withPair, resolvePair]
  generalize resolve source .source host = first, resolve source' .source host' = first'
    at hfirst hsrcHolds
  cases hfirst with
  | refused failure hat => exact ⟨rfl, at_error hat⟩
  | @granted src src' middle middle' hsrc hat =>
    have hsecond := c.answers .destination hdestination hat
    have hdstHolds := resolve_ensures destination .destination middle.memory middle rfl
    simp only
    generalize resolve destination .destination middle = second,
      resolve destination' .destination middle' = second' at hsecond hdstHolds
    cases hsecond with
    | refused failure hat => exact ⟨rfl, at_error (c.release hsrc hat)⟩
    | granted hdst hat =>
      obtain ⟨hresult, hat⟩ :=
        huse _ _ _ _ hsrc hdst (hsrcHolds.2 _ rfl) (hdstHolds.2 _ rfl) _ _ hat
      exact ⟨hresult, c.release hsrc (c.release hdst hat)⟩

end Coupling

end BufferBridge
