import BufferBridge.GuardTable
import BufferBridge.Proofs.Discipline

/-!
# Guards that outlive a call

Whatever is done with guards and in whatever order they are dropped, the pins that the host has granted
and not got back are at any point those that the guards hold which are there. The invariant is a
balance: what was held before and what was granted since is what was given back and what is held now.
Using a guard is no matter for the host, and leaves the memory as it is where it fails.
-/
namespace BufferBridge

/-! ## Using a guard -/

namespace Op

variable {α β : Type}

/-- An operation that changes nothing about the host but its memory, and nothing at all where it
fails. -/
structure Local (op : Op α) : Prop where
  only_memory : ∀ host, (op host).2 = { host with memory := (op host).2.memory }
  fails : ∀ host failure, (op host).1 = .error failure → (op host).2 = host

theorem Local.pure (value : α) : (Pure.pure value : Op α).Local :=
  ⟨fun _ => rfl, fun _ _ _ => rfl⟩

theorem Local.fail (failure : Failure) : (Op.fail failure : Op α).Local :=
  ⟨fun _ => rfl, fun _ _ _ => rfl⟩

theorem Local.write (region : Region) (data : Bytes) : (Op.write region data).Local :=
  ⟨fun _ => rfl, fun _ _ h => nomatch h⟩

theorem Local.bind_ofExcept {result : Except Failure α} {next : α → Op β}
    (h : ∀ value, (next value).Local) : ((liftM result : Op α) >>= next).Local := by
  cases result with
  | error failure => exact .fail failure
  | ok value => exact h value

theorem Local.bind_read {region : Region} {next : Bytes → Op β} (h : ∀ bytes, (next bytes).Local) :
    (Op.read region >>= next).Local :=
  ⟨fun host => (h (host.memory.read region)).only_memory host,
    fun host => (h (host.memory.read region)).fails host⟩

theorem bind_pure_run (op : Op α) (f : α → β) (host : Host) :
    (op >>= fun value => Pure.pure (f value)) host = (f <$> (op host).1, (op host).2) := by
  simp only [Bind.bind]
  split
  · rename_i value after hrun
    rw [hrun]
    rfl
  · rename_i failure after hrun
    rw [hrun]
    rfl

/-- What is made of a value afterwards cannot fail. -/
theorem Local.bind_pure {op : Op α} (h : op.Local) (f : α → β) :
    (op >>= fun value => Pure.pure (f value)).Local := by
  refine ⟨?_, ?_⟩
  · intro host
    rw [bind_pure_run]
    exact h.only_memory host
  · intro host failure hfails
    rw [bind_pure_run] at hfails ⊢
    cases hresult : (op host).1 with
    | error failure' => exact h.fails host failure' hresult
    | ok value =>
      rw [hresult] at hfails
      cases hfails

end Op

open Op (Local)

theorem copyWindow_local (src : Guard) (window : Window) (dst : Guard) (offset : Nat)
    (allowOverlap : Bool) : (copyWindow src window dst offset allowOverlap).Local := by
  refine .bind_ofExcept fun _ => .bind_ofExcept fun input => .bind_ofExcept fun output => ?_
  split
  · exact .fail _
  · exact .bind_read fun data => .write output data

/-- Whether a step uses guards that are there. -/
def GuardStep.isUse : GuardStep → Bool
  | read .. | fill .. | split .. | copy .. => true
  | resolve .. | resolvePair .. | drop _ => false

namespace GuardTable

variable {table : GuardTable}

theorem useOp_local (table : GuardTable) (step : GuardStep) : (table.useOp step).Local := by
  cases step with
  | resolve | resolvePair | drop => exact .pure _
  | read slot window =>
    simp only [useOp]
    split
    · exact .bind_ofExcept fun region => (Local.bind_read fun bytes => .pure _)
    · exact .pure _
  | fill slot window byte =>
    simp only [useOp]
    split
    · exact .bind_ofExcept fun region => (Local.write region _).bind_pure _
    · exact .pure _
  | split source sourceWindow destination destinationWindow change =>
    simp only [useOp]
    split
    · exact .bind_ofExcept fun windows => .bind_read fun bytes => (Local.write windows.2 _).bind_pure _
    · exact .pure _
  | copy source window destination offset allowOverlap =>
    simp only [useOp]
    split
    · exact (copyWindow_local ..).bind_pure _
    · exact .pure _

theorem step_of_isUse {step : GuardStep} (h : step.isUse = true) (host : Host) :
    table.step step host = ((table.useOp step host).1, table, (table.useOp step host).2) := by
  cases step with
  | resolve | resolvePair | drop => cases h
  | read | fill | split | copy => rfl

end GuardTable

/-! ## Pins that guards hold -/

/-- The pin that a guard has to give back: its buffer and the attempt that was granted. -/
def Guard.held? (guard : Guard) : Option (Nat × Nat) :=
  guard.pin.map fun attempt => (guard.buffer, attempt)

/-- The attempts among some pins by which one buffer is pinned. -/
def attemptsOn (buffer : Nat) (pins : List (Nat × Nat)) : List Nat :=
  pins.filterMap fun pin => if pin.1 = buffer then some pin.2 else none

theorem attemptsOn_append (buffer : Nat) (pins more : List (Nat × Nat)) :
    attemptsOn buffer (pins ++ more) = attemptsOn buffer pins ++ attemptsOn buffer more :=
  List.filterMap_append

theorem Guard.releases_handback (guard : Guard) : releases guard.handback = guard.held?.toList := by
  rw [handback, held?]
  cases guard.pin <;> rfl

theorem Guard.grants_handback (guard : Guard) : grants guard.handback = [] := by
  rw [handback]
  cases guard.pin <;> rfl

theorem Guard.attempts_handback (guard : Guard) : guard.handback.filterMap Event.attempt? = [] := by
  rw [handback]
  cases guard.pin <;> rfl

/-- From one point of a run to a later one: some events have been recorded, each pin attempt among them
under the next number, and the pins that were held or have been granted are those that have been given
back or are held. So whatever else the host has pinned stays pinned. -/
structure Carries (held : List (Nat × Nat)) (host : Host) (events : List Event)
    (held' : List (Nat × Nat)) (host' : Host) : Prop where
  trace : host'.trace = host.trace ++ events
  attempts : ∃ count, events.filterMap Event.attempt? = List.range' host.attempts count ∧
    host'.attempts = host.attempts + count
  balance : (releases events ++ held').Perm (held ++ grants events)
  pinned : ∀ buffer pins, (host.pinsOf buffer).Perm (pins ++ attemptsOn buffer held) →
    (host'.pinsOf buffer).Perm (pins ++ attemptsOn buffer held')

namespace Carries

variable {held middle held' : List (Nat × Nat)} {host between host' : Host} {events later : List Event}

theorem refl (held : List (Nat × Nat)) (host : Host) : Carries held host [] held host :=
  ⟨(List.append_nil _).symm, ⟨0, rfl, rfl⟩, by simp [releases, grants], fun _ _ h => h⟩

theorem trans (h : Carries held host events middle between)
    (h' : Carries middle between later held' host') : Carries held host (events ++ later) held' host' := by
  obtain ⟨count, hnumbers, hattempts⟩ := h.attempts
  obtain ⟨count', hnumbers', hattempts'⟩ := h'.attempts
  refine ⟨?_, ⟨count + count', ?_, ?_⟩, ?_, ?_⟩
  · rw [h'.trace, h.trace, List.append_assoc]
  · rw [List.filterMap_append, hnumbers, hnumbers', hattempts, List.range'_append_1]
  · omega
  · have hlater := h'.balance.append_left (releases events)
    have hevents := h.balance.append_right (grants later)
    simp only [releases_append, grants_append, List.append_assoc] at hlater hevents ⊢
    exact hlater.trans hevents
  · intro buffer pins hpins
    exact h'.pinned buffer pins (h.pinned buffer pins hpins)

end Carries

theorem heldAfter_of_isRequest {request : Event} (h : request.isRequest = true) (buffer : Nat)
    (pins : List Nat) :
    heldAfter buffer pins request = pins ++ attemptsOn buffer (grants [request]) := by
  cases request with
  | pin id attempt =>
    by_cases hid : id = buffer <;> simp [heldAfter, attemptsOn, grants, Event.grant?, hid]
  | refuse | address => exact (List.append_nil _).symm
  | unpin | raise | log | codec => cases h

theorem Host.pinsOf_of_trace {host after : Host} {events : List Event}
    (h : after.trace = host.trace ++ events) (buffer : Nat) :
    after.pinsOf buffer = events.foldl (heldAfter buffer) (host.pinsOf buffer) := by
  rw [pinsOf_eq, pinsOf_eq, h, List.foldl_append]

theorem releases_of_isRequest {request : Event} (h : request.isRequest = true) :
    releases [request] = [] := by
  cases request with
  | pin | refuse | address => rfl
  | unpin | raise | log | codec => cases h

/-- A request adds to the pins what it is granted. -/
theorem carries_request {host after : Host} {request : Event} (held : List (Nat × Nat))
    (hrequest : request.isRequest = true) (htrace : after.trace = host.trace ++ [request])
    (hnumber : Numbered host request after) :
    Carries held host [request] (held ++ grants [request]) after := by
  refine ⟨htrace, ?_, ?_, ?_⟩
  · rcases hnumber with ⟨hnone, hattempts⟩ | ⟨hsome, hattempts⟩
    · exact ⟨0, List.filterMap_cons_none hnone, hattempts⟩
    · exact ⟨1, List.filterMap_cons_some hsome, hattempts⟩
  · rw [releases_of_isRequest hrequest]
    exact .refl _
  · intro buffer pins hpins
    rw [Host.pinsOf_of_trace htrace, List.foldl_cons, List.foldl_nil, heldAfter_of_isRequest hrequest,
      attemptsOn_append, ← List.append_assoc]
    exact hpins.append_right _

/-- Giving a guard back takes away from the pins what the guard holds. -/
theorem Guard.carries_release {guard : Guard} {held rest : List (Nat × Nat)}
    (h : held.Perm (guard.held?.toList ++ rest)) (host : Host) :
    Carries held host guard.handback rest (guard.release host) := by
  have htrace := guard.release_trace host
  refine ⟨htrace, ⟨0, guard.attempts_handback, ?_⟩, ?_, ?_⟩
  · rw [release]
    cases guard.pin <;> rfl
  · rw [guard.releases_handback, guard.grants_handback, List.append_nil]
    exact h.symm
  · intro buffer pins hpins
    have hsplit := hpins.trans ((h.filterMap _).append_left pins)
    rw [Host.pinsOf_of_trace htrace]
    rw [held?] at hsplit
    rw [handback]
    cases hpin : guard.pin with
    | none =>
      rw [hpin] at hsplit
      exact hsplit
    | some attempt =>
      rw [hpin] at hsplit
      by_cases hbuffer : guard.buffer = buffer
      · simp only [Option.map_some, Option.toList_some, List.singleton_append, hbuffer,
          List.filterMap_cons, if_true] at hsplit
        simp only [List.foldl_cons, List.foldl_nil, heldAfter, hbuffer, if_true]
        refine (hsplit.erase attempt).trans ((List.perm_middle.erase attempt).trans ?_)
        rw [List.erase_cons_head]
        exact .refl _
      · simpa [heldAfter, attemptsOn, hbuffer] using hsplit

/-! ## Taking guards -/

theorem resolve_carries {buffer : Buffer} {role : Role} {host after : Host}
    {result : Except Failure Guard} (held : List (Nat × Nat))
    (h : resolve buffer role host = (result, after)) :
    ∃ request, request.Resolves buffer ∧
      Carries held host [request] (held ++ grants [request]) after ∧
      grants [request] = (result.toOption.bind Guard.held?).toList := by
  obtain ⟨request, hresolves, htrace, hnumber, hclosing⟩ := resolve_trace h
  refine ⟨request, hresolves, carries_request held hresolves.isRequest htrace hnumber, ?_⟩
  have hgrants := releases_closing [request]
  rw [hclosing] at hgrants
  cases result with
  | error failure => exact List.reverse_eq_nil_iff.mp hgrants.symm
  | ok guard =>
    rw [guard.releases_handback] at hgrants
    rw [← List.reverse_reverse (grants [request]), ← hgrants]
    show _ = guard.held?.toList
    cases guard.held? <;> rfl

/-- A pair is taken as a whole or not at all, and then what was granted has gone back. -/
theorem resolvePair_carries {source destination : Buffer} {host after : Host}
    {result : Except Failure (Guard × Guard)} (held : List (Nat × Nat))
    (h : resolvePair source destination host = (result, after)) :
    ∃ events, match result with
      | .ok (src, dst) => releases events = [] ∧
          Carries held host events (held ++ src.held?.toList ++ dst.held?.toList) after
      | .error _ => releases events = (grants events).reverse ∧ Carries held host events held after := by
  rw [resolvePair] at h
  split at h
  · rename_i failure middle hsource
    obtain ⟨first, hfirst, hcarries, hgrants⟩ := resolve_carries held hsource
    cases h
    have hnone : grants [first] = [] := hgrants
    rw [hnone, List.append_nil] at hcarries
    refine ⟨[first], ?_, hcarries⟩
    rw [hnone, releases_of_isRequest hfirst.isRequest]
    rfl
  · rename_i src middle hsource
    obtain ⟨first, hfirst, hcarries, hgrants⟩ := resolve_carries held hsource
    have hsrc : grants [first] = src.held?.toList := hgrants
    rw [hsrc] at hcarries
    split at h
    · rename_i failure last hdestination
      obtain ⟨second, hsecond, hcarries', hgrants'⟩ := resolve_carries (held ++ src.held?.toList) hdestination
      cases h
      have hnone : grants [second] = [] := hgrants'
      rw [hnone, List.append_nil] at hcarries'
      refine ⟨[first] ++ [second] ++ src.handback, ?_,
        (hcarries.trans hcarries').trans (Guard.carries_release List.perm_append_comm last)⟩
      simp only [releases_append, grants_append, releases_of_isRequest hfirst.isRequest,
        releases_of_isRequest hsecond.isRequest, src.releases_handback, src.grants_handback, hnone,
        hsrc, List.append_nil, List.nil_append]
      cases src.held? <;> rfl
    · rename_i dst last hdestination
      obtain ⟨second, hsecond, hcarries', hgrants'⟩ := resolve_carries (held ++ src.held?.toList) hdestination
      cases h
      have hdst : grants [second] = dst.held?.toList := hgrants'
      rw [hdst] at hcarries'
      refine ⟨[first] ++ [second], ?_, hcarries.trans hcarries'⟩
      rw [releases_append, releases_of_isRequest hfirst.isRequest,
        releases_of_isRequest hsecond.isRequest]
      rfl

/-! ## Steps -/

namespace GuardTable

/-- The pins that the guards of a table hold. -/
def held (table : GuardTable) : List (Nat × Nat) :=
  table.slots.flatMap fun slot => (slot.bind Guard.held?).toList

/-- The attempts by which the guards of a table have a buffer pinned. -/
def pinsOf (buffer : Nat) (table : GuardTable) : List Nat := attemptsOn buffer table.held

/-- The pins that a step gives back, by its answer and by what it was granted: where it drops a guard,
the pin of the guard, where it takes a pair in vain, what was granted for it, and else none. -/
def givesBack (table : GuardTable) (granted : List (Nat × Nat)) :
    GuardStep → Except Failure GuardReply → List (Nat × Nat)
  | .drop slot, _ => ((table.get? slot).bind Guard.held?).toList
  | .resolvePair .., .error _ => granted.reverse
  | _, _ => []

theorem held_add (table : GuardTable) (guards : List (Option Guard)) :
    (table.add guards).held = table.held ++ (⟨guards⟩ : GuardTable).held :=
  List.flatMap_append

/-- A guard that is there holds a part of what is held. -/
theorem perm_held_of_get? {table : GuardTable} {slot : Nat} {guard : Guard}
    (h : table.get? slot = some guard) :
    table.held.Perm (guard.held?.toList ++ (⟨table.slots.set slot none⟩ : GuardTable).held) := by
  obtain ⟨slots⟩ := table
  simp only [held, get?] at *
  induction slots generalizing slot with
  | nil => cases h
  | cons first rest ih =>
    cases slot with
    | zero =>
      obtain rfl : first = some guard := h
      exact .refl _
    | succ slot =>
      rw [List.flatMap_cons, List.set_cons_succ, List.flatMap_cons]
      exact ((ih h).append_left _).trans (List.perm_append_comm_assoc ..)

/-- What one step does to the pins that are held, and when it gives any back. -/
theorem step_carries (table : GuardTable) (step : GuardStep) (host : Host) :
    ∃ events, Carries table.held host events (table.step step host).2.1.held (table.step step host).2.2 ∧
      releases events = table.givesBack (grants events) step (table.step step host).1 := by
  cases step with
  | resolve buffer role =>
    simp only [GuardTable.step]
    split
    all_goals
      rename_i hrun
      obtain ⟨request, hresolves, hcarries, hgrants⟩ := resolve_carries table.held hrun
      refine ⟨[request], ?_, releases_of_isRequest hresolves.isRequest⟩
      rw [held_add]
      simpa [held, hgrants, Except.toOption] using hcarries
  | resolvePair source destination =>
    simp only [GuardTable.step]
    split
    all_goals
      rename_i hrun
      obtain ⟨events, hreleases, hcarries⟩ := resolvePair_carries table.held hrun
      refine ⟨events, ?_, hreleases⟩
      rw [held_add]
      simpa [held] using hcarries
  | drop slot =>
    simp only [GuardTable.step]
    split
    · rename_i guard hguard
      refine ⟨guard.handback, Guard.carries_release (perm_held_of_get? hguard) host, ?_⟩
      simp [givesBack, hguard, guard.releases_handback]
    · rename_i hnone
      refine ⟨[], .refl _ _, ?_⟩
      simp [givesBack, hnone, releases]
  | read | fill | split | copy =>
    rw [step_of_isUse rfl]
    refine ⟨[], ?_, rfl⟩
    rw [(table.useOp_local _).only_memory]
    exact ⟨(List.append_nil _).symm, ⟨0, rfl, rfl⟩, (Carries.refl table.held host).balance, fun _ _ h => h⟩

theorem dropAll_carries (table : GuardTable) (host : Host) :
    ∃ events, Carries table.held host events [] (table.dropAll host) ∧ grants events = [] := by
  obtain ⟨slots⟩ := table
  simp only [dropAll, held]
  induction slots generalizing host with
  | nil => exact ⟨[], .refl [] host, rfl⟩
  | cons slot rest ih =>
    rw [List.foldl_cons, List.flatMap_cons]
    cases slot with
    | none => exact ih host
    | some guard =>
      obtain ⟨events, hcarries, hgrants⟩ := ih (guard.release host)
      refine ⟨guard.handback ++ events, (Guard.carries_release (.refl _) host).trans hcarries, ?_⟩
      rw [grants_append, guard.grants_handback, hgrants]
      rfl

/-! ## Runs -/

/-- The table and the host after some steps, one after the other. -/
def runAll (steps : List GuardStep) (table : GuardTable) (host : Host) : GuardTable × Host :=
  steps.foldl (fun state step => (state.1.step step state.2).2) (table, host)

theorem runAll_carries (steps : List GuardStep) (table : GuardTable) (host : Host) :
    ∃ events, Carries table.held host events (runAll steps table host).1.held
      (runAll steps table host).2 := by
  induction steps generalizing table host with
  | nil => exact ⟨[], .refl table.held host⟩
  | cons step rest ih =>
    obtain ⟨events, hstep, -⟩ := table.step_carries step host
    obtain ⟨later, hrest⟩ := ih (table.step step host).2.1 (table.step step host).2.2
    exact ⟨events ++ later, hstep.trans hrest⟩

end GuardTable

theorem count_pin (events : List Event) (buffer attempt : Nat) :
    events.count (.pin buffer attempt) = (grants events).count (buffer, attempt) := by
  rw [grants, List.count_filterMap, List.count]
  apply List.countP_congr
  intro event _
  cases event <;> simp [Event.grant?]

/-- Some events account for a table of guards: a pin is granted once at most, and as often as it was
granted, it has been given back or is held by a guard that is there. -/
structure Accounts (events : List Event) (table : GuardTable) : Prop where
  granted_once : ∀ buffer attempt, events.count (.pin buffer attempt) ≤ 1
  balance : ∀ buffer attempt,
    events.count (.unpin buffer attempt) + table.held.count (buffer, attempt) =
      events.count (.pin buffer attempt)

theorem Carries.accounts {host host' : Host} {events : List Event} {table : GuardTable}
    (h : Carries [] host events table.held host') : Accounts events table := by
  obtain ⟨count, hnumbers, -⟩ := h.attempts
  have hnodup : (events.filterMap Event.attempt?).Nodup := by
    rw [hnumbers]
    exact List.nodup_range'
  refine ⟨?_, ?_⟩
  · intro buffer attempt
    rw [count_pin, (nodup_grants hnodup).count]
    split <;> omega
  · intro buffer attempt
    rw [count_pin, count_unpin, ← List.count_append, h.balance.count_eq]
    rfl

/-! ## Guards of direct buffers -/

/-- A guard is pinned just where its buffer is on the heap. -/
theorem isPinned_of_resolve {buffer : Buffer} {role : Role} {host after : Host} {guard : Guard}
    (h : resolve buffer role host = (.ok guard, after)) :
    guard.isPinned = (buffer.storage == .heap) := by
  rw [resolve] at h
  cases hstorage : buffer.storage with
  | heap =>
    simp only [hstorage, Host.pin] at h
    cases hgranted : buffer.reachable && !host.refuses host.attempts with
    | true =>
      simp only [hgranted, if_true] at h
      cases h
      rfl
    | false =>
      simp only [hgranted, Bool.false_eq_true, if_false] at h
      cases h
  | direct =>
    simp only [hstorage] at h
    split at h
    · cases h
      rfl
    · cases h

theorem isPinned_of_resolvePair {source destination : Buffer} {host after : Host} {src dst : Guard}
    (h : resolvePair source destination host = (.ok (src, dst), after)) :
    src.isPinned = (source.storage == .heap) ∧ dst.isPinned = (destination.storage == .heap) := by
  rw [resolvePair] at h
  split at h
  · cases h
  · rename_i first middle hsource
    split at h
    · cases h
    · rename_i second last hdestination
      cases h
      exact ⟨isPinned_of_resolve hsource, isPinned_of_resolve hdestination⟩

theorem Guard.release_of_not_isPinned {guard : Guard} (h : guard.isPinned = false) (host : Host) :
    guard.release host = host := by
  rw [isPinned, Option.isSome_eq_false_iff, Option.isNone_iff_eq_none] at h
  rw [release, h]

namespace GuardTable

theorem isPinned_of_step_resolve {table : GuardTable} {buffer : Buffer} {role : Role} {host : Host}
    {guards : List Guard} (h : (table.step (.resolve buffer role) host).1 = .ok (.guards guards)) :
    guards.map Guard.isPinned = [buffer.storage == .heap] := by
  simp only [GuardTable.step] at h
  split at h
  · rename_i guard after hrun
    cases h
    rw [List.map_singleton, isPinned_of_resolve hrun]
  · cases h

theorem isPinned_of_step_resolvePair {table : GuardTable} {source destination : Buffer} {host : Host}
    {guards : List Guard}
    (h : (table.step (.resolvePair source destination) host).1 = .ok (.guards guards)) :
    guards.map Guard.isPinned = [source.storage == .heap, destination.storage == .heap] := by
  simp only [GuardTable.step] at h
  split at h
  · rename_i src dst after hrun
    obtain ⟨hsrc, hdst⟩ := isPinned_of_resolvePair hrun
    cases h
    rw [List.map_cons, List.map_singleton, hsrc, hdst]
  · cases h

/-- **Guards account for the pins of the host.** After any run of steps a pin that was granted, which it
was once, has been given back once or is held by one guard that is there; so a buffer is pinned as it
was before and by these guards, and dropping them gives each of their pins back once. A step gives
back the pin of the guard that it drops, or what it was granted for a pair that it takes in vain, and
no other step gives anything back. Only guards of buffers on the heap are pinned, and to drop another
is nothing to the host. To use guards changes the memory at most, and nothing where it fails. -/
theorem runs_accounted :
    (∀ (steps : List GuardStep) (host : Host), ∃ events,
      (runAll steps {} host).2.trace = host.trace ++ events ∧
      Accounts events (runAll steps {} host).1 ∧
      (∀ buffer, ((runAll steps {} host).2.pinsOf buffer).Perm
        (host.pinsOf buffer ++ (runAll steps {} host).1.pinsOf buffer)) ∧
      ∃ handbacks,
        ((runAll steps {} host).1.dropAll (runAll steps {} host).2).trace =
          host.trace ++ (events ++ handbacks) ∧
        ∀ buffer attempt, (events ++ handbacks).count (.unpin buffer attempt) =
          events.count (.pin buffer attempt)) ∧
    (∀ (table : GuardTable) (step : GuardStep) (host : Host), ∃ events,
      (table.step step host).2.2.trace = host.trace ++ events ∧
      releases events = table.givesBack (grants events) step (table.step step host).1) ∧
    (∀ (table : GuardTable) (buffer : Buffer) (role : Role) (host : Host) (guards : List Guard),
      (table.step (.resolve buffer role) host).1 = .ok (.guards guards) →
        guards.map Guard.isPinned = [buffer.storage == .heap]) ∧
    (∀ (table : GuardTable) (source destination : Buffer) (host : Host) (guards : List Guard),
      (table.step (.resolvePair source destination) host).1 = .ok (.guards guards) →
        guards.map Guard.isPinned = [source.storage == .heap, destination.storage == .heap]) ∧
    (∀ (guard : Guard) (host : Host), guard.isPinned = false → guard.release host = host) ∧
    ∀ (table : GuardTable) (step : GuardStep) (host : Host), step.isUse = true →
      (table.step step host).2 =
        (table, { host with memory := (table.step step host).2.2.memory }) ∧
      ∀ failure, (table.step step host).1 = .error failure →
        (table.step step host).2.2.memory = host.memory := by
  refine ⟨?_, ?_, ?_, ?_, ?_, ?_⟩
  · intro steps host
    obtain ⟨events, hrun⟩ := runAll_carries steps {} host
    obtain ⟨handbacks, hdrop, hgrants⟩ := (runAll steps {} host).1.dropAll_carries (runAll steps {} host).2
    have hall := hrun.trans hdrop
    refine ⟨events, hrun.trace, hrun.accounts, ?_, handbacks, hall.trace, ?_⟩
    · intro buffer
      apply hrun.pinned
      rw [show attemptsOn buffer (held {}) = [] from rfl, List.append_nil]
    · intro buffer attempt
      rw [count_pin, count_unpin, ← List.append_nil (releases _), hall.balance.count_eq, grants_append,
        hgrants, List.append_nil]
      rfl
  · intro table step host
    obtain ⟨events, hcarries, hreleases⟩ := table.step_carries step host
    exact ⟨events, hcarries.trace, hreleases⟩
  · intro table buffer role host guards h
    exact isPinned_of_step_resolve h
  · intro table source destination host guards h
    exact isPinned_of_step_resolvePair h
  · intro guard host h
    exact guard.release_of_not_isPinned h host
  · intro table step host huse
    have hlocal := table.useOp_local step
    rw [step_of_isUse huse]
    refine ⟨Prod.ext rfl (hlocal.only_memory host), ?_⟩
    intro failure hfails
    exact congrArg Host.memory (hlocal.fails host failure hfails)

/-- Takes a buffer of the heap, then the same buffer in a pair with itself, and then a direct one. -/
def contested : List GuardStep :=
  [.resolve { id := 0, storage := .heap, region := ⟨0, 0, 4⟩ } .source,
    .resolvePair { id := 0, storage := .heap, region := ⟨0, 0, 4⟩ }
      { id := 0, storage := .heap, region := ⟨0, 0, 4⟩ },
    .resolve { id := 1, storage := .direct, region := ⟨0, 2, 4⟩ } .destination]

/-- A host of six bytes that refuses the third pin. -/
def refusingHost : Host where
  memory := ⟨[[1, 2, 3, 4, 5, 6]]⟩
  refuses attempt := attempt == 2

theorem runs_accounted_contested :
    (runAll contested {} refusingHost).2.trace =
        [.pin 0 0, .pin 0 1, .refuse 0 2, .unpin 0 1, .address 1] ∧
      Accounts [.pin 0 0, .pin 0 1, .refuse 0 2, .unpin 0 1, .address 1]
        (runAll contested {} refusingHost).1 ∧
      ((runAll contested {} refusingHost).2.pinsOf 0).Perm [0] ∧
      ((runAll contested {} refusingHost).1.step (.fill 3 ⟨2, 3⟩ 7)
        (runAll contested {} refusingHost).2).2.2.memory = refusingHost.memory := by
  obtain ⟨hruns, -, -, -, -, huses⟩ := runs_accounted
  obtain ⟨events, htrace, haccounts, hpinned, -⟩ := hruns contested refusingHost
  have hevents : (runAll contested {} refusingHost).2.trace =
      [.pin 0 0, .pin 0 1, .refuse 0 2, .unpin 0 1, .address 1] := rfl
  obtain rfl : events = _ := htrace.symm.trans hevents
  refine ⟨hevents, haccounts, hpinned 0, ?_⟩
  exact (huses (runAll contested {} refusingHost).1 (.fill 3 ⟨2, 3⟩ 7) _ rfl).2 _ rfl

end GuardTable

end BufferBridge
