import BufferBridge.Proofs.Delivery
import BufferBridge.Proofs.Separation

/-!
# What a copy accepts and what it does

Source and destination may be views of the same block, at any distance from each other. A copy reads the
whole source window before it writes, so it moves the bytes that were there before, however the two
windows lie; and where it is refused, it has written nothing.
-/
namespace BufferBridge.Dispatch

open Op (Ensures)

variable {source destination : Buffer} {window : Window} {offset : Nat} {allowOverlap : Bool}
variable {host : Host}

/-- All that a copy checks is there, so the bytes are moved. -/
theorem copy_of_copyable (hlends : host.Lends source destination)
    (hsource : source.region.length ≤ maxSize) (hdestination : destination.region.length ≤ maxSize)
    (h : Copyable source destination window offset allowOverlap) :
    (copy source window destination offset allowOverlap host).1 = .ok () := by
  obtain ⟨src, dst, middle, hresolve, hsrc, hdst⟩ := hlends.guards
  refine withPair_of_resolvePair (fun result _ => result = .ok ()) hresolve fun _ _ => ?_
  have hwritable := Guard.checkWritable_eq_ok_iff.mpr (hdst.writable.trans h.writable)
  have hinput := hsrc.span_of_within hsource h.window_within
  have houtput := @Guard.Holds.span_of_within dst ⟨offset, window.length⟩ _ _ hdst hdestination
    h.target_within
  have hpasses : (!allowOverlap && (source.region.part window.offset window.length).overlaps
      (destination.region.part offset window.length)) = false := by
    rcases h.apart with hallow | hdisjoint
    · rw [hallow]
      rfl
    · rw [Region.overlaps_eq_false_iff.mpr hdisjoint, Bool.and_false]
  refine .bind_ok hwritable (.bind_ok hinput (.bind_ok houtput ?_))
  rw [hpasses]
  exact .bind_read (.write rfl)

/-- **A copy is a move of bytes, refused just where it has to be.** Between buffers that can be had, it
succeeds exactly where the destination may be written, both windows lie inside their buffers and the two
share no byte or are allowed to. Then the destination window holds what the source window held before,
and no other byte has changed. Where it fails, none has. -/
theorem copy_moves (hlends : host.Lends source destination)
    (hsource : host.memory.Shows source.region) (hdestination : host.memory.Shows destination.region) :
    ((copy source window destination offset allowOverlap host).1 = .ok () ↔
      destination.writable = true ∧
        window.offset + window.length ≤ source.region.length ∧
        offset + window.length ≤ destination.region.length ∧
        (allowOverlap = true ∨ ∀ block position,
          (source.region.part window.offset window.length).Covers block position →
            ¬ (destination.region.part offset window.length).Covers block position)) ∧
    ((copy source window destination offset allowOverlap host).1 = .ok () →
      host.memory.Received (destination.region.part offset window.length)
        (host.memory.read (source.region.part window.offset window.length))
        (copy source window destination offset allowOverlap host).2.memory) ∧
    ∀ failure, (copy source window destination offset allowOverlap host).1 = .error failure →
      (copy source window destination offset allowOverlap host).2.memory = host.memory := by
  have hcopy : (copy source window destination offset allowOverlap).Ensures host.memory
      fun result after =>
        (result = .ok () → Copyable source destination window offset allowOverlap ∧
          after = host.memory.write (destination.region.part offset window.length)
            (host.memory.read (source.region.part window.offset window.length))) ∧
        ∀ failure, result = .error failure → after = host.memory := by
    refine copy_ensures ?_ ?_
    · intro failure
      refine ⟨?_, fun _ _ => rfl⟩
      intro h
      cases h
    · intro hcopyable
      refine ⟨fun _ => ⟨hcopyable, rfl⟩, ?_⟩
      intro _ h
      cases h
  obtain ⟨hok, herror⟩ := hcopy host rfl
  refine ⟨⟨?_, ?_⟩, ?_, herror⟩
  · intro h
    obtain ⟨hcopyable, -⟩ := hok h
    exact ⟨hcopyable.writable, hcopyable.window_within, hcopyable.target_within, hcopyable.apart⟩
  · intro h
    obtain ⟨hwritable, hwindow, htarget, hapart⟩ := h
    exact copy_of_copyable hlends hsource.length_le hdestination.length_le
      ⟨hwritable, hwindow, htarget, hapart⟩
  · intro h
    obtain ⟨hcopyable, hafter⟩ := hok h
    rw [hafter]
    exact hdestination.received_write_part hcopyable.target_within
      (hsource.length_read hcopyable.window_within)

/-- A host whose memory is one block of eight letters. -/
def lettersHost : Host where
  memory := ⟨[[97, 98, 99, 100, 101, 102, 103, 104]]⟩

/-- All of that block. -/
def letters : Buffer where
  id := 0
  storage := .heap
  region := ⟨0, 0, 8⟩

/-- Four letters move two places on, over two of themselves; where windows may not overlap, they stay. -/
theorem copy_moves_letters :
    lettersHost.Lends letters letters ∧ lettersHost.memory.Shows letters.region ∧
      (copy letters ⟨0, 4⟩ letters 2 true lettersHost).1 = .ok () ∧
      lettersHost.memory.Received ⟨0, 2, 4⟩ [97, 98, 99, 100]
        (copy letters ⟨0, 4⟩ letters 2 true lettersHost).2.memory ∧
      (copy letters ⟨0, 4⟩ letters 2 false lettersHost).1 ≠ .ok () ∧
      (copy letters ⟨0, 4⟩ letters 2 false lettersHost).2.memory = lettersHost.memory := by
  have hlends : lettersHost.Lends letters letters := ⟨_, _, _, rfl⟩
  have hshows : lettersHost.memory.Shows letters.region := ⟨.inr (by decide), by decide⟩
  have hmoves := fun allowOverlap =>
    @copy_moves letters letters ⟨0, 4⟩ 2 allowOverlap lettersHost hlends hshows hshows
  have hallowed := (hmoves true).1.mpr ⟨rfl, by decide, by decide, .inl rfl⟩
  have hrefused : (copy letters ⟨0, 4⟩ letters 2 false lettersHost).1 ≠ .ok () := by
    intro h
    rcases ((hmoves false).1.mp h).2.2.2 with hallow | hdisjoint
    · cases hallow
    · exact hdisjoint 0 2 ⟨rfl, by decide, by decide⟩ ⟨rfl, by decide, by decide⟩
  refine ⟨hlends, hshows, hallowed, (hmoves true).2.1 hallowed, hrefused, ?_⟩
  cases hresult : (copy letters ⟨0, 4⟩ letters 2 false lettersHost).1 with
  | ok _ => exact absurd hresult hrefused
  | error failure => exact (hmoves false).2.2 failure hresult

end BufferBridge.Dispatch
