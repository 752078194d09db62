import BufferBridge.Proofs.Placement

/-!
# Pairs of windows that are safe to hold at once

A window that is read and a window that is written are handed on together exactly where each lies inside
its buffer and no address belongs to both. The checks on bounds are on machine words and the check on
addresses is on the ends of two intervals; what they add up to is a statement about single bytes.
-/
namespace BufferBridge

/-- Windows that lie inside their buffers and share no byte. An empty window shares none, wherever it
is. -/
structure Guard.Separate (src dst : Guard) (srcWindow dstWindow : Window) : Prop where
  source_within : srcWindow.offset + srcWindow.length ≤ src.capacity
  target_within : dstWindow.offset + dstWindow.length ≤ dst.capacity
  disjoint : ∀ block position,
    (src.region.part srcWindow.offset srcWindow.length).Covers block position →
      ¬ (dst.region.part dstWindow.offset dstWindow.length).Covers block position

/-! ## One window -/

/-- A window that is turned down is told as a bad argument, whichever end it has. -/
theorem Window.checkWithin_eq_error {window : Window} {capacity : Nat} {failure : Failure}
    (h : window.checkWithin capacity = .error failure) : ∃ cause, failure = .invalid cause := by
  simp only [checkWithin, stop] at h
  by_cases hsize : window.offset + window.length ≤ maxSize
  · rw [if_pos hsize] at h
    change (if capacity < window.offset + window.length then _ else Except.ok ()) = _ at h
    split at h
    · cases h
      exact ⟨_, rfl⟩
    · cases h
  · rw [if_neg hsize] at h
    cases h
    exact ⟨_, rfl⟩

namespace Guard

variable {guard : Guard} {window : Window}

theorem span_eq_error {failure : Failure} (h : guard.span window = .error failure) :
    ∃ cause, failure = .invalid cause := by
  rw [span] at h
  cases hcheck : window.checkWithin guard.capacity with
  | ok _ =>
    rw [hcheck] at h
    cases h
  | error refusal =>
    rw [hcheck] at h
    cases h
    exact Window.checkWithin_eq_error hcheck

/-- The end of a window that lies inside a buffer is a machine word, as the size of the buffer is. -/
theorem span_of_within (hsize : guard.capacity ≤ maxSize)
    (h : window.offset + window.length ≤ guard.capacity) :
    guard.span window = .ok (guard.region.part window.offset window.length) :=
  span_eq_ok_iff.mpr ⟨⟨Nat.le_trans h hsize, h⟩, rfl⟩

theorem Holds.span_of_within {buffer : Buffer} {role : Role} (h : guard.Holds buffer role)
    (hsize : buffer.region.length ≤ maxSize)
    (hwithin : window.offset + window.length ≤ buffer.region.length) :
    guard.span window = .ok (buffer.region.part window.offset window.length) := by
  rw [← h.capacity_eq] at hsize hwithin
  rw [← h.region]
  exact Guard.span_of_within hsize hwithin

end Guard

/-! ## Two windows -/

section

variable {src dst : Guard} {srcWindow dstWindow : Window}

/-- Permission is looked at last, so it is missed only where all else is well. -/
theorem splitWindows_of_separate (hsrc : src.capacity ≤ maxSize) (hdst : dst.capacity ≤ maxSize)
    (h : src.Separate dst srcWindow dstWindow) :
    splitWindows src srcWindow dst dstWindow =
      if dst.writable then
        .ok (src.region.part srcWindow.offset srcWindow.length,
          dst.region.part dstWindow.offset dstWindow.length)
      else .error (.unavailable dst.role) := by
  have hinput := Guard.span_of_within hsrc h.source_within
  have houtput := Guard.span_of_within hdst h.target_within
  have hdisjoint := Region.overlaps_eq_false_iff.mpr h.disjoint
  rw [splitWindows, hinput, houtput]
  simp only [Bind.bind, Except.bind, hdisjoint, Bool.false_eq_true, if_false, Guard.checkWritable]
  cases dst.writable with
  | true => rfl
  | false => rfl

/-- Of windows that are not separate, one is out of bounds or the two overlap. -/
theorem splitWindows_of_not_separate (h : ¬ src.Separate dst srcWindow dstWindow) :
    ∃ cause, splitWindows src srcWindow dst dstWindow = .error (.invalid cause) := by
  rw [splitWindows]
  cases hinput : src.span srcWindow with
  | error failure =>
    obtain ⟨cause, rfl⟩ := Guard.span_eq_error hinput
    exact ⟨cause, rfl⟩
  | ok input =>
    cases houtput : dst.span dstWindow with
    | error failure =>
      obtain ⟨cause, rfl⟩ := Guard.span_eq_error houtput
      exact ⟨cause, rfl⟩
    | ok output =>
      obtain ⟨⟨-, hsource⟩, rfl⟩ := Guard.span_eq_ok_iff.mp hinput
      obtain ⟨⟨-, htarget⟩, rfl⟩ := Guard.span_eq_ok_iff.mp houtput
      have hoverlaps : (src.region.part srcWindow.offset srcWindow.length).overlaps
          (dst.region.part dstWindow.offset dstWindow.length) = true := by
        rw [← Bool.not_eq_false, Region.overlaps_eq_false_iff]
        exact fun hdisjoint => h ⟨hsource, htarget, hdisjoint⟩
      simp only [Bind.bind, Except.bind, hoverlaps, if_true]
      exact ⟨_, rfl⟩

/-- **A pair of windows is handed on exactly where it is safe to hold both.** The windows lie inside their
buffers, the second may be written and no address belongs to both, and then their addresses are what is
handed on. Windows that are not separate are refused as arguments, whatever may be written; the second
buffer is said to be unavailable only where separate windows would have to be written. -/
theorem splitWindows_decides (hsrc : src.capacity ≤ maxSize) (hdst : dst.capacity ≤ maxSize) :
    (∀ input output, splitWindows src srcWindow dst dstWindow = .ok (input, output) ↔
      (src.Separate dst srcWindow dstWindow ∧ dst.writable = true) ∧
        input = src.region.part srcWindow.offset srcWindow.length ∧
        output = dst.region.part dstWindow.offset dstWindow.length) ∧
    ((∃ cause, splitWindows src srcWindow dst dstWindow = .error (.invalid cause)) ↔
      ¬ src.Separate dst srcWindow dstWindow) ∧
    ∀ role, splitWindows src srcWindow dst dstWindow = .error (.unavailable role) ↔
      role = dst.role ∧ src.Separate dst srcWindow dstWindow ∧ dst.writable = false := by
  by_cases hseparate : src.Separate dst srcWindow dstWindow
  · rw [splitWindows_of_separate hsrc hdst hseparate]
    cases hwritable : dst.writable with
    | true => simp [hseparate, eq_comm]
    | false => simp [hseparate, eq_comm]
  · obtain ⟨cause, hinvalid⟩ := splitWindows_of_not_separate hseparate
    rw [hinvalid]
    simp [hseparate]

/-- A buffer of sixteen bytes. -/
def sixteen (writable : Bool) : Guard := ⟨0, ⟨0, 0, 16⟩, writable, .destination, none⟩

/-- Within one buffer, windows side by side are handed on and windows that overlap are refused. An empty
window in the middle of another is no overlap, so what is missing there is permission to write. -/
theorem splitWindows_decides_sixteen :
    (sixteen true).capacity ≤ maxSize ∧ (sixteen false).capacity ≤ maxSize ∧
      splitWindows (sixteen true) ⟨0, 8⟩ (sixteen true) ⟨8, 8⟩ = .ok (⟨0, 0, 8⟩, ⟨0, 8, 8⟩) ∧
      (∃ cause, splitWindows (sixteen true) ⟨0, 8⟩ (sixteen true) ⟨4, 8⟩ = .error (.invalid cause)) ∧
      splitWindows (sixteen false) ⟨8, 0⟩ (sixteen false) ⟨0, 16⟩ =
        .error (.unavailable .destination) := by
  have hopen : (sixteen true).capacity ≤ maxSize := by decide
  have hsealed : (sixteen false).capacity ≤ maxSize := by decide
  have hadjacent : (sixteen true).Separate (sixteen true) ⟨0, 8⟩ ⟨8, 8⟩ :=
    ⟨by decide, by decide, Region.overlaps_eq_false_iff.mp rfl⟩
  have hinside : (sixteen false).Separate (sixteen false) ⟨8, 0⟩ ⟨0, 16⟩ :=
    ⟨by decide, by decide, Region.overlaps_eq_false_iff.mp rfl⟩
  have hnested : ¬ (sixteen true).Separate (sixteen true) ⟨0, 8⟩ ⟨4, 8⟩ := by
    intro h
    exact h.disjoint 0 4 ⟨rfl, by decide, by decide⟩ ⟨rfl, by decide, by decide⟩
  refine ⟨hopen, hsealed, ?_, ?_, ?_⟩
  · exact ((splitWindows_decides hopen hopen).1 _ _).mpr ⟨⟨hadjacent, rfl⟩, rfl, rfl⟩
  · exact (splitWindows_decides hopen hopen).2.1.mpr hnested
  · exact ((splitWindows_decides hsealed hsealed).2.2 .destination).mpr ⟨rfl, hinside, rfl⟩

end

end BufferBridge
