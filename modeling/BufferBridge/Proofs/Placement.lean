import BufferBridge.Proofs.Effects
import BufferBridge.Proofs.Memory
import BufferBridge.Proofs.Windows

/-!
# Where an operation may put its result

Two windows are carved out of borrowed buffers exactly where the first lies inside its buffer and the
second buffer takes the second one: the window lies inside it, may be written, and has no address in
common with the first.
-/
namespace BufferBridge

/-- A buffer takes into a window what is made of the bytes of a region. -/
structure Buffer.Takes (output : Buffer) (target : Window) (source : Region) : Prop where
  within : target.offset + target.length ≤ output.region.length
  writable : output.writable = true
  disjoint : ∀ block position, source.Covers block position →
    ¬ (output.region.part target.offset target.length).Covers block position

theorem Region.overlaps_eq_false_iff {first second : Region} :
    first.overlaps second = false ↔
      ∀ block position, first.Covers block position → ¬ second.Covers block position := by
  rw [← Bool.not_eq_true, overlaps_eq_true_iff]
  constructor
  · intro h block position hfirst hsecond
    exact h ⟨block, position, hfirst, hsecond⟩
  · intro h hboth
    obtain ⟨block, position, hfirst, hsecond⟩ := hboth
    exact h block position hfirst hsecond

/-- A window of one buffer and a window of another that pass the checks of an operation that is to write
the second one. -/
structure Carvable (input output : Buffer) (window target : Window) : Prop where
  window_size : window.offset + window.length ≤ maxSize
  window_within : window.offset + window.length ≤ input.region.length
  target_size : target.offset + target.length ≤ maxSize
  takes : output.Takes target (input.region.part window.offset window.length)

/-- A window of one buffer and as many bytes of another from an offset on that pass the checks of a copy.
The two may share bytes where that is allowed. -/
structure Copyable (input output : Buffer) (window : Window) (offset : Nat) (allowOverlap : Bool) :
    Prop where
  writable : output.writable = true
  window_within : window.offset + window.length ≤ input.region.length
  target_within : offset + window.length ≤ output.region.length
  apart : allowOverlap = true ∨
    ∀ block position, (input.region.part window.offset window.length).Covers block position →
      ¬ (output.region.part offset window.length).Covers block position

variable {input output : Buffer} {src dst : Guard} {window target : Window} {role role' : Role}
variable {source destination : Region}

theorem splitWindows_eq_ok_iff_carvable (hsrc : src.Holds input role) (hdst : dst.Holds output role') :
    splitWindows src window dst target = .ok (source, destination) ↔
      Carvable input output window target ∧
        source = input.region.part window.offset window.length ∧
        destination = output.region.part target.offset target.length := by
  rw [splitWindows_eq_ok_iff, Guard.span_eq_ok_iff, Guard.span_eq_ok_iff, Guard.capacity,
    Guard.capacity, hsrc.region, hdst.region, hdst.writable, Region.overlaps_eq_false_iff]
  constructor
  · intro h
    obtain ⟨⟨⟨hsize, hwithin⟩, rfl⟩, ⟨⟨hsize', hwithin'⟩, rfl⟩, hdisjoint, hwritable⟩ := h
    exact ⟨⟨hsize, hwithin, hsize', hwithin', hwritable, hdisjoint⟩, rfl, rfl⟩
  · intro h
    obtain ⟨⟨hsize, hwithin, hsize', htakes⟩, rfl, rfl⟩ := h
    exact ⟨⟨⟨hsize, hwithin⟩, rfl⟩, ⟨⟨hsize', htakes.within⟩, rfl⟩, htakes.disjoint, htakes.writable⟩

/-- No window of a buffer whose size is a machine word is longer than that. -/
theorem splitWindows_eq_ok_iff_takes (hsrc : src.Holds input role) (hdst : dst.Holds output role')
    (hinput : input.region.length ≤ maxSize) (houtput : output.region.length ≤ maxSize) :
    splitWindows src window dst target = .ok (source, destination) ↔
      (window.offset + window.length ≤ input.region.length ∧ output.Takes target source) ∧
        source = input.region.part window.offset window.length ∧
        destination = output.region.part target.offset target.length := by
  rw [splitWindows_eq_ok_iff_carvable hsrc hdst]
  constructor
  · intro h
    obtain ⟨hcarvable, rfl, rfl⟩ := h
    exact ⟨⟨hcarvable.window_within, hcarvable.takes⟩, rfl, rfl⟩
  · intro h
    obtain ⟨⟨hwithin, htakes⟩, rfl, rfl⟩ := h
    exact ⟨⟨Nat.le_trans hwithin hinput, hwithin, Nat.le_trans htakes.within houtput, htakes⟩, rfl, rfl⟩

end BufferBridge
