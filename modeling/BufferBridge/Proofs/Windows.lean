import BufferBridge.Guard

/-!
# What the checks on arguments accept

Each check on a host integer, a window or a pair of windows accepts exactly the values described here,
and what it hands on is determined by them.
-/
namespace BufferBridge

/-- A computation in two steps succeeds just where both steps do. -/
theorem bind_eq_ok_iff {ε α β : Type} {result : Except ε α} {next : α → Except ε β} {value : β} :
    (result >>= next) = .ok value ↔ ∃ first, result = .ok first ∧ next first = .ok value := by
  cases result with
  | error failure =>
    constructor
    · intro h
      cases h
    · intro h
      obtain ⟨first, h, -⟩ := h
      cases h
  | ok first =>
    constructor
    · intro h
      exact ⟨first, rfl, h⟩
    · intro h
      obtain ⟨_, h, hnext⟩ := h
      cases h
      exact hnext

theorem bind_eq_error_iff {ε α β : Type} {result : Except ε α} {next : α → Except ε β} {failure : ε} :
    (result >>= next) = .error failure ↔
      result = .error failure ∨ ∃ value, result = .ok value ∧ next value = .error failure := by
  cases result with
  | error found =>
    change Except.error found = .error failure ↔ _
    simp
  | ok value =>
    change next value = .error failure ↔ _
    simp

/-- Putting a failure in other words changes nothing about a success. -/
theorem mapError_eq_ok_iff {ε ε' α : Type} {result : Except ε α} {f : ε → ε'} {value : α} :
    result.mapError f = .ok value ↔ result = .ok value := by
  cases result with
  | error failure =>
    change Except.error (f failure) = .ok value ↔ _
    simp
  | ok found =>
    change Except.ok found = .ok value ↔ _
    simp

theorem map_eq_ok_iff {ε α β : Type} {result : Except ε α} {f : α → β} {value : β} :
    f <$> result = .ok value ↔ ∃ first, result = .ok first ∧ f first = value := by
  cases result with
  | error failure =>
    change Except.error failure = .ok value ↔ _
    simp
  | ok found =>
    change Except.ok (f found) = .ok value ↔ _
    simp

theorem map_eq_error_iff {ε α β : Type} {result : Except ε α} {f : α → β} {failure : ε} :
    f <$> result = .error failure ↔ result = .error failure := by
  cases result with
  | error found =>
    change Except.error found = .error failure ↔ _
    simp
  | ok found =>
    change Except.ok (f found) = .error failure ↔ _
    simp

theorem nonNegative_eq_ok_iff {value : Int32} {what : String} {size : Nat} :
    nonNegative value what = .ok size ↔ value.toInt = size := by
  have hlt : value < 0 ↔ value.toInt < 0 := Int32.lt_iff_toInt_lt
  rw [nonNegative]
  split
  · rename_i hneg
    rw [hlt] at hneg
    constructor
    · intro h
      cases h
    · intro h
      omega
  · rename_i hneg
    rw [hlt] at hneg
    constructor
    · intro h
      cases h
      omega
    · intro h
      rw [h, Int.toNat_natCast]

/-- A size goes back to the host as the integer of that value. -/
theorem toHostInt_eq_ok_iff {size : Nat} {value : Int32} :
    toHostInt size = .ok value ↔ value.toInt = size := by
  rw [toHostInt]
  split
  · rename_i hsize
    have hvalue : (Int32.ofNat size).toInt = size :=
      Int32.toInt_ofNat_of_lt (Nat.lt_succ_of_le hsize)
    constructor
    · intro h
      cases h
      exact hvalue
    · intro h
      rw [← hvalue, Int32.toInt_inj] at h
      rw [h]
  · rename_i hsize
    have hlt : value.toInt < 2 ^ 31 := value.toInt_lt
    constructor
    · intro h
      cases h
    · intro h
      simp only [maxHostInt] at hsize
      omega

/-- A size that no integer of the host holds is refused, and named. -/
theorem toHostInt_eq_error_iff {size : Nat} {failure : Failure} :
    toHostInt size = .error failure ↔
      maxHostInt < size ∧ failure = .invalid (.resultTooWide size) := by
  rw [toHostInt]
  by_cases hsize : size ≤ maxHostInt
  · rw [if_pos hsize]
    simp [Nat.not_lt.mpr hsize]
  · rw [if_neg hsize]
    simp [Nat.not_le.mp hsize, eq_comm]

namespace Window

theorem stop_eq_ok_iff {window : Window} {position : Nat} :
    window.stop = .ok position ↔
      window.offset + window.length ≤ maxSize ∧ position = window.offset + window.length := by
  rw [stop]
  split
  · rename_i hsize
    rw [Except.ok.injEq, eq_comm]
    exact (and_iff_right hsize).symm
  · rename_i hsize
    constructor
    · intro h
      cases h
    · intro h
      exact absurd h.1 hsize

theorem checkWithin_eq_ok_iff {window : Window} {capacity : Nat} :
    window.checkWithin capacity = .ok () ↔
      window.offset + window.length ≤ maxSize ∧ window.offset + window.length ≤ capacity := by
  simp only [checkWithin, bind_eq_ok_iff, stop_eq_ok_iff]
  constructor
  · intro h
    obtain ⟨_, ⟨hsize, rfl⟩, h⟩ := h
    refine ⟨hsize, ?_⟩
    split at h
    · cases h
    · omega
  · intro h
    obtain ⟨hsize, hcapacity⟩ := h
    exact ⟨_, ⟨hsize, rfl⟩, if_neg (by omega)⟩

theorem ofHost_eq_ok_iff {offset length : Int32} {window : Window} :
    ofHost offset length = .ok window ↔
      offset.toInt = window.offset ∧ length.toInt = window.length := by
  simp only [ofHost, bind_eq_ok_iff, nonNegative_eq_ok_iff]
  constructor
  · intro h
    obtain ⟨first, hoffset, second, hlength, h⟩ := h
    cases h
    exact ⟨hoffset, hlength⟩
  · intro h
    obtain ⟨hoffset, hlength⟩ := h
    exact ⟨_, hoffset, _, hlength, rfl⟩

end Window

/-- An element size that a host asks for is the one that it gets. -/
theorem ElementSize.ofHost_eq_ok {width : Int32} {size : ElementSize} (h : ofHost width = .ok size) :
    width.toInt = size.bytes := by
  obtain ⟨bytes, hwidth, hsize⟩ := bind_eq_ok_iff.mp h
  rw [ofNat] at hsize
  split at hsize
  · cases hsize
    exact nonNegative_eq_ok_iff.mp hwidth
  · cases hsize

theorem ElementSize.ofHost_of_toInt {width : Int32} {size : ElementSize} (h : width.toInt = size.bytes) :
    ofHost width = .ok size := by
  refine bind_eq_ok_iff.mpr ⟨size.bytes, nonNegative_eq_ok_iff.mpr h, ?_⟩
  rw [ofNat, dif_pos size.bytes_pos]

section

variable {size : ElementSize} {length : Nat} {policy : RemainderPolicy}

/-- Whole elements are counted under either policy, and with a remainder under one of them. -/
theorem ElementSize.count_of_whole
    (h : policy = .truncate ∨ length / size.bytes * size.bytes = length) :
    size.count length policy = .ok (length / size.bytes) := by
  have hsplit := Nat.div_add_mod' length size.bytes
  rw [count, if_neg]
  rintro ⟨hrest, rfl⟩
  rcases h with h | h
  · cases h
  · omega

theorem ElementSize.count_of_partial (hpolicy : policy = .reject)
    (h : length / size.bytes * size.bytes ≠ length) :
    size.count length policy = .error (.invalid (.partialElement length size.bytes)) := by
  have hsplit := Nat.div_add_mod' length size.bytes
  rw [count, if_pos ⟨by omega, hpolicy⟩]

theorem ElementSize.eq_div_of_count_eq_ok {count : Nat} (h : size.count length policy = .ok count) :
    count = length / size.bytes := by
  rw [ElementSize.count] at h
  split at h
  · cases h
  · cases h
    rfl

end

namespace Guard

/-- The addresses of a window that lies inside the buffer. -/
theorem span_eq_ok_iff {guard : Guard} {window : Window} {region : Region} :
    guard.span window = .ok region ↔
      (window.offset + window.length ≤ maxSize ∧ window.offset + window.length ≤ guard.capacity) ∧
        region = guard.region.part window.offset window.length := by
  simp only [span, bind_eq_ok_iff, ← Window.checkWithin_eq_ok_iff]
  constructor
  · intro h
    obtain ⟨_, hcheck, h⟩ := h
    cases h
    exact ⟨hcheck, rfl⟩
  · intro h
    obtain ⟨hcheck, rfl⟩ := h
    exact ⟨_, hcheck, rfl⟩

theorem checkWritable_eq_ok_iff {guard : Guard} :
    guard.checkWritable = .ok () ↔ guard.writable = true := by
  rw [checkWritable]
  cases guard.writable <;> simp

end Guard

/-- Windows are handed on in pairs that lie inside their buffers and have no address in common, the
second of them writable. -/
theorem splitWindows_eq_ok_iff {src dst : Guard} {srcWindow dstWindow : Window}
    {input output : Region} :
    splitWindows src srcWindow dst dstWindow = .ok (input, output) ↔
      src.span srcWindow = .ok input ∧ dst.span dstWindow = .ok output ∧
        input.overlaps output = false ∧ dst.writable = true := by
  simp only [splitWindows, bind_eq_ok_iff, ← Guard.checkWritable_eq_ok_iff]
  constructor
  · intro h
    obtain ⟨first, hfirst, second, hsecond, h⟩ := h
    split at h
    · cases h
    · rename_i hoverlaps
      obtain ⟨_, hwritable, h⟩ := bind_eq_ok_iff.mp h
      cases h
      exact ⟨hfirst, hsecond, eq_false_of_ne_true hoverlaps, hwritable⟩
  · intro h
    obtain ⟨hinput, houtput, hoverlaps, hwritable⟩ := h
    refine ⟨input, hinput, output, houtput, ?_⟩
    rw [hoverlaps, hwritable]
    rfl

end BufferBridge
