/-! Byte strings and the few operations every other module shares: cutting a slice out, laying
bytes over a place, padding to a size, and reading little-endian numbers. Byte strings are lists,
so that statements about them are statements about lists. -/
namespace BufferBridge

abbrev Bytes := List UInt8

/-- The largest size or offset the host's machine words can hold. -/
def maxSize : Nat := 0xFFFFFFFFFFFFFFFF

/-- The largest of the host's signed integers. -/
def maxHostInt : Nat := 0x7FFFFFFF

/-- An integer as one of the host's, if it is in their range. -/
def hostInt? (value : Int) : Option Int32 :=
  if -maxHostInt - 1 ≤ value ∧ value ≤ maxHostInt then some (Int32.ofInt value) else none

namespace Bytes

/-- The `length` bytes from position `start` on, fewer where the string ends earlier. -/
def slice (bytes : Bytes) (start length : Nat) : Bytes :=
  (bytes.drop start).take length

/-- `bytes` with `patch` laid over it from position `start` on. What of the patch would stand past
the end is cut off, so the length never changes. -/
def overlay (bytes : Bytes) (start : Nat) (patch : Bytes) : Bytes :=
  bytes.take start ++ patch.take (bytes.length - start) ++ bytes.drop (start + patch.length)

/-- The first `size` bytes of `bytes` followed by as many zeros as are missing. -/
def fit (size : Nat) (bytes : Bytes) : Bytes :=
  bytes.take size ++ List.replicate (size - bytes.length) 0

/-- The first `n` bytes and what follows them, if there are that many. -/
def split? (n : Nat) (bytes : Bytes) : Option (Bytes × Bytes) :=
  let front := bytes.take n
  if front.length = n then some (front, bytes.drop n) else none

/-- The number whose base 256 digits, lowest first, are `bytes`. -/
def littleEndian : Bytes → Nat
  | [] => 0
  | byte :: rest => byte.toNat + 256 * littleEndian rest

/-- The `width` lowest base 256 digits of a number, lowest first. -/
def ofNatLittleEndian : (width : Nat) → Nat → Bytes
  | 0, _ => []
  | width + 1, n => UInt8.ofNat n :: ofNatLittleEndian width (n / 256)

/-- `output` followed by `length` bytes, each equal to the one `offset` bytes before it, so that the
bytes appended first may serve as source for those appended later. -/
def copyBack (offset : Nat) : (length : Nat) → (output : Array UInt8) → Array UInt8
  | 0, output => output
  | length + 1, output =>
    copyBack offset length (output.push (output.getD (output.size - offset) 0))

@[simp] theorem length_overlay (bytes : Bytes) (start : Nat) (patch : Bytes) :
    (overlay bytes start patch).length = bytes.length := by
  simp only [overlay, List.length_append, List.length_take, List.length_drop]
  omega

@[simp] theorem length_fit (size : Nat) (bytes : Bytes) : (fit size bytes).length = size := by
  simp only [fit, List.length_append, List.length_take, List.length_replicate]
  omega

theorem fit_of_length {size : Nat} {bytes : Bytes} (h : bytes.length = size) :
    fit size bytes = bytes := by
  simp [fit, ← h]

@[simp] theorem length_ofNatLittleEndian (width n : Nat) :
    (ofNatLittleEndian width n).length = width := by
  induction width generalizing n with
  | zero => rfl
  | succ width ih => simp [ofNatLittleEndian, ih]

theorem split?_eq_some {n : Nat} {bytes front after : Bytes}
    (h : split? n bytes = some (front, after)) : front.length = n ∧ bytes = front ++ after := by
  simp only [split?] at h
  split at h
  · rename_i hlen
    simp only [Option.some.injEq, Prod.mk.injEq] at h
    obtain ⟨rfl, rfl⟩ := h
    exact ⟨hlen, (List.take_append_drop n bytes).symm⟩
  · simp at h

theorem split?_append (front after : Bytes) :
    split? front.length (front ++ after) = some (front, after) := by
  simp [split?]

end Bytes

end BufferBridge
