import BufferBridge.Bytes

/-! Machine words, and the ways in which a loop reaches into byte strings. A sum, a product or a
difference that is no word, a division by zero, and an access past the end are faults here. So where a
loop is written with these operations, that it has no fault says that all its numbers are words and all
its accesses stay inside. -/
namespace BufferBridge.Word

/-- The most bytes that a byte string in memory may have. -/
def maxLength : Nat := 0x7FFFFFFFFFFFFFFF

/-- What a loop must never do. -/
inductive Fault
  /-- To go past the largest word or below zero, or to shift out of a byte. -/
  | overflow
  | zeroDivisor
  /-- To reach for the bytes from `start` up to `stop` where there are only `length`. -/
  | outside (start stop length : Nat)
  /-- To copy `source` bytes over a place of `target`. -/
  | unequal (source target : Nat)
  /-- To take more turns than it may. -/
  | endless
  deriving Repr, DecidableEq

/-- A step without a fault hands its result on. -/
@[simp] theorem ok_bind {α β : Type} (value : α) (next : α → Except Fault β) :
    (Except.ok value >>= next) = next value :=
  rfl

/-! ## Arithmetic -/

def add (first second : Nat) : Except Fault Nat :=
  if first + second ≤ maxSize then .ok (first + second) else .error .overflow

def mul (first second : Nat) : Except Fault Nat :=
  if first * second ≤ maxSize then .ok (first * second) else .error .overflow

def sub (first second : Nat) : Except Fault Nat :=
  if second ≤ first then .ok (first - second) else .error .overflow

def div (first second : Nat) : Except Fault Nat :=
  if second = 0 then .error .zeroDivisor else .ok (first / second)

variable {first second : Nat}

theorem add_of_le (h : first + second ≤ maxSize) : add first second = .ok (first + second) := if_pos h

theorem mul_of_le (h : first * second ≤ maxSize) : mul first second = .ok (first * second) := if_pos h

theorem sub_of_le (h : second ≤ first) : sub first second = .ok (first - second) := if_pos h

theorem div_of_pos (h : 0 < second) : div first second = .ok (first / second) :=
  if_neg (Nat.ne_of_gt h)

/-! ## Byte strings -/

/-- The bytes from `start` up to `stop`. -/
def part (bytes : Bytes) (start stop : Nat) : Except Fault Bytes :=
  if start ≤ stop ∧ stop ≤ bytes.length then .ok (Bytes.slice bytes start (stop - start))
  else .error (.outside start stop bytes.length)

theorem part_of_le {bytes : Bytes} {start stop : Nat} (h : start ≤ stop) (hstop : stop ≤ bytes.length) :
    part bytes start stop = .ok (Bytes.slice bytes start (stop - start)) :=
  if_pos ⟨h, hstop⟩

/-- The parts of `size` bytes that follow one another; fewer bytes than that at the end are left out. -/
def chunks (bytes : Bytes) (size : Nat) : Except Fault (List Bytes) := do
  let count ← div bytes.length size
  return (List.range count).map fun i => Bytes.slice bytes (i * size) size

theorem chunks_of_pos (bytes : Bytes) {size : Nat} (h : 0 < size) :
    chunks bytes size =
      .ok ((List.range (bytes.length / size)).map fun i => Bytes.slice bytes (i * size) size) := by
  rw [chunks, div_of_pos h]
  rfl

/-- The byte at `position`. -/
def byte (bytes : Bytes) (position : Nat) : Except Fault UInt8 :=
  if h : position < bytes.length then .ok bytes[position]
  else .error (.outside position (position + 1) bytes.length)

theorem byte_of_lt {bytes : Bytes} {position : Nat} (h : position < bytes.length) :
    byte bytes position = .ok bytes[position] :=
  dif_pos h

/-- The bytes at `count` places one after another. -/
def bytesAt (bytes : Bytes) : (position count : Nat) → Except Fault Bytes
  | _, 0 => .ok []
  | position, count + 1 => do
    let first ← byte bytes position
    return first :: (← bytesAt bytes (position + 1) count)

theorem bytesAt_append (front back : Bytes) :
    bytesAt (front ++ back) front.length back.length = .ok back := by
  induction back generalizing front with
  | nil => rfl
  | cons first rest ih =>
    have hfirst : byte (front ++ first :: rest) front.length = .ok first := by
      rw [byte_of_lt (by simp), List.getElem_append_right (Nat.le_refl _)]
      simp
    have hrest := ih (front ++ [first])
    rw [List.append_assoc, List.length_append] at hrest
    rw [List.length_cons, bytesAt, hfirst, ok_bind]
    exact congrArg (· >>= fun rest => pure (first :: rest)) hrest

/-- The `count` bytes from `position` on, or none if there are fewer. -/
def part? (bytes : Bytes) (position count : Nat) : Except Fault (Option Bytes) := do
  let stop ← add position count
  return if stop ≤ bytes.length then some (Bytes.slice bytes position count) else none

/-- Cutting a part out at a place is cutting it off what stands there. -/
theorem part?_of_le {bytes : Bytes} {position count : Nat} (h : position + count ≤ maxSize)
    (hplace : position ≤ bytes.length) :
    part? bytes position count = .ok ((Bytes.split? count (bytes.drop position)).map Prod.fst) := by
  rw [part?, add_of_le h, ok_bind, Bytes.split?]
  by_cases hstop : position + count ≤ bytes.length
  · rw [if_pos hstop, if_pos (by rw [List.length_take, List.length_drop]; omega)]
    rfl
  · rw [if_neg hstop, if_neg (by rw [List.length_take, List.length_drop]; omega)]
    rfl

/-- Sets one bit of the byte at `position`. -/
def setBit (bytes : Bytes) (position bit : Nat) : Except Fault Bytes :=
  if h : position < bytes.length then
    if bit < 8 then .ok (bytes.set position (bytes[position] ||| 1 <<< UInt8.ofNat bit))
    else .error .overflow
  else .error (.outside position (position + 1) bytes.length)

/-! ## Loops -/

/-- Takes one step for each item of a list, the items being counted by a word. -/
def forEach {α σ : Type} (step : Nat → α → σ → Except Fault σ) :
    (index : Nat) → (items : List α) → σ → Except Fault σ
  | _, [], state => .ok state
  | index, item :: rest, state => do
    let next ← add index 1
    let state ← step index item state
    forEach step next rest state

end BufferBridge.Word
