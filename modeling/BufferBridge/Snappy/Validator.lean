import BufferBridge.Snappy.Header

/-! Checking a block without producing its output: the elements are skipped one after another and only
their lengths are added up, so that a header that promises gigabytes costs nothing. -/
namespace BufferBridge.Snappy

/-- What is known of an element that was skipped. -/
structure Skipped where
  /-- The number of bytes it would produce. -/
  length : Nat
  /-- How far back it reaches, if it is a copy. -/
  reach : Option Nat
  deriving Repr, DecidableEq

def skipData (length : Nat) (source : Bytes) : Option (Skipped × Bytes) :=
  (Bytes.split? length source).map fun (_, after) => (⟨length, none⟩, after)

/-- Skips the element that `tag` opens, where `source` is the input after the tag. -/
def skipElement (tag : UInt8) (source : Bytes) : Option (Skipped × Bytes) :=
  let code := tag.toNat / 4
  match tag.toNat % 4, source with
  | 0, source =>
    if code < 60 then skipData (code + 1) source
    else do
      let (digits, source) ← Bytes.split? (code - 59) source
      skipData (Bytes.littleEndian digits + 1) source
  | 1, low :: source => some (⟨4 + code % 8, some (code / 8 * 256 + low.toNat)⟩, source)
  | 2, first :: second :: source =>
    some (⟨code + 1, some (Bytes.littleEndian [first, second])⟩, source)
  | 3, first :: second :: third :: fourth :: source =>
    some (⟨code + 1, some (Bytes.littleEndian [first, second, third, fourth])⟩, source)
  | _, _ => none

theorem skipData_shortens {length : Nat} {source after : Bytes} {skipped : Skipped}
    (h : skipData length source = some (skipped, after)) : after.length ≤ source.length := by
  simp only [skipData, Option.map_eq_some_iff, Prod.mk.injEq, Prod.exists] at h
  obtain ⟨front, rest, hs, -, rfl⟩ := h
  rw [(Bytes.split?_eq_some hs).2]
  simp

theorem skipElement_shortens {tag : UInt8} {source after : Bytes} {skipped : Skipped}
    (h : skipElement tag source = some (skipped, after)) : after.length ≤ source.length := by
  unfold skipElement at h
  simp only at h
  split at h
  · split at h
    · exact skipData_shortens h
    · simp only [Option.bind_eq_bind, Option.bind_eq_some_iff, Prod.exists] at h
      obtain ⟨digits, rest, hs, hd⟩ := h
      have := skipData_shortens hd
      rw [(Bytes.split?_eq_some hs).2, List.length_append]
      omega
  all_goals simp_all only [Option.some.injEq, Prod.mk.injEq, List.length_cons, reduceCtorEq]
  all_goals omega

/-- The bytes produced after all elements of `source`, with `produced` before them. There is no answer
where an element is cut short, a copy reaches back to nowhere or before the start, or the total
passes `limit`. -/
def measure (limit produced : Nat) (source : Bytes) : Option Nat :=
  match source with
  | [] => some produced
  | tag :: rest =>
    match _h : skipElement tag rest with
    | none => none
    | some (skipped, after) =>
      if skipped.reach.any (fun reach => reach = 0 ∨ produced < reach) then none
      else if limit < produced + skipped.length then none
      else measure limit (produced + skipped.length) after
termination_by source.length
decreasing_by
  have := skipElement_shortens _h
  simp only [List.length_cons]
  omega

/-- The elements of a block: all that follows the first byte whose top bit is clear. -/
def bodyOf : Bytes → Option Bytes
  | [] => none
  | byte :: rest => if byte.toNat < 128 then some rest else bodyOf rest

/-- Whether the elements of a block fit together and produce exactly the declared length. -/
def isValid (reader : Reader) (block : Bytes) : Bool :=
  match declaredLength reader block, bodyOf block with
  | .ok declared, some body => measure declared 0 body == some declared
  | _, _ => false

end BufferBridge.Snappy
