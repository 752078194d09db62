import BufferBridge.Snappy.Validator
import BufferBridge.Words

/-! Skipping the elements of a block by a loop over machine words. A cursor goes through the block, and one
turn of the loop moves it on in several places, by as much as the bytes before it say. The walk gives up,
without an answer, where `measure` has none. -/
namespace BufferBridge.Snappy

/-- Where a walk stands. -/
structure Cursor where
  /-- The number of bytes that were passed. -/
  position : Nat
  /-- The number of bytes that the elements passed would produce. -/
  produced : Nat
  deriving Repr, DecidableEq

namespace Walk

/-- A stretch of a walk, which may give up. -/
abbrev Stretch := OptionT (Except Word.Fault)

/-- The number that some bytes stand for, the last one as the highest. -/
def number (bytes : Bytes) : UInt64 :=
  bytes.reverse.foldl (fun high byte => high <<< 8 ||| byte.toUInt64) 0

/-- The length of a literal and the place where its data start: the tag holds the length, or tells how
many of the next bytes do. -/
def literalLength (body : Bytes) (tag : UInt8) (position : Nat) : Stretch (Nat × Nat) := do
  let code := (tag >>> 2).toNat
  if code < 60 then return (← Word.add code 1, position)
  else
    let extra ← Word.sub code 59
    let digits ← OptionT.mk (Word.part? body position extra)
    let position ← Word.add position extra
    return (← Word.add (number digits).toNat 1, position)

/-- The data of a literal, with the place where they end. -/
def literalData (body : Bytes) (length position : Nat) : Stretch (Skipped × Nat) := do
  let left ← Word.sub body.length position
  if left < length then failure
  else return (⟨length, none⟩, ← Word.add position length)

/-- A literal, from the first byte after its tag on. -/
def literal (body : Bytes) (tag : UInt8) (position : Nat) : Stretch (Skipped × Nat) := do
  let (length, position) ← literalLength body tag position
  literalData body length position

/-- A copy of 4 to 11 bytes. Its offset is in one byte and in the top of the tag. -/
def nearCopy (body : Bytes) (tag : UInt8) (position : Nat) : Stretch (Skipped × Nat) := do
  if position < body.length then
    let low ← Word.byte body position
    let position ← Word.add position 1
    let length ← Word.add 4 (tag >>> 2 &&& 0b111).toNat
    return (⟨length, some ((tag >>> 5).toNat <<< 8 ||| low.toNat)⟩, position)
  else failure

/-- A copy of 1 to 64 bytes with an offset of `width` bytes. -/
def wideCopy (width : Nat) (body : Bytes) (tag : UInt8) (position : Nat) : Stretch (Skipped × Nat) := do
  let digits ← OptionT.mk (Word.part? body position width)
  let position ← Word.add position width
  let offset ← Word.bytesAt digits 0 width
  let length ← Word.add (tag >>> 2).toNat 1
  return (⟨length, some (Bytes.littleEndian offset)⟩, position)

/-- The element that `tag` opens, with the place where it ends. -/
def element (body : Bytes) (tag : UInt8) (position : Nat) : Stretch (Skipped × Nat) :=
  match (tag &&& 0b11).toNat with
  | 0 => literal body tag position
  | 1 => nearCopy body tag position
  | 2 => wideCopy 2 body tag position
  | _ => wideCopy 4 body tag position

/-- A sum of words, if it is one and not above `limit`. -/
def addWithin (limit first second : Nat) : Option Nat :=
  if first + second ≤ maxSize ∧ first + second ≤ limit then some (first + second) else none

/-- One turn of the loop. -/
def step (body : Bytes) (limit : Nat) (cursor : Cursor) : Stretch Cursor := do
  let tag ← Word.byte body cursor.position
  let position ← Word.add cursor.position 1
  let (skipped, position) ← element body tag position
  if skipped.reach.any (fun reach => reach = 0 ∨ cursor.produced < reach) then failure
  else
    let produced ← OptionT.mk (.ok (addWithin limit cursor.produced skipped.length))
    return ⟨position, produced⟩

/-- The loop, in no more than `turns` turns. -/
def steps (body : Bytes) (limit : Nat) : (turns : Nat) → Cursor → Stretch Nat
  | 0, cursor =>
    if cursor.position < body.length then OptionT.lift (.error Word.Fault.endless)
    else return cursor.produced
  | turns + 1, cursor => do
    if cursor.position < body.length then steps body limit turns (← step body limit cursor)
    else return cursor.produced

end Walk

/-- The number of bytes that all elements of a block produce, in as many turns as the block has bytes. -/
def walk (body : Bytes) (limit : Nat) : Except Word.Fault (Option Nat) :=
  (Walk.steps body limit body.length ⟨0, 0⟩).run

end BufferBridge.Snappy
