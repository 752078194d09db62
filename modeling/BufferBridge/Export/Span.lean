import BufferBridge.Memory

/-! Items in memory as an object shows them to others: where the first one is, how many there are, how
far apart they stand and what each of them is. Slices and casts give other spans of the same block. -/
namespace BufferBridge.Export

/-- What a span cannot be made of. -/
inductive SpanFault
  /-- A slice that takes no steps. -/
  | zeroStep
  /-- A cast of items that do not follow each other directly. -/
  | scattered
  /-- A cast to a format that is not one letter. -/
  | unknownFormat
  /-- A cast where neither format is one of bytes. -/
  | noBytes
  /-- A cast to items that would not end where the span does. -/
  | notWhole
  deriving Repr, DecidableEq

/-- The letter of a format, which may follow the mark of the machine's own sizes. -/
def formatLetter? (format : String) : Option Char :=
  match format.toList with
  | [letter] => some letter
  | ['@', letter] => some letter
  | _ => none

/-- The number of bytes of an item with a format. -/
def itemWidth? (format : String) : Option Nat :=
  (formatLetter? format).bind fun letter =>
    if "cbB?".toList.contains letter then some 1
    else if "hH".toList.contains letter then some 2
    else if "iIf".toList.contains letter then some 4
    else if "lLqQnNPd".toList.contains letter then some 8
    else none

/-- Whether items with a format are bytes, of whatever sign. -/
def isByteFormat (format : String) : Bool :=
  (formatLetter? format).any fun letter => "bBc".toList.contains letter

/-- Whether items with a format are bytes without a sign. -/
def isUnsignedByte (format : String) : Bool :=
  (formatLetter? format).any fun letter => "Bc".toList.contains letter

/-- Items in a block of memory. -/
structure Span where
  block : Nat
  /-- The position of the first item. -/
  start : Int
  count : Nat
  /-- The number of bytes from the start of an item to that of the next. -/
  stride : Int
  width : Nat
  format : String
  writable : Bool
  deriving Repr, DecidableEq

namespace Span

/-- A whole block as items that follow each other. -/
def whole (block length width : Nat) (format : String) (writable : Bool) : Span :=
  ⟨block, 0, length / width, width, width, format, writable⟩

def length (span : Span) : Nat := span.count * span.width

/-- Whether the items follow each other directly, which up to one item always do. -/
def isContiguous (span : Span) : Bool := span.count ≤ 1 || span.stride = span.width

/-- The addresses of items that follow each other directly. -/
def region (span : Span) : Region := ⟨span.block, span.start.toNat, span.length⟩

/-- Which items to take: from one, up to another, in steps. -/
structure Slice where
  start : Option Int
  stop : Option Int
  step : Option Int
  deriving Repr, DecidableEq

/-- An end of a slice among `count` items: counted from the end where it is negative, and moved to the
nearest place that steps in the given direction may start from or stop at. -/
def Slice.clamp (count : Nat) (forward : Bool) (place : Int) : Int :=
  let low : Int := if forward then 0 else -1
  let high : Int := if forward then count else count - 1
  if place < 0 then max low (place + count) else min high place

/-- The items that a slice takes. -/
def slice (slice : Slice) (span : Span) : Except SpanFault Span :=
  let step := slice.step.getD 1
  if step = 0 then .error .zeroStep
  else
    let forward : Bool := 0 < step
    let first : Int := if forward then 0 else span.count - 1
    let last : Int := if forward then span.count else -1
    let start := slice.start.elim first (Slice.clamp span.count forward)
    let stop := slice.stop.elim last (Slice.clamp span.count forward)
    -- a last step that goes past the stop still counts, as it starts before it
    let way := if forward then stop - start else start - stop
    let count := if way ≤ 0 then 0 else (way - 1) / step.natAbs + 1
    .ok { span with
      start := span.start + span.stride * start, count := count.toNat, stride := span.stride * step }

/-- The bytes of the items as items with another format. -/
def cast (format : String) (span : Span) : Except SpanFault Span :=
  if span.count ≠ 1 ∧ span.stride ≠ span.width then .error .scattered
  else
    match itemWidth? format with
    | none => .error .unknownFormat
    | some width =>
      if !isByteFormat span.format && !isByteFormat format then .error .noBytes
      else if span.length % width ≠ 0 then .error .notWhole
      else .ok { span with count := span.length / width, stride := width, width, format }

end Span

end BufferBridge.Export
