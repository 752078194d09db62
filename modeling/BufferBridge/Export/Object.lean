import BufferBridge.Export.Ledger
import BufferBridge.Export.Span
import BufferBridge.Host

/-! The objects that a script holds. Some own a block of memory, some show a span of a block that
another object owns, and some have no bytes to show at all. -/
namespace BufferBridge.Export

inductive Object
  /-- No value. -/
  | none
  | flag (value : Bool)
  | integer (value : Int)
  /-- A number that is no integer. -/
  | real
  | text (value : String)
  | sequence
  | mapping
  /-- Bytes that never change. -/
  | frozen (block : Nat)
  /-- Bytes that may change, and grow while nothing else shows them. -/
  | growable (block : Nat)
  /-- Items of some width that may change. -/
  | items (block : Nat) (format : String) (width : Nat)
  /-- A view of a span. -/
  | view (span : Span)
  /-- A span of which the address is known as long as the object is there. -/
  | direct (span : Span)
  deriving Repr, DecidableEq

/-- Why an object does not hand out a span of unsigned bytes. -/
inductive Refusal
  /-- It has no bytes to show. -/
  | notExporter (type : String)
  /-- Its items are something else. -/
  | otherItems
  deriving Repr, DecidableEq

def Refusal.message : Refusal → String
  | notExporter type => "TypeError: a bytes-like object is required, not '" ++ type ++ "'"
  | otherItems => "BufferError: buffer contents are not compatible with u8"

namespace Object

def typeName : Object → String
  | none => "NoneType"
  | flag _ => "bool"
  | integer _ => "int"
  | real => "float"
  | text _ => "str"
  | sequence => "list"
  | mapping => "dict"
  | frozen _ => "bytes"
  | growable _ => "bytearray"
  | items .. => "array.array"
  | view _ => "memoryview"
  | direct _ => "DirectBuffer"

/-- The span that an object shows to others. -/
def span? (memory : Memory) : Object → Option Span
  | frozen block => some (.whole block (memory.block block).length 1 "B" false)
  | growable block => some (.whole block (memory.block block).length 1 "B" true)
  | items block format width =>
    some (.whole block (memory.block block).length width format true)
  | view span => some span
  | _ => Option.none

/-- Asks an object for a span of unsigned bytes. What it shows is exported before its items can be looked
at, and goes back if they are something else. -/
def acquire (memory : Memory) (exports : Ledger) (object : Object) : Except Refusal Span × Ledger :=
  match object.span? memory with
  | Option.none => (.error (.notExporter object.typeName), exports)
  | some span =>
    let exports := exports.take span.block
    if isUnsignedByte span.format then (.ok span, exports)
    else (.error .otherItems, exports.give span.block)

/-- Pins an object by an export of its bytes, which goes back if they do not follow each other. -/
def pin (memory : Memory) (exports : Ledger) (object : Object) : Option Span × Ledger :=
  match object.acquire memory exports with
  | (.error _, exports) => (Option.none, exports)
  | (.ok span, exports) =>
    if span.isContiguous then (some span, exports) else (Option.none, exports.give span.block)

/-- The span of unsigned bytes that an object hands out. -/
def lend (memory : Memory) (object : Object) : Except Refusal Span := (object.acquire memory {}).1

/-- The block that an object has exported for as long as it is there, because it shows a span of it. -/
def holds? : Object → Option Nat
  | view span => some span.block
  | direct span => some span.block
  | _ => Option.none

/-- The exports that are left when an object is gone. -/
def release (exports : Ledger) (object : Object) : Ledger :=
  match object.holds? with
  | some block => exports.give block
  | Option.none => exports

/-- An object as the buffer of a call: known by the block of which it shows a span, and pinned, where it
is not direct, by a span that it hands out. -/
def buffer (memory : Memory) (object : Object) : Buffer :=
  match object with
  | direct span => ⟨span.block, .direct, span.region, span.writable, true⟩
  | _ =>
    match object.lend memory with
    | .ok span => ⟨span.block, .heap, span.region, span.writable, span.isContiguous⟩
    | .error _ => ⟨memory.blocks.length, .heap, ⟨memory.blocks.length, 0, 0⟩, false, false⟩

/-- Why an object cannot be pinned, where that is told. -/
def refusal? (memory : Memory) (object : Object) : Option Refusal :=
  match object, object.lend memory with
  | direct _, _ => Option.none
  | _, .error refusal => some refusal
  | _, .ok _ => Option.none

/-- Whether an object can be pinned, or needs no pin. -/
def isReachable (memory : Memory) (object : Object) : Bool := (object.buffer memory).reachable

/-- The number of bytes of a direct object, as far as the host's integers go. -/
def directLength : Object → Int32
  | direct span => Int32.ofInt (min span.length maxHostInt)
  | _ => 0

end Object

end BufferBridge.Export
