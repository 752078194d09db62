import BufferBridge.Snappy.Fault
import BufferBridge.Snappy.Reader

/-! The length header of a Snappy block: the uncompressed length in groups of seven bits, lowest
first, with the top bit set on every byte but the last. -/
namespace BufferBridge.Snappy

/-- A length as a header. -/
def encodeLength (n : Nat) : Bytes :=
  if n < 128 then [UInt8.ofNat n] else UInt8.ofNat (n % 128 + 128) :: encodeLength (n / 128)

/-- The number at the front of `bytes`, if it ends within the first `limit` bytes, and what follows
it. Groups of zeros at the top are let through. -/
def readGroups : (limit : Nat) → (bytes : Bytes) → Option (Nat × Bytes)
  | 0, _ => none
  | _ + 1, [] => none
  | limit + 1, byte :: rest =>
    if byte.toNat < 128 then some (byte.toNat, rest)
    else (readGroups limit rest).map fun (high, after) => (byte.toNat - 128 + 128 * high, after)

/-- The number of values of 64 bits. Groups that lie above these are read, but not counted. -/
def wordValues : Nat := 18446744073709551616

/-- The declared length and the elements after the header. -/
def readHeader (reader : Reader) (block : Bytes) : Except Fault (Nat × Bytes) :=
  match readGroups reader.headerLimit block with
  | none => .error .badHeader
  | some (groups, body) =>
    let declared := groups % wordValues
    if maxInputLength < declared then .error (.tooLarge declared) else .ok (declared, body)

/-- The length that a block declares. Nothing at all counts as a block of length zero. -/
def declaredLength (reader : Reader) (block : Bytes) : Except Fault Nat :=
  if block.isEmpty then .ok 0 else (readHeader reader block).map Prod.fst

end BufferBridge.Snappy
