import BufferBridge.Bytes

/-! The elements of a Snappy block: literal bytes and copies of what was produced before, what they
append to an output, and how they are written. -/
namespace BufferBridge.Snappy

/-- One step of producing output. -/
inductive Element
  /-- Bytes to append as they stand. -/
  | literal (data : Bytes)
  /-- A run of bytes that starts `offset` bytes back, where it may run into itself. -/
  | copy (offset length : Nat)
  deriving Repr, DecidableEq

namespace Element

/-- The number of bytes that an element produces. -/
def size : Element → Nat
  | literal data => data.length
  | copy _ length => length

def appendTo (output : Array UInt8) : Element → Array UInt8
  | literal data => output ++ data
  | copy offset length => Bytes.copyBack offset length output

/-- A literal as written: the length below the data, in the tag itself up to 60 and in one or two
bytes after it above that. -/
def encodeLiteral (data : Bytes) : Bytes :=
  let n := data.length - 1
  if n < 60 then UInt8.ofNat (n * 4) :: data
  else if n < 256 then 0xF0 :: UInt8.ofNat n :: data
  else 0xF4 :: (Bytes.ofNatLittleEndian 2 n ++ data)

/-- A copy of 4 to 11 bytes from less than 2048 bytes back, in two bytes. -/
def encodeNearCopy (offset length : Nat) : Bytes :=
  [UInt8.ofNat (offset / 256 * 32 + (length - 4) * 4 + 1), UInt8.ofNat offset]

/-- A copy of 1 to 64 bytes from less than 65536 bytes back, in three bytes. -/
def encodeFarCopy (offset length : Nat) : Bytes :=
  UInt8.ofNat ((length - 1) * 4 + 2) :: Bytes.ofNatLittleEndian 2 offset

/-- A copy of any length from 4 on as written: cut into parts of at most 64 bytes, so that every
part has at least four. -/
def encodeCopy (offset length : Nat) : Bytes :=
  if 68 ≤ length then encodeFarCopy offset 64 ++ encodeCopy offset (length - 64)
  -- a part of 64 would leave less than the four bytes that a copy has to have
  else if 64 < length then encodeFarCopy offset 60 ++ encodeCopy offset (length - 60)
  else if length ≤ 11 ∧ offset < 2048 then encodeNearCopy offset length
  else encodeFarCopy offset length
termination_by length

def encode : Element → Bytes
  | literal data => encodeLiteral data
  | copy offset length => encodeCopy offset length

end Element

end BufferBridge.Snappy
