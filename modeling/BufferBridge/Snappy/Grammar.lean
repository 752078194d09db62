import BufferBridge.Snappy.Element
import BufferBridge.Snappy.Header

/-! The Snappy block format as a grammar, with no word about how a block is read: in which forms a
length and an element may be written, and which elements may follow one another. The format leaves
more choice than the encoder uses. A length may have groups of zeros at its top, and a literal may
give its length in more bytes than it needs. -/
namespace BufferBridge.Snappy

/-- A number in groups of seven bits, lowest first. Every byte but the last has its top bit set. -/
inductive WrittenGroups : Nat → Bytes → Prop
  | last {low : Nat} : low < 128 → WrittenGroups low [UInt8.ofNat low]
  | more {low high : Nat} {bytes : Bytes} : low < 128 → WrittenGroups high bytes →
      WrittenGroups (low + 128 * high) (UInt8.ofNat (low + 128) :: bytes)

/-- Bytes that end with the first of them that has a clear top bit. -/
def Closed (bytes : Bytes) : Prop :=
  ∃ front last, bytes = front ++ [last] ∧ (∀ byte ∈ front, 128 ≤ byte.toNat) ∧ last.toNat < 128

/-- A length header: no more groups than are read, for a number of 64 bits that would do with 32. -/
structure WrittenHeader (reader : Reader) (n : Nat) (header : Bytes) : Prop where
  groups : ∃ whole, WrittenGroups whole header ∧ whole % wordValues = n
  length_le : header.length ≤ reader.headerLimit
  lt : n < 4294967296

/-- The forms of an element. The two lowest bits of the first byte, the tag, tell the class. -/
inductive Element.Written : Element → Bytes → Prop
  /-- A literal with the length below one in its tag. -/
  | shortLiteral {data : Bytes} : 0 < data.length → data.length ≤ 60 →
      Written (.literal data) (UInt8.ofNat (4 * (data.length - 1)) :: data)
  /-- A literal with the length below one in one to four bytes after the tag. -/
  | longLiteral {data : Bytes} {width : Nat} : 0 < data.length → 0 < width → width ≤ 4 →
      data.length ≤ Nat.pow 256 width →
      Written (.literal data) (UInt8.ofNat (4 * (59 + width)) ::
        (Bytes.ofNatLittleEndian width (data.length - 1) ++ data))
  /-- A copy of 4 to 11 bytes with an offset of 11 bits. The three highest of them are in the tag. -/
  | nearCopy {offset length : Nat} : offset < 2048 → 4 ≤ length → length ≤ 11 →
      Written (.copy offset length)
        [UInt8.ofNat (32 * (offset / 256) + 4 * (length - 4) + 1), UInt8.ofNat offset]
  /-- A copy of 1 to 64 bytes with an offset of two bytes. -/
  | farCopy {offset length : Nat} : offset < 65536 → 1 ≤ length → length ≤ 64 →
      Written (.copy offset length)
        (UInt8.ofNat (4 * (length - 1) + 2) :: Bytes.ofNatLittleEndian 2 offset)
  /-- A copy of 1 to 64 bytes with an offset of four bytes. -/
  | wideCopy {offset length : Nat} : offset < 4294967296 → 1 ≤ length → length ≤ 64 →
      Written (.copy offset length)
        (UInt8.ofNat (4 * (length - 1) + 3) :: Bytes.ofNatLittleEndian 4 offset)

/-- Elements as they follow one another in a block. -/
inductive WrittenElements : List Element → Bytes → Prop
  | nil : WrittenElements [] []
  | cons {element : Element} {elements : List Element} {front back : Bytes} :
      element.Written front → WrittenElements elements back →
      WrittenElements (element :: elements) (front ++ back)

/-- The number of bytes that some elements produce together. -/
def totalSize : List Element → Nat
  | [] => 0
  | element :: elements => element.size + totalSize elements

/-- Whether an element that comes after `produced` bytes of output copies from these only. -/
def Element.Reaches (produced : Nat) : Element → Prop
  | literal _ => True
  | copy offset _ => 1 ≤ offset ∧ offset ≤ produced

/-- Whether every copy among some elements reaches back into what was produced before it. -/
def InReach : Nat → List Element → Prop
  | _, [] => True
  | produced, element :: elements =>
    element.Reaches produced ∧ InReach (produced + element.size) elements

/-- The blocks of the format: a header and elements that produce just as many bytes as it says. -/
structure Formed (reader : Reader) (block : Bytes) : Prop where
  nonempty : block ≠ []
  splits : ∃ (header body : Bytes) (elements : List Element),
    block = header ++ body ∧ WrittenHeader reader (totalSize elements) header ∧
      WrittenElements elements body ∧ InReach 0 elements

/-- Whether a tag opens a literal with its length in bytes of its own. -/
def OpensLong (tag : UInt8) : Prop := tag.toNat % 4 = 0 ∧ 60 ≤ tag.toNat / 4

/-- Whether behind some elements there stands the tag of a literal with its length in bytes of its own,
and fewer bytes than `ahead` behind that. -/
def CrampedElements (ahead : Nat) (source : Bytes) : Prop :=
  ∃ (elements : List Element) (front : Bytes) (tag : UInt8) (rest : Bytes),
    source = front ++ tag :: rest ∧ WrittenElements elements front ∧ OpensLong tag ∧
      rest.length < ahead

/-- The blocks that are too short behind a literal for a reader that looks `ahead` bytes past its tag. -/
def Cramped (ahead : Nat) (block : Bytes) : Prop :=
  ∃ header body, block = header ++ body ∧ Closed header ∧ CrampedElements ahead body

end BufferBridge.Snappy
