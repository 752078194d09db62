/-! The 64-bit hash that a frame may end with, of which it records the lower half. Content is taken
eight bytes at a time: four lanes at once as long as there are 32 bytes, then one after the other. -/
namespace BufferBridge.Zstandard.Checksum

/-- The five odd constants that content is mixed with. -/
def p₁ : UInt64 := 0x9E3779B185EBCA87
@[inherit_doc p₁] def p₂ : UInt64 := 0xC2B2AE3D27D4EB4F
@[inherit_doc p₁] def p₃ : UInt64 := 0x165667B19E3779F9
@[inherit_doc p₁] def p₄ : UInt64 := 0x85EBCA77C2B2AE63
@[inherit_doc p₁] def p₅ : UInt64 := 0x27D4EB2F165667C5

/-- Turns a word to the left. -/
def rotate (word : UInt64) (bits : UInt64) : UInt64 := word <<< bits ||| word >>> (64 - bits)

/-- Takes a word into a lane. -/
def mix (lane word : UInt64) : UInt64 := rotate (lane + word * p₂) 31 * p₁

/-- Takes a lane into the hash. -/
def merge (hash lane : UInt64) : UInt64 := (hash ^^^ mix 0 lane) * p₁ + p₄

/-- The `width` bytes from a position on, the first as the lowest. -/
def word (content : Array UInt8) (position : Nat) : (width : Nat) → UInt64
  | 0 => 0
  | width + 1 =>
    (content.getD position 0).toUInt64 + 256 * word content (position + 1) width

/-- The four lanes after a number of groups of 32 bytes. -/
def lanes (content : Array UInt8) (groups : Nat) : UInt64 × UInt64 × UInt64 × UInt64 :=
  groups.fold (fun i _ (a, b, c, d) =>
    (mix a (word content (32 * i) 8), mix b (word content (32 * i + 8) 8),
      mix c (word content (32 * i + 16) 8), mix d (word content (32 * i + 24) 8)))
    (p₁ + p₂, p₂, 0, 0 - p₁)

/-- The hash after the whole groups, and with the length of the content. -/
def start (content : Array UInt8) : UInt64 :=
  let groups := content.size / 32
  let (a, b, c, d) := lanes content groups
  let hash :=
    if groups = 0 then p₅
    else merge (merge (merge (merge (rotate a 1 + rotate b 7 + rotate c 12 + rotate d 18) a) b) c) d
  hash + UInt64.ofNat content.size

/-- Takes eight bytes, four, or one into the hash. -/
def mixLong (hash word : UInt64) : UInt64 := rotate (hash ^^^ mix 0 word) 27 * p₁ + p₄
@[inherit_doc mixLong]
def mixHalf (hash word : UInt64) : UInt64 := rotate (hash ^^^ word * p₁) 23 * p₂ + p₃
@[inherit_doc mixLong]
def mixByte (hash word : UInt64) : UInt64 := rotate (hash ^^^ word * p₅) 11 * p₁

/-- The last step, which lets every bit of the hash depend on all of it. -/
def finish (hash : UInt64) : UInt64 :=
  let hash := (hash ^^^ hash >>> 33) * p₂
  let hash := (hash ^^^ hash >>> 29) * p₃
  hash ^^^ hash >>> 32

/-- The hash of content. -/
def hash (content : Array UInt8) : UInt64 :=
  let grouped := content.size / 32 * 32
  let rest := content.size % 32
  let half := grouped + rest / 8 * 8
  let bytes := half + rest % 8 / 4 * 4
  let hash := (rest / 8).fold (fun i _ hash => mixLong hash (word content (grouped + 8 * i) 8))
    (start content)
  let hash := (rest % 8 / 4).fold (fun _ _ hash => mixHalf hash (word content half 4)) hash
  let hash := (rest % 4).fold (fun i _ hash => mixByte hash (word content (bytes + i) 1)) hash
  finish hash

/-- The checksum that a frame records for its content. -/
def ofContent (content : Array UInt8) : Nat := (hash content).toNat % 0x100000000

end BufferBridge.Zstandard.Checksum
