import BufferBridge.Zstandard.Frame

/-! Compressing into a frame. How the library that does this searches for what repeats is its own
affair, and no answer but the frame itself depends on it, so it is a parameter here, with the one thing
that is used of it. The encoder that is there to be run writes one frame that records the size of its
content; a block in which all bytes are equal holds one of them, any other block its content as it is. -/
namespace BufferBridge.Zstandard

/-- The most room that the compressed form of `length` bytes takes. From a length on at which that
number would not fit a machine word, it is the largest multiple of eight below that, less 64. -/
def maxCompressedLength (length : Nat) : Nat :=
  if 0xFF00FF00FF00FF00 ≤ length then 0xFFFFFFFFFFFFFFB8
  else length + length / 256 + (128 * 1024 - length) / 2048

/-- What compresses into frames. -/
structure Encoder where
  /-- Compresses some content at a level into an output with so much room: the bytes that are then at the
  front of the output, and the length of the frame. -/
  compress : (level : Int32) → (content : Bytes) → (room : Nat) → Bytes × Except Fault Nat
  /-- A frame lies within the output, and all of it was written. -/
  fills : ∀ {level : Int32} {content : Bytes} {room length : Nat},
    (compress level content room).2 = .ok length →
      length ≤ room ∧ length ≤ (compress level content room).1.length

/-- The header of a frame with so much content: the descriptor and the content size, in as few bytes as
hold it. -/
def frameHeader (size : Nat) : Bytes :=
  FrameHeader.magic ++
    if size < 256 then 0x20 :: Bytes.ofNatLittleEndian 1 size
    else if size < 65536 + 256 then 0x60 :: Bytes.ofNatLittleEndian 2 (size - 256)
    else if size ≤ 0xFFFFFFFF then 0xA0 :: Bytes.ofNatLittleEndian 4 size
    else 0xE0 :: Bytes.ofNatLittleEndian 8 size

/-- A block with its header. -/
def block (last : Bool) (content : Bytes) : Bytes :=
  let start := 8 * content.length + if last then 1 else 0
  match content with
  | byte :: rest =>
    if rest.all (· = byte) then Bytes.ofNatLittleEndian 3 (start + 2) ++ [byte]
    else Bytes.ofNatLittleEndian 3 start ++ content
  | [] => Bytes.ofNatLittleEndian 3 start

/-- The blocks for some content, each as large as is allowed. -/
def blocks (content : Bytes) : Bytes :=
  if content.length ≤ 128 * 1024 then block true content
  else block false (content.take (128 * 1024)) ++ blocks (content.drop (128 * 1024))
termination_by content.length
decreasing_by simp only [List.length_drop]; omega

/-- The frame for some content. -/
def frame (content : Bytes) : Bytes := frameHeader content.length ++ blocks content

/-- The least room that is accepted for a frame: the largest header has to fit. -/
def leastRoom : Nat := 18

/-- Compresses `content` into an output with so much room. -/
def compress (content : Bytes) (room : Nat) : Bytes × Except Fault Nat :=
  let result := frame content
  if room < leastRoom ∨ room < result.length then ([], .error .outputTooSmall)
  else (result, .ok result.length)

theorem compress_fills {content : Bytes} {room length : Nat}
    (h : (compress content room).2 = .ok length) :
    length ≤ room ∧ length ≤ (compress content room).1.length := by
  simp only [compress] at h ⊢
  split at h
  · cases h
  · rename_i hroom
    cases h
    rw [if_neg hroom]
    exact ⟨by omega, Nat.le_refl _⟩

/-- The encoder that stores what it does not find to be one byte over and over. It has no levels. -/
def Encoder.plain : Encoder where
  compress _ := Zstandard.compress
  fills := compress_fills

end BufferBridge.Zstandard
