import BufferBridge.Zstandard.Block
import BufferBridge.Zstandard.Checksum

/-! Frames: their headers, frames that are there to be skipped, and the decompression of an input
that is made of frames into an output with limited room. -/
namespace BufferBridge.Zstandard

/-- What the byte after the magic number tells of the rest of a frame header. -/
structure Descriptor where
  /-- Whether the window is as large as the content and no window size is given. -/
  single : Bool
  /-- Whether a bit is set that has to be zero. -/
  reserved : Bool
  /-- Whether a checksum follows the blocks. -/
  checksum : Bool
  /-- The number of bytes of the dictionary's number. -/
  dictionaryWidth : Nat
  /-- The number of bytes of the content size. -/
  sizeWidth : Nat
  deriving Repr, DecidableEq

namespace Descriptor

/-- The descriptor that a byte stands for. -/
def ofByte (byte : UInt8) : Descriptor :=
  let single := byte.toNat / 32 % 2 = 1
  { single
    reserved := byte.toNat / 8 % 2 = 1
    checksum := byte.toNat / 4 % 2 = 1
    dictionaryWidth := match byte.toNat % 4 with
      | 0 => 0
      | 1 => 1
      | 2 => 2
      | _ => 4
    sizeWidth := match byte.toNat / 64 with
      | 0 => if single then 1 else 0
      | 1 => 2
      | 2 => 4
      | _ => 8 }

/-- The number of bytes of the window size. -/
def windowWidth (descriptor : Descriptor) : Nat := if descriptor.single then 0 else 1

/-- The number of header bytes after the descriptor. -/
def fieldsLength (descriptor : Descriptor) : Nat :=
  descriptor.windowWidth + descriptor.dictionaryWidth + descriptor.sizeWidth

end Descriptor

/-- The header of a frame. -/
structure FrameHeader where
  /-- How far back the content may refer. -/
  window : Nat
  /-- The number of the dictionary that the frame was made with, zero for none. -/
  dictionary : Nat
  /-- The recorded size of the content. -/
  contentSize : Option Nat
  /-- Whether a checksum follows the blocks. -/
  checksum : Bool
  deriving Repr, DecidableEq

namespace FrameHeader

/-- What every frame starts with. -/
def magic : Bytes := [0x28, 0xB5, 0x2F, 0xFD]

/-- The size that a window byte stands for: a power of two, and some eighths of it. -/
def windowSize (byte : UInt8) : Nat :=
  Nat.pow 2 (byte.toNat / 8 + 10) + Nat.pow 2 (byte.toNat / 8 + 7) * (byte.toNat % 8)

/-- The content size that a field stands for. Two bytes count from 256 on, which one byte cannot
hold; the largest number of eight bytes says that the size is unknown. -/
def recordedSize (field : Bytes) : Option Nat :=
  match field.length with
  | 0 => none
  | 2 => some (Bytes.littleEndian field + 256)
  | _ =>
    let size := Bytes.littleEndian field
    if size = maxSize then none else some size

/-- The header at the front of `input`, and what follows it. -/
def read (input : Bytes) : Except Fault (FrameHeader × Bytes) :=
  match Bytes.split? 5 input with
  | none => .error .wrongInputSize
  | some (start, rest) =>
    if start.take 4 ≠ magic then .error .unknownMagic
    else
      let descriptor := Descriptor.ofByte (start.getD 4 0)
      match Bytes.split? descriptor.fieldsLength rest with
      | none => .error .wrongInputSize
      | some (fields, rest) =>
        let window := fields.headD 0
        let fields := fields.drop descriptor.windowWidth
        let contentSize := recordedSize (fields.drop descriptor.dictionaryWidth)
        if descriptor.reserved then .error .unsupportedParameter
        else if !descriptor.single ∧ 31 < window.toNat / 8 + 10 then .error .windowTooLarge
        else
          .ok ({ window := if descriptor.single then contentSize.getD maxSize else windowSize window
                 dictionary := Bytes.littleEndian (fields.take descriptor.dictionaryWidth)
                 contentSize
                 checksum := descriptor.checksum }, rest)

/-- The most that a block may hold. -/
def blockMax (header : FrameHeader) : Nat := min header.window (128 * 1024)

theorem read_shortens {input rest : Bytes} {header : FrameHeader}
    (h : read input = .ok (header, rest)) : rest.length < input.length := by
  unfold read at h
  split at h
  · simp at h
  · rename_i start body hs
    have hinput := Bytes.split?_eq_some hs
    simp only at h
    split at h
    · simp at h
    · split at h
      · simp at h
      · rename_i hf
        have hbody := (Bytes.split?_eq_some hf).2
        split at h
        · simp at h
        · split at h
          · simp at h
          · simp only [Except.ok.injEq, Prod.mk.injEq] at h
            rw [hinput.2, hbody, h.2]
            simp only [List.length_append, hinput.1]
            omega

end FrameHeader

/-- Whether `input` starts like a frame that is to be skipped. -/
def isSkippable (input : Bytes) : Bool :=
  Bytes.littleEndian (input.take 4) / 16 = 0x184D2A5

/-- What follows the frame at the front of `input`, which is to be skipped. -/
def skipFrame (input : Bytes) : Except Fault Bytes :=
  match Bytes.split? 8 input with
  | none => .error .wrongInputSize
  | some (header, rest) =>
    let size := Bytes.littleEndian (header.drop 4)
    if 0xFFFFFFFF < size + 8 then .error .unsupportedParameter
    else
      match Bytes.split? size rest with
      | none => .error .wrongInputSize
      | some (_, rest) => .ok rest

theorem skipFrame_shortens {input rest : Bytes} (h : skipFrame input = .ok rest) :
    rest.length < input.length := by
  unfold skipFrame at h
  split at h
  · simp at h
  · rename_i hs
    have hinput := Bytes.split?_eq_some hs
    simp only at h
    split at h
    · simp at h
    · split at h
      · simp at h
      · rename_i hr
        have hrest := (Bytes.split?_eq_some hr).2
        simp only [Except.ok.injEq] at h
        rw [hinput.2, hrest, h]
        simp only [List.length_append, hinput.1]
        omega

/-- The content size that the first frame of `input` records. A frame that is to be skipped has no
content. -/
def recordedContentSize (input : Bytes) : Except Fault Nat :=
  if isSkippable input then
    if input.length < 8 then .error .notAHeader else .ok 0
  else
    match FrameHeader.read input with
    | .error _ => .error .notAHeader
    | .ok (header, _) =>
      match header.contentSize with
      | none => .error .sizeNotRecorded
      | some size => if size = maxSize - 1 then .error .notAHeader else .ok size

/-- Carries out blocks up to the last, in an output with so much room. Gives what follows them. -/
def decodeBlocks (blockMax room : Nat) (state : FrameState) (input : Bytes) :
    Except Fault (FrameState × Bytes) :=
  match _h : BlockHeader.readBlock input with
  | .error fault => .error fault
  | .ok (header, content, rest) =>
    match state.addBlock blockMax room header content with
    | .error fault => .error fault
    | .ok state =>
      if header.last then .ok (state, rest) else decodeBlocks blockMax room state rest
termination_by input.length
decreasing_by exact BlockHeader.readBlock_shortens _h

theorem decodeBlocks_shortens {blockMax room : Nat} {state state' : FrameState}
    {input rest : Bytes} (h : decodeBlocks blockMax room state input = .ok (state', rest)) :
    rest.length < input.length := by
  fun_induction decodeBlocks blockMax room state input with
  | case1 | case2 => simp at h
  | case3 _ _ _ _ _ hr _ _ _ =>
    simp only [Except.ok.injEq, Prod.mk.injEq] at h
    exact h.2 ▸ BlockHeader.readBlock_shortens hr
  | case4 _ _ _ _ _ hr _ _ _ ih =>
    exact Nat.lt_trans (ih h) (BlockHeader.readBlock_shortens hr)

/-- Accepts content that has the checksum at the front of `input`, if there has to be one. Gives what
follows it. -/
def checkChecksum (header : FrameHeader) (content : Array UInt8) (input : Bytes) :
    Except Fault Bytes :=
  if header.checksum then
    match Bytes.split? 4 input with
    | none => .error .wrongChecksum
    | some (recorded, rest) =>
      if Bytes.littleEndian recorded = Checksum.ofContent content then .ok rest
      else .error .wrongChecksum
  else .ok input

theorem checkChecksum_shortens {header : FrameHeader} {content : Array UInt8}
    {input rest : Bytes} (h : checkChecksum header content input = .ok rest) :
    rest.length ≤ input.length := by
  unfold checkChecksum at h
  split at h
  · split at h
    · simp at h
    · rename_i hs
      split at h
      · simp only [Except.ok.injEq] at h
        rw [(Bytes.split?_eq_some hs).2, h, List.length_append]
        omega
      · simp at h
  · simp only [Except.ok.injEq] at h
    exact Nat.le_of_eq (by rw [h])

/-- The content of the frame at the front of `input`, for which there is so much room, and what
follows it. -/
def decodeFrame (room : Nat) (input : Bytes) : Except Fault (Array UInt8 × Bytes) :=
  if input.length < (Descriptor.ofByte (input.getD 4 0)).fieldsLength + 8 then
    -- behind the header of the frame there would not even be that of a block
    .error .wrongInputSize
  else
    match FrameHeader.read input with
    | .error fault => .error fault
    | .ok (header, body) =>
      if header.dictionary ≠ 0 then .error .wrongDictionary
      else
        match decodeBlocks header.blockMax room .initial body with
        | .error fault => .error fault
        | .ok (state, rest) =>
          if header.contentSize.any (· ≠ state.output.size) then .error .corrupt
          else (checkChecksum header state.output rest).map (state.output, ·)

theorem decodeFrame_shortens {room : Nat} {input rest : Bytes} {content : Array UInt8}
    (h : decodeFrame room input = .ok (content, rest)) : rest.length < input.length := by
  unfold decodeFrame at h
  split at h
  · simp at h
  · split at h
    · simp at h
    · rename_i hf
      split at h
      · simp at h
      · split at h
        · simp at h
        · rename_i hb
          split at h
          · simp at h
          · simp only [Except.map] at h
            split at h
            · simp at h
            · rename_i hc
              simp only [Except.ok.injEq, Prod.mk.injEq] at h
              have := FrameHeader.read_shortens hf
              have := decodeBlocks_shortens hb
              have := checkChecksum_shortens hc
              rw [← h.2]
              omega

/-- Appends the contents of the frames that `input` is made of to `output`, which has so much room.
`completed` tells whether there was a frame before them: what follows one and starts like none is an
input that goes on too long. -/
def decodeFrames (room : Nat) (completed : Bool) (input : Bytes) (output : Array UInt8) :
    Except Fault (Array UInt8) :=
  if input.length < 5 then
    if input.isEmpty then .ok output else .error .wrongInputSize
  else if isSkippable input then
    match _h : skipFrame input with
    | .error fault => .error fault
    | .ok rest => decodeFrames room completed rest output
  else
    match _h : decodeFrame (room - output.size) input with
    | .error fault =>
      .error (if fault = .unknownMagic ∧ completed then .wrongInputSize else fault)
    | .ok (content, rest) => decodeFrames room true rest (output ++ content)
termination_by input.length
decreasing_by
  · exact skipFrame_shortens _h
  · exact decodeFrame_shortens _h

/-- Decompresses an input that is made of frames into an output with so much room. -/
def decompress (input : Bytes) (room : Nat) : Except Fault (Array UInt8) :=
  decodeFrames room false input #[]

end BufferBridge.Zstandard
