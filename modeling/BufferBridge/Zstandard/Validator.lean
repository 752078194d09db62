import BufferBridge.Zstandard.Frame

/-! Whether an input could be decompressed, told without room for its whole content: the input is
read as a stream, in portions of limited size, and has to give exactly as many bytes as its first
frame records. A frame whose content fits into a portion is decoded at once; in the others each block
is held to the largest size. -/
namespace BufferBridge.Zstandard

/-- The size of a portion. -/
def portion : Nat := 8192

/-- The largest window that is kept for a stream. -/
def maxStreamWindow : Nat := 128 * 1024 * 1024 + 1

/-- The buffers of a stream: how many bytes of input and of output they hold, and how many frames in a row
would have done with a third of that. -/
structure StreamBuffers where
  input : Nat := 0
  output : Nat := 0
  oversized : Nat := 0

namespace StreamBuffers

/-- The buffers for a frame with this window, at most so much in a block, and so much content in all, if
that is known. They are made anew where they are too small, or have been too large for long. -/
def adapt (buffers : StreamBuffers) (window blockMax : Nat) (contentSize : Option Nat) :
    StreamBuffers :=
  let input := max blockMax 4
  -- in a ring of this size a block never overwrites what may still be referred to
  let ring := max window 1024 + 2 * blockMax + 64
  let output := contentSize.elim ring (min ring)
  let oversized :=
    if 3 * (input + output) ≤ buffers.input + buffers.output then buffers.oversized + 1 else 0
  if buffers.input < input ∨ buffers.output < output ∨ 128 ≤ oversized then ⟨input, output, oversized⟩
  else { buffers with oversized }

/-- The most content that a frame may have in a stream that has room for `left` bytes: no more than the
buffer holds, unless the recorded size does not fit the buffer, which is a ring then. -/
def most (buffers : StreamBuffers) (contentSize : Option Nat) (left : Nat) : Nat :=
  if contentSize.any (· ≤ buffers.output) then min left buffers.output else left

end StreamBuffers

/-- Carries out blocks up to the last, as long as the output does not grow above `most`. A block
without content is passed over, whatever its kind, and is not asked about the size of the frame where
it is the last. -/
def streamBlocks (header : FrameHeader) (most : Nat) (state : FrameState) (input : Bytes) :
    Option (FrameState × Bytes) :=
  match _h : BlockHeader.readBlock input with
  | .error _ => none
  | .ok (block, content, rest) =>
    if content.isEmpty then
      if block.last then some (state, rest) else streamBlocks header most state rest
    else if header.blockMax < content.length then none
    else
      match state.addBlock header.blockMax (state.output.size + header.blockMax) block content with
      | .error _ => none
      | .ok state =>
        if most < state.output.size then none
        else if block.last then
          if header.contentSize.any (· ≠ state.output.size) then none else some (state, rest)
        else streamBlocks header most state rest
termination_by input.length
decreasing_by
  · exact BlockHeader.readBlock_shortens _h
  · exact BlockHeader.readBlock_shortens _h

theorem streamBlocks_shortens {header : FrameHeader} {most : Nat} {state state' : FrameState}
    {input rest : Bytes} (h : streamBlocks header most state input = some (state', rest)) :
    rest.length < input.length := by
  fun_induction streamBlocks header most state input with
  | case1 | case4 | case5 | case6 | case7 => simp at h
  | case2 _ _ _ _ _ hr =>
    simp only [Option.some.injEq, Prod.mk.injEq] at h
    exact h.2 ▸ BlockHeader.readBlock_shortens hr
  | case3 _ _ _ _ _ hr _ _ ih => exact Nat.lt_trans (ih h) (BlockHeader.readBlock_shortens hr)
  | case8 _ _ _ _ _ hr =>
    simp only [Option.some.injEq, Prod.mk.injEq] at h
    exact h.2 ▸ BlockHeader.readBlock_shortens hr
  | case9 _ _ _ _ _ hr _ _ _ _ _ _ ih =>
    exact Nat.lt_trans (ih h) (BlockHeader.readBlock_shortens hr)

/-- The content of the frame at the front of `input`, in a stream that has room for `left` bytes, with what
follows the frame and the buffers afterwards. -/
def streamFrame (buffers : StreamBuffers) (left : Nat) (input : Bytes) :
    Option (Array UInt8 × Bytes × StreamBuffers) :=
  match FrameHeader.read input with
  | .error _ => none
  | .ok (header, body) =>
    let room := min portion (left + 1)
    if header.contentSize.any (· ≤ room) then
      ((decodeFrame room input).map fun (content, rest) => (content, rest, buffers)).toOption
    else if header.dictionary ≠ 0 ∨ maxStreamWindow < header.window then none
    else
      let buffers := buffers.adapt header.window header.blockMax header.contentSize
      match streamBlocks header (buffers.most header.contentSize left) .initial body with
      | none => none
      | some (state, rest) =>
        ((checkChecksum header state.output rest).map (state.output, ·, buffers)).toOption

theorem streamFrame_shortens {buffers after : StreamBuffers} {left : Nat} {input rest : Bytes}
    {content : Array UInt8} (h : streamFrame buffers left input = some (content, rest, after)) :
    rest.length < input.length := by
  unfold streamFrame at h
  split at h
  · simp at h
  · rename_i header body hf
    simp only at h
    split at h
    · cases hd : decodeFrame (min portion (left + 1)) input with
      | error fault => simp [hd, Except.toOption, Except.map] at h
      | ok decoded =>
        simp only [hd, Except.toOption, Except.map, Option.some.injEq, Prod.mk.injEq] at h
        rw [← h.2.1]
        exact decodeFrame_shortens hd
    · split at h
      · simp at h
      · split at h
        · simp at h
        · rename_i state behind hb
          cases hc : checkChecksum header state.output behind with
          | error fault => simp [hc, Except.toOption, Except.map] at h
          | ok _ =>
            simp only [hc, Except.toOption, Except.map, Option.some.injEq, Prod.mk.injEq] at h
            have := FrameHeader.read_shortens hf
            have := streamBlocks_shortens hb
            have := checkChecksum_shortens hc
            rw [← h.2.1]
            omega

/-- The buffers after a frame that is skipped, of which `rest` is left. It counts as content. -/
def StreamBuffers.skip (buffers : StreamBuffers) (input rest : Bytes) : StreamBuffers :=
  buffers.adapt 0 0 (some (input.length - rest.length - 8))

/-- Whether the frames that `input` is made of are good and hold `left` bytes in all. -/
def streamFrames (buffers : StreamBuffers) (left : Nat) (input : Bytes) : Bool :=
  if input.isEmpty then left = 0
  else if isSkippable input then
    match _h : skipFrame input with
    | .error _ => false
    | .ok rest => streamFrames (buffers.skip input rest) left rest
  else
    match _h : streamFrame buffers left input with
    | none => false
    | some (content, rest, buffers) =>
      if left < content.size then false else streamFrames buffers (left - content.size) rest
termination_by input.length
decreasing_by
  · exact skipFrame_shortens _h
  · exact streamFrame_shortens _h

/-- Whether `input` is made of good frames that hold as many bytes as the first of them records. -/
def isValid (input : Bytes) : Bool :=
  match recordedContentSize input with
  | .error _ => false
  | .ok size => streamFrames {} size input

end BufferBridge.Zstandard
