import BufferBridge.Proofs.Zstandard.Capacity
import BufferBridge.Zstandard.Codec

/-!
# Streaming and decoding at once

An input is judged by reading it as a stream, and decompressed at once. The stream passes over blocks
without content and, where such a block is the last of a frame, does not compare sizes. An input that is
found to be good can therefore be decompressed just where no frame makes use of that.
-/
namespace BufferBridge.Zstandard

/-- The blocks up to the last, each with its content. -/
def frameBlocks (input : Bytes) : List (BlockHeader × Bytes) :=
  match _h : BlockHeader.readBlock input with
  | .error _ => []
  | .ok (header, content, rest) =>
    (header, content) :: if header.last then [] else frameBlocks rest
termination_by input.length
decreasing_by exact BlockHeader.readBlock_shortens _h

/-- A frame of a stream. -/
structure StreamedFrame where
  header : FrameHeader
  blocks : List (BlockHeader × Bytes)
  /-- What the stream gives for the frame. -/
  content : Array UInt8

/-- Whether a block is compressed and has no content, from which nothing can be decoded. -/
def isHollow (block : BlockHeader × Bytes) : Bool := block.1.kind = .compressed ∧ block.2.isEmpty

/-- Whether a frame has a block from which nothing can be decoded, or other content than it records. -/
def StreamedFrame.isLoose (frame : StreamedFrame) : Bool :=
  frame.blocks.any isHollow || frame.header.contentSize.any (· ≠ frame.content.size)

/-- The frames of a stream with content, from one on where the content may have so many bytes yet. -/
def streamedFrames (buffers : StreamBuffers) (left : Nat) (input : Bytes) : List StreamedFrame :=
  if isSkippable input then
    match _h : skipFrame input with
    | .error _ => []
    | .ok rest => streamedFrames (buffers.skip input rest) left rest
  else
    match FrameHeader.read input, _h : streamFrame buffers left input with
    | .ok (header, body), some (content, rest, buffers) =>
      ⟨header, frameBlocks body, content⟩ :: streamedFrames buffers (left - content.size) rest
    | _, _ => []
termination_by input.length
decreasing_by
  · exact skipFrame_shortens _h
  · exact streamFrame_shortens _h

/-! ## Blocks -/

section

variable {header : BlockHeader} {frame : FrameHeader} {blockMax room most : Nat}
  {state final : FrameState} {input content rest : Bytes}

theorem frameBlocks_of_block (h : BlockHeader.readBlock input = .ok (header, content, rest)) :
    frameBlocks input = (header, content) :: if header.last then [] else frameBlocks rest := by
  rw [frameBlocks]
  split
  · rename_i hfault
    rw [h] at hfault
    cases hfault
  · rename_i hfound
    rw [h] at hfound
    cases hfound
    rfl

theorem append_nil (state : FrameState) : state.append [] = state := by
  have houtput : state.output ++ ([] : Bytes) = state.output :=
    Array.toList_inj.mp (by rw [Array.toList_appendList, List.append_nil])
  rw [FrameState.append, houtput]
  rfl

theorem addBlock_hollow (h : isHollow (header, content)) :
    state.addBlock blockMax room header content = .error .corrupt := by
  simp only [isHollow, decide_eq_true_eq] at h
  obtain ⟨hkind, hempty⟩ := h
  rw [List.isEmpty_iff.mp hempty, FrameState.addBlock, hkind]
  rfl

theorem solid_of_addBlock (h : state.addBlock blockMax room header content = .ok final) :
    isHollow (header, content) = false := by
  cases hhollow : isHollow (header, content) with
  | false => rfl
  | true =>
    rw [addBlock_hollow hhollow] at h
    cases h

/-- A block without content changes nothing, or is compressed and cannot be carried out. -/
theorem addBlock_nil (h : BlockHeader.readBlock input = .ok (header, [], rest))
    (hfits : state.output.size ≤ room) :
    state.addBlock blockMax room header [] =
      if isHollow (header, []) then .error .corrupt else .ok state := by
  by_cases hhollow : isHollow (header, [])
  · rw [if_pos hhollow, addBlock_hollow hhollow]
  · obtain ⟨hknown, hlength⟩ := BlockHeader.readBlock_spec h
    rw [if_neg hhollow, FrameState.addBlock]
    rw [BlockHeader.contentLength, List.length_nil] at hlength
    cases hkind : header.kind with
    | stored =>
      simp only [hkind] at hlength
      simp only [← hlength, Nat.add_zero, append_nil]
      exact if_neg (by omega)
    | repeated =>
      simp only [hkind] at hlength
      cases hlength
    | compressed => exact absurd hhollow (by simp [isHollow, hkind])
    | reserved => exact absurd hkind hknown

/-- What a stream makes of the blocks of a frame they decode to, if none of them is hollow. -/
theorem decodeBlocks_of_streamBlocks
    (h : streamBlocks frame most state input = some (final, rest))
    (hfits : final.output.size ≤ room) :
    state.output.size ≤ final.output.size ∧
      decodeBlocks frame.blockMax room state input =
        if (frameBlocks input).any isHollow then .error .corrupt else .ok (final, rest) := by
  fun_induction streamBlocks frame most state input with
  | case2 state input header content after hblock hempty hlast =>
    cases h
    obtain rfl := List.isEmpty_iff.mp hempty
    have hadd : final.addBlock frame.blockMax room header [] = _ := addBlock_nil hblock hfits
    refine ⟨Nat.le_refl _, ?_⟩
    rw [frameBlocks_of_block hblock, if_pos hlast, List.any_cons, List.any_nil, Bool.or_false]
    by_cases hhollow : isHollow (header, [])
    · rw [if_pos hhollow] at hadd ⊢
      exact decodeBlocks_of_fault hblock hadd
    · rw [if_neg hhollow] at hadd ⊢
      rw [decodeBlocks_of_block hblock hadd, if_pos hlast]
  | case3 state input header content after hblock hempty hlast ih =>
    obtain ⟨hgrows, hdecode⟩ := ih h
    obtain rfl := List.isEmpty_iff.mp hempty
    have hadd : state.addBlock frame.blockMax room header [] = _ :=
      addBlock_nil hblock (Nat.le_trans hgrows hfits)
    refine ⟨hgrows, ?_⟩
    rw [frameBlocks_of_block hblock, if_neg hlast, List.any_cons]
    by_cases hhollow : isHollow (header, [])
    · rw [if_pos hhollow] at hadd
      rw [hhollow, Bool.true_or, if_pos rfl]
      exact decodeBlocks_of_fault hblock hadd
    · have hsolid : isHollow (header, []) = false := by simpa using hhollow
      rw [if_neg hhollow] at hadd
      rw [decodeBlocks_of_block hblock hadd, if_neg hlast, hdecode, hsolid, Bool.false_or]
  | case8 state input header content after hblock hempty hlong next hadd hmost hlast hsize =>
    cases h
    obtain ⟨hgrows, hwithin⟩ := FrameState.addBlock_within (BlockHeader.readBlock_spec hblock).2 hadd
      hfits (.inr (Nat.le_refl _))
    have hsolid : isHollow (header, content) = false := by simp [isHollow, hempty]
    refine ⟨hgrows, ?_⟩
    rw [decodeBlocks_of_block hblock hwithin, frameBlocks_of_block hblock, if_pos hlast, if_pos hlast,
      List.any_cons, hsolid]
    rfl
  | case9 state input header content after hblock hempty hlong next hadd hmost hlast ih =>
    obtain ⟨hrest, hdecode⟩ := ih h
    obtain ⟨hgrows, hwithin⟩ := FrameState.addBlock_within (BlockHeader.readBlock_spec hblock).2 hadd
      (Nat.le_trans hrest hfits) (.inr (Nat.le_refl _))
    have hsolid : isHollow (header, content) = false := by simp [isHollow, hempty]
    refine ⟨Nat.le_trans hgrows hrest, ?_⟩
    rw [decodeBlocks_of_block hblock hwithin, frameBlocks_of_block hblock, if_neg hlast, if_neg hlast,
      hdecode, List.any_cons, hsolid, Bool.false_or]
  | _ => cases h

/-- Blocks that are decoded are none of them hollow. -/
theorem not_hollow_of_decodeBlocks
    (h : decodeBlocks blockMax room state input = .ok (final, rest)) :
    (frameBlocks input).any isHollow = false := by
  fun_induction decodeBlocks blockMax room state input with
  | case1 => cases h
  | case2 => cases h
  | case3 state input header content after hblock next hadd hlast =>
    rw [frameBlocks_of_block hblock, if_pos hlast, List.any_cons, solid_of_addBlock hadd]
    rfl
  | case4 state input header content after hblock next hadd hlast ih =>
    rw [frameBlocks_of_block hblock, if_neg hlast, List.any_cons, solid_of_addBlock hadd, ih h]
    rfl

end

/-! ## Frames -/

section

variable {room left : Nat} {input body rest : Bytes} {header : FrameHeader} {content : Array UInt8}
variable {buffers later : StreamBuffers}

theorem length_of_readBlock {content : Bytes} {header : BlockHeader}
    (h : BlockHeader.readBlock input = .ok (header, content, rest)) : 3 ≤ input.length := by
  rw [BlockHeader.readBlock, BlockHeader.read?] at h
  cases hsplit : Bytes.split? 3 input with
  | none =>
    rw [hsplit] at h
    cases h
  | some pair =>
    obtain ⟨hfront, hinput⟩ := Bytes.split?_eq_some hsplit
    rw [hinput, List.length_append]
    omega

/-- What follows a frame header that is read. -/
theorem FrameHeader.length_read (h : FrameHeader.read input = .ok (header, body)) :
    input.length = 5 + (Descriptor.ofByte (input.getD 4 0)).fieldsLength + body.length := by
  rw [FrameHeader.read] at h
  split at h
  · cases h
  rename_i start after hstart
  obtain ⟨hfive, hinput⟩ := Bytes.split?_eq_some hstart
  have hbyte : start.getD 4 0 = input.getD 4 0 := by
    rw [hinput, List.getD_eq_getElem?_getD, List.getD_eq_getElem?_getD,
      List.getElem?_append_left (by omega)]
  simp only at h
  split at h
  · cases h
  split at h
  · cases h
  rename_i fields behind hfields
  obtain ⟨hwidth, hafter⟩ := Bytes.split?_eq_some hfields
  split at h
  · cases h
  split at h
  · cases h
  cases h
  rw [← hbyte, ← hwidth, hinput, hafter]
  simp only [List.length_append, hfive]
  omega

/-- A frame is decoded block by block and then compared with what it records. -/
theorem decodeFrame_eq (hread : FrameHeader.read input = .ok (header, body)) (hlong : 3 ≤ body.length)
    (hdictionary : header.dictionary = 0) :
    decodeFrame room input =
      match decodeBlocks header.blockMax room .initial body with
      | .error fault => .error fault
      | .ok (state, rest) =>
        if header.contentSize.any (· ≠ state.output.size) then .error .corrupt
        else (checkChecksum header state.output rest).map (state.output, ·) := by
  have hlength := FrameHeader.length_read hread
  rw [decodeFrame, if_neg (by omega), hread]
  exact if_neg (not_not_intro hdictionary)

theorem decodeFrame_needs (hread : FrameHeader.read input = .ok (header, body))
    (h : decodeFrame room input = .ok (content, rest)) : 3 ≤ body.length ∧ header.dictionary = 0 := by
  have hlength := FrameHeader.length_read hread
  rw [decodeFrame] at h
  split at h
  · cases h
  · rw [hread] at h
    simp only at h
    split at h
    · cases h
    · rename_i hlong hdictionary
      exact ⟨by omega, Decidable.not_not.mp hdictionary⟩

/-- A frame that fits into a portion is decoded the same in the room that is left. -/
theorem decodeFrame_within {capacity : Nat} (hread : FrameHeader.read input = .ok (header, body))
    (h : decodeFrame capacity input = .ok (content, rest)) (hless : room ≤ capacity)
    (hfits : content.size ≤ room) :
    StreamedFrame.isLoose ⟨header, frameBlocks body, content⟩ = false ∧
      decodeFrame room input = .ok (content, rest) := by
  obtain ⟨hlong, hdictionary⟩ := decodeFrame_needs hread h
  rw [decodeFrame_eq hread hlong hdictionary] at h ⊢
  cases hblocks : decodeBlocks header.blockMax capacity .initial body with
  | error fault =>
    rw [hblocks] at h
    cases h
  | ok pair =>
    obtain ⟨state, after⟩ := pair
    rw [hblocks] at h
    simp only at h
    split at h
    · cases h
    rename_i hrecorded
    obtain ⟨trailer, hchecksum, hpair⟩ := map_eq_ok_iff.mp h
    cases hpair
    obtain ⟨-, hwithin⟩ := decodeBlocks_within hblocks hless hfits
    rw [hwithin, StreamedFrame.isLoose, not_hollow_of_decodeBlocks hblocks, Bool.false_or]
    simp only [if_neg hrecorded]
    exact ⟨by simpa using hrecorded, h⟩

/-- Blocks that are streamed start with one that is read. -/
theorem length_of_streamBlocks {most : Nat} {state final : FrameState}
    (h : streamBlocks header most state body = some (final, rest)) : 3 ≤ body.length := by
  rw [streamBlocks] at h
  split at h
  · cases h
  · rename_i hblock
    exact length_of_readBlock hblock

/-- A frame that is streamed block by block is what it decodes to in the room that is left, unless it is
loose. -/
theorem decodeFrame_of_streamBlocks {most : Nat} {state : FrameState} {after : Bytes}
    (hread : FrameHeader.read input = .ok (header, body)) (hdictionary : header.dictionary = 0)
    (hblocks : streamBlocks header most .initial body = some (state, after))
    (hchecksum : checkChecksum header state.output after = .ok rest) (hsize : state.output.size ≤ left) :
    decodeFrame left input =
      if StreamedFrame.isLoose ⟨header, frameBlocks body, state.output⟩ then .error .corrupt
      else .ok (state.output, rest) := by
  obtain ⟨-, hdecode⟩ := decodeBlocks_of_streamBlocks hblocks hsize
  rw [decodeFrame_eq hread (length_of_streamBlocks hblocks) hdictionary, hdecode, StreamedFrame.isLoose]
  by_cases hhollow : (frameBlocks body).any isHollow
  · rw [if_pos hhollow, hhollow]
    rfl
  · rw [if_neg hhollow, Bool.eq_false_iff.mpr hhollow, Bool.false_or]
    simp only [hchecksum]
    rfl

/-- What a stream gives for a frame is what the frame decodes to in the room that is left, unless the
frame is loose. -/
theorem decodeFrame_of_streamFrame (h : streamFrame buffers left input = some (content, rest, later))
    (hread : FrameHeader.read input = .ok (header, body)) (hsize : content.size ≤ left)
    (hleft : left = 0 ∨ header.contentSize = some left) :
    decodeFrame left input =
      if StreamedFrame.isLoose ⟨header, frameBlocks body, content⟩ then .error .corrupt
      else .ok (content, rest) := by
  rw [streamFrame, hread] at h
  simp only at h
  split at h
  · rename_i hportion
    have hless : left ≤ min portion (left + 1) := by
      rcases hleft with rfl | hrecorded
      · exact Nat.zero_le _
      · rw [hrecorded] at hportion
        simpa using hportion
    cases hdecode : decodeFrame (min portion (left + 1)) input with
    | error fault =>
      rw [hdecode] at h
      cases h
    | ok pair =>
      rw [hdecode] at h
      cases h
      obtain ⟨htight, hwithin⟩ := decodeFrame_within hread hdecode hless hsize
      rw [hwithin, htight]
      rfl
  · split at h
    · cases h
    rename_i hlimits
    split at h
    · cases h
    rename_i state after hblocks
    cases hchecksum : checkChecksum header state.output after with
    | error fault =>
      rw [hchecksum] at h
      cases h
    | ok trailer =>
      rw [hchecksum] at h
      cases h
      have hdictionary : header.dictionary = 0 :=
        Decidable.not_not.mp fun hne => hlimits (.inl hne)
      exact decodeFrame_of_streamBlocks hread hdictionary hblocks hchecksum hsize

/-- The size that an input records is that of its first frame, or zero where that is skipped. -/
theorem left_eq (h : left = 0 ∨ recordedContentSize input = .ok left) :
    if isSkippable input then left = 0
    else ∀ header body, FrameHeader.read input = .ok (header, body) →
      left = 0 ∨ header.contentSize = some left := by
  rcases h with rfl | h
  · split
    · rfl
    · exact fun _ _ _ => .inl rfl
  · rw [recordedContentSize] at h
    split at h
    · rename_i hskippable
      rw [if_pos hskippable]
      split at h
      · cases h
      · cases h
        rfl
    · rename_i hcontent
      rw [if_neg hcontent]
      intro header body hread
      rw [hread] at h
      simp only at h
      split at h
      · cases h
      · rename_i size hsize
        split at h
        · cases h
        · cases h
          exact .inr hsize

/-! Steps of decoding at once, and of the stream. -/

variable {completed : Bool} {output : Array UInt8}

theorem decodeFrames_of_skip (hskippable : isSkippable input) (h : skipFrame input = .ok rest) :
    decodeFrames room completed input output = decodeFrames room completed rest output := by
  have hlong : 8 ≤ input.length := by
    rw [skipFrame] at h
    split at h
    · cases h
    · rename_i hsplit
      obtain ⟨hfront, hinput⟩ := Bytes.split?_eq_some hsplit
      rw [hinput, List.length_append]
      omega
  rw [decodeFrames, if_neg (by omega), if_pos hskippable]
  split
  · rename_i hfault
    rw [h] at hfault
    cases hfault
  · rename_i hrest
    rw [h] at hrest
    cases hrest
    rfl

theorem decodeFrames_of_frame (hcontent : ¬isSkippable input) (hlong : 5 ≤ input.length)
    (h : decodeFrame (room - output.size) input = .ok (content, rest)) :
    decodeFrames room completed input output = decodeFrames room true rest (output ++ content) := by
  rw [decodeFrames, if_neg (by omega), if_neg hcontent]
  split
  · rename_i hfault
    rw [h] at hfault
    cases hfault
  · rename_i hframe
    rw [h] at hframe
    cases hframe
    rfl

theorem decodeFrames_of_corrupt (hcontent : ¬isSkippable input) (hlong : 5 ≤ input.length)
    (h : decodeFrame (room - output.size) input = .error .corrupt) :
    decodeFrames room completed input output = .error .corrupt := by
  rw [decodeFrames, if_neg (by omega), if_neg hcontent]
  split
  · rename_i hfault
    rw [h] at hfault
    cases hfault
    rfl
  · rename_i hframe
    rw [h] at hframe
    cases hframe

theorem streamedFrames_of_skip (hskippable : isSkippable input) (h : skipFrame input = .ok rest) :
    streamedFrames buffers left input = streamedFrames (buffers.skip input rest) left rest := by
  rw [streamedFrames, if_pos hskippable]
  split
  · rename_i hfault
    rw [h] at hfault
    cases hfault
  · rename_i hrest
    rw [h] at hrest
    cases hrest
    rfl

theorem streamedFrames_of_frame (hcontent : ¬isSkippable input)
    (hread : FrameHeader.read input = .ok (header, body))
    (h : streamFrame buffers left input = some (content, rest, later)) :
    streamedFrames buffers left input =
      ⟨header, frameBlocks body, content⟩ :: streamedFrames later (left - content.size) rest := by
  rw [streamedFrames, if_neg hcontent]
  split
  · rename_i hfound hframe
    rw [hread] at hfound
    rw [h] at hframe
    cases hfound
    cases hframe
    rfl
  · rename_i hnone
    exact absurd h (hnone _ _ _ _ _ hread)

end

/-! ## Inputs -/

/-- The contents of frames behind an output. -/
def joined (output : Array UInt8) (frames : List StreamedFrame) : Array UInt8 :=
  frames.foldl (fun output frame => output ++ frame.content) output

theorem streamedFrames_nil (buffers : StreamBuffers) (left : Nat) :
    streamedFrames buffers left [] = [] := by
  rw [streamedFrames]
  rfl

/-- A frame that is streamed has a header. -/
theorem exists_header {buffers later : StreamBuffers} {left : Nat} {input rest : Bytes}
    {content : Array UInt8}
    (h : streamFrame buffers left input = some (content, rest, later)) :
    ∃ header body, FrameHeader.read input = .ok (header, body) := by
  cases hread : FrameHeader.read input with
  | error fault =>
    rw [streamFrame, hread] at h
    cases h
  | ok pair => exact ⟨pair.1, pair.2, rfl⟩

/-- The frames of a good stream have as many bytes as it was asked for. -/
theorem size_joined {buffers : StreamBuffers} {left : Nat} {input : Bytes}
    (h : streamFrames buffers left input) (output : Array UInt8) :
    (joined output (streamedFrames buffers left input)).size = output.size + left := by
  fun_induction streamFrames buffers left input generalizing output with
  | case1 buffers left input hempty =>
    obtain rfl := List.isEmpty_iff.mp hempty
    have hzero : left = 0 := by simpa using h
    rw [streamedFrames_nil, hzero]
    rfl
  | case2 => cases h
  | case3 buffers left input hempty hskippable rest hskip ih =>
    rw [streamedFrames_of_skip hskippable hskip, ih h]
  | case4 => cases h
  | case5 => cases h
  | case6 buffers left input hempty hcontent content rest later hframe hsize ih =>
    obtain ⟨header, body, hread⟩ := exists_header hframe
    rw [streamedFrames_of_frame hcontent hread hframe, joined, List.foldl_cons]
    have hrest := ih h (output ++ content)
    rw [joined, Array.size_append] at hrest
    rw [hrest]
    omega

/-- A good stream decodes to the contents of its frames, if none of them is loose. -/
theorem decodeFrames_of_streamFrames {buffers : StreamBuffers} {left : Nat} {input : Bytes}
    (h : streamFrames buffers left input)
    (hleft : left = 0 ∨ recordedContentSize input = .ok left) (completed : Bool)
    (output : Array UInt8) :
    decodeFrames (output.size + left) completed input output =
      if (streamedFrames buffers left input).any StreamedFrame.isLoose then .error .corrupt
      else .ok (joined output (streamedFrames buffers left input)) := by
  fun_induction streamFrames buffers left input generalizing completed output with
  | case1 buffers left input hempty =>
    obtain rfl := List.isEmpty_iff.mp hempty
    rw [streamedFrames_nil, decodeFrames]
    rfl
  | case2 => cases h
  | case3 buffers left input hempty hskippable rest hskip ih =>
    have hzero := left_eq hleft
    rw [if_pos hskippable] at hzero
    rw [streamedFrames_of_skip hskippable hskip, decodeFrames_of_skip hskippable hskip]
    exact ih h (.inl hzero) completed output
  | case4 => cases h
  | case5 => cases h
  | case6 buffers left input hempty hcontent content rest later hframe hsize ih =>
    obtain ⟨header, body, hread⟩ := exists_header hframe
    have hrecorded := left_eq hleft
    rw [if_neg hcontent] at hrecorded
    have hlong : 5 ≤ input.length := by
      rw [FrameHeader.length_read hread]
      omega
    have hdecode := decodeFrame_of_streamFrame hframe hread (Nat.not_lt.mp hsize)
      (hrecorded header body hread)
    rw [← Nat.add_sub_cancel_left output.size left] at hdecode
    rw [streamedFrames_of_frame hcontent hread hframe, List.any_cons]
    cases hloose : StreamedFrame.isLoose ⟨header, frameBlocks body, content⟩ with
    | true =>
      rw [hloose, if_pos rfl] at hdecode
      rw [decodeFrames_of_corrupt hcontent hlong hdecode]
      rfl
    | false =>
      rw [hloose] at hdecode
      -- the first frame with content takes all that is left, so the frames behind it have none
      have hnone : left - content.size = 0 := by
        rcases hrecorded header body hread with rfl | hall
        · exact Nat.zero_sub _
        · simp only [StreamedFrame.isLoose, hall, Bool.or_eq_false_iff, Option.any_some,
            decide_eq_false_iff_not, Decidable.not_not] at hloose
          omega
      rw [decodeFrames_of_frame hcontent hlong hdecode, Bool.false_or, joined, List.foldl_cons]
      have hrest := ih h (.inl hnone) true (output ++ content)
      have hroom : output.size + content.size + (left - content.size) = output.size + left := by omega
      rw [Array.size_append, hroom] at hrest
      exact hrest

end BufferBridge.Zstandard

namespace BufferBridge.BlockCodec

open Zstandard

variable {level : Int32} {encoder : Zstandard.Encoder} {input : Bytes}

/-- **A valid input decompresses, unless a frame is loose.** What is found to be valid records the size
of its content. Decompressed into so much room it gives the contents of its frames, or is refused as
corrupt just where one of them has a compressed block without content, or other content than it
records. -/
theorem zstandard_valid_uncompresses (h : (zstandard level encoder).isValid input) :
    ∃ n, (zstandard level encoder).uncompressedLength input = .ok n ∧
      (zstandard level encoder).uncompress input n =
        if (streamedFrames {} n input).any StreamedFrame.isLoose then
          ⟨[], .error (.codec .uncompress (.zstandard .corrupt))⟩
        else ⟨(joined #[] (streamedFrames {} n input)).toList, .ok ()⟩ := by
  change Zstandard.isValid input at h
  rw [Zstandard.isValid] at h
  cases hsize : recordedContentSize input with
  | error fault =>
    rw [hsize] at h
    cases h
  | ok n =>
    rw [hsize] at h
    have hdecode := decodeFrames_of_streamFrames h (.inr hsize) false #[]
    have hjoined := size_joined h #[]
    rw [Array.size_empty, Nat.zero_add] at hdecode hjoined
    refine ⟨n, ?_, ?_⟩
    · simp only [zstandard, hsize]
      rfl
    · simp only [zstandard, decompress, hdecode]
      by_cases hloose : (streamedFrames {} n input).any StreamedFrame.isLoose
      · rw [if_pos hloose, if_pos hloose]
      · rw [if_neg hloose, if_neg hloose]
        simp only [hjoined, ne_eq, not_true_eq_false, if_false]

/-- A frame with five bytes as they are. -/
theorem zstandard_valid_uncompresses_stored :
    (zstandard 3).isValid [0x28, 0xB5, 0x2F, 0xFD, 0x20, 5, 0x29, 0, 0, 0x68, 0x65, 0x6C, 0x6C, 0x6F] ∧
      (zstandard 3).uncompress
          [0x28, 0xB5, 0x2F, 0xFD, 0x20, 5, 0x29, 0, 0, 0x68, 0x65, 0x6C, 0x6C, 0x6F] 5 =
        ⟨[0x68, 0x65, 0x6C, 0x6C, 0x6F], .ok ()⟩ := by
  have hvalid : (zstandard 3).isValid
      [0x28, 0xB5, 0x2F, 0xFD, 0x20, 5, 0x29, 0, 0, 0x68, 0x65, 0x6C, 0x6C, 0x6F] := by
    decide +kernel
  obtain ⟨n, hlength, huncompress⟩ := zstandard_valid_uncompresses hvalid
  cases hlength
  exact ⟨hvalid, huncompress.trans (by with_unfolding_all rfl)⟩

/-- A frame of 8193 equal bytes, behind which stands a compressed block without content. -/
def hollowLast : Bytes := [0x28, 0xB5, 0x2F, 0xFD, 0x60, 0x01, 0x1F, 0x0A, 0, 0x01, 0x61, 0x05, 0, 0]

theorem read_hollowLast : FrameHeader.read hollowLast =
    .ok (⟨8193, 0, some 8193, false⟩, [0x0A, 0, 0x01, 0x61, 0x05, 0, 0]) := by
  rfl

theorem addBlock_repeated {state : FrameState} {blockMax room count : Nat} {last : Bool} {byte : UInt8}
    (h : state.output.size + count ≤ room) :
    state.addBlock blockMax room ⟨last, .repeated, count⟩ [byte] =
      .ok (state.append (List.replicate count byte)) := by
  rw [FrameState.addBlock]
  exact if_neg (Nat.not_lt.mpr h)

/-- Both blocks of the frame are streamed. -/
theorem streamFrame_hollowLast :
    ∃ (content : Array UInt8) (later : StreamBuffers),
      content.size = 8193 ∧ streamFrame {} 8193 hollowLast = some (content, [], later) := by
  have hread := read_hollowLast
  have hfirst : BlockHeader.readBlock [0x0A, 0, 0x01, 0x61, 0x05, 0, 0] =
      .ok (⟨false, .repeated, 8193⟩, [0x61], [0x05, 0, 0]) := by
    rfl
  have hlast : BlockHeader.readBlock [0x05, 0, 0] = .ok (⟨true, .compressed, 0⟩, [], []) := by
    rfl
  have hadd : ∃ filled : FrameState, filled.output.size = 8193 ∧
      FrameState.initial.addBlock (FrameHeader.blockMax ⟨8193, 0, some 8193, false⟩)
          (FrameState.initial.output.size + FrameHeader.blockMax ⟨8193, 0, some 8193, false⟩)
          ⟨false, .repeated, 8193⟩ [0x61] = .ok filled :=
    ⟨_, by rw [FrameState.size_output_append, List.length_replicate]; rfl,
      addBlock_repeated (Nat.le_refl 8193)⟩
  obtain ⟨filled, hsize, hadd⟩ := hadd
  have hstream : streamBlocks ⟨8193, 0, some 8193, false⟩ 8193 .initial
      [0x0A, 0, 0x01, 0x61, 0x05, 0, 0] = some (filled, []) := by
    rw [streamBlocks]
    split
    · rename_i hfault
      rw [hfirst] at hfault
      cases hfault
    · rename_i hfound
      rw [hfirst] at hfound
      cases hfound
      rw [if_neg (by decide), if_neg (by decide), hadd]
      simp only [hsize]
      rw [if_neg (by decide), if_neg (by decide), streamBlocks]
      split
      · rename_i hfault
        rw [hlast] at hfault
        cases hfault
      · rename_i hfound
        rw [hlast] at hfound
        cases hfound
        rfl
  have hmost : (StreamBuffers.adapt {} 8193 8193 (some 8193)).most (some 8193) 8193 = 8193 := by
    decide
  refine ⟨filled.output, StreamBuffers.adapt {} 8193 8193 (some 8193), hsize, ?_⟩
  rw [streamFrame, hread]
  simp only
  rw [if_neg (by decide), if_neg (by decide), show FrameHeader.blockMax _ = 8193 from rfl, hmost,
    hstream]
  rfl

/-- The frame is found to be valid, since its content is as long as it records, and yet cannot be
decompressed into as much room. -/
theorem zstandard_valid_yet_corrupt :
    (zstandard 3).isValid hollowLast ∧ (zstandard 3).uncompressedLength hollowLast = .ok 8193 ∧
      ((zstandard 3).uncompress hollowLast 8193).result =
        .error (.codec .uncompress (.zstandard .corrupt)) := by
  obtain ⟨content, later, hsize, hframe⟩ := streamFrame_hollowLast
  have hcontent : ¬isSkippable hollowLast := by
    decide
  have hlength : recordedContentSize hollowLast = .ok 8193 := by
    rw [recordedContentSize, if_neg hcontent, read_hollowLast]
    exact if_neg (by decide)
  have hvalid : streamFrames {} 8193 hollowLast := by
    rw [streamFrames, if_neg (by decide), if_neg hcontent]
    split
    · rename_i hnone
      rw [hframe] at hnone
      cases hnone
    · rename_i found rest buffers hfound
      rw [hframe] at hfound
      cases hfound
      rw [if_neg (by omega), hsize, streamFrames]
      rfl
  have hloose : (streamedFrames {} 8193 hollowLast).any StreamedFrame.isLoose := by
    have hhollow : (frameBlocks [0x0A, 0, 0x01, 0x61, 0x05, 0, 0]).any isHollow := by
      decide +kernel
    rw [streamedFrames_of_frame hcontent read_hollowLast hframe, List.any_cons, StreamedFrame.isLoose,
      hhollow, Bool.true_or, Bool.true_or]
  have hdecode := decodeFrames_of_streamFrames hvalid (.inr hlength) false #[]
  rw [if_pos hloose] at hdecode
  refine ⟨?_, ?_, ?_⟩
  · change Zstandard.isValid hollowLast
    rw [Zstandard.isValid, hlength]
    exact hvalid
  · simp only [zstandard, hlength]
    rfl
  · have hdecompress : decompress hollowLast 8193 = .error .corrupt := hdecode
    simp only [zstandard, hdecompress]

end BufferBridge.BlockCodec
