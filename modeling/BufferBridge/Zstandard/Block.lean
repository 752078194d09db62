import BufferBridge.Zstandard.Literals
import BufferBridge.Zstandard.Sequences

/-! The blocks of a frame: their headers, what each adds to the output, and what a block leaves for
the blocks after it. -/
namespace BufferBridge.Zstandard

/-- How a block holds its content. -/
inductive BlockKind
  /-- As it is. -/
  | stored
  /-- As one byte that is to be repeated. -/
  | repeated
  /-- As literals and sequences. -/
  | compressed
  /-- In no way that is known. -/
  | reserved
  deriving Repr, DecidableEq

/-- The header of a block. -/
structure BlockHeader where
  /-- Whether it is the last block of the frame. -/
  last : Bool
  kind : BlockKind
  /-- The number of bytes that follow or, where one is repeated, how often. -/
  size : Nat
  deriving Repr, DecidableEq

namespace BlockHeader

/-- The header that a number of 24 bits stands for. -/
def ofNat (n : Nat) : BlockHeader where
  last := n % 2 = 1
  kind := match n / 2 % 4 with
    | 0 => .stored
    | 1 => .repeated
    | 2 => .compressed
    | _ => .reserved
  size := n / 8

/-- The header at the front of `input`, and what follows it. -/
def read? (input : Bytes) : Option (BlockHeader × Bytes) :=
  (Bytes.split? 3 input).map fun (bytes, rest) => (ofNat (Bytes.littleEndian bytes), rest)

/-- The number of bytes between this header and the next. -/
def contentLength (header : BlockHeader) : Nat :=
  match header.kind with
  | .repeated => 1
  | _ => header.size

/-- The header and the content of the block at the front of `input`, and what follows them. -/
def readBlock (input : Bytes) : Except Fault (BlockHeader × Bytes × Bytes) :=
  match read? input with
  | none => .error .wrongInputSize
  | some (header, rest) =>
    if header.kind = .reserved then .error .corrupt
    else
      match Bytes.split? header.contentLength rest with
      | none => .error .wrongInputSize
      | some (content, rest) => .ok (header, content, rest)

theorem readBlock_shortens {input content rest : Bytes} {header : BlockHeader}
    (h : readBlock input = .ok (header, content, rest)) : rest.length < input.length := by
  unfold readBlock read? at h
  cases hs : Bytes.split? 3 input with
  | none => simp [hs] at h
  | some parts =>
    obtain ⟨bytes, body⟩ := parts
    have hinput := Bytes.split?_eq_some hs
    simp only [hs, Option.map_some] at h
    split at h
    · simp at h
    · split at h
      · simp at h
      · rename_i hc
        have hbody := (Bytes.split?_eq_some hc).2
        simp only [Except.ok.injEq, Prod.mk.injEq] at h
        rw [hinput.2, hbody, h.2.2]
        simp only [List.length_append, hinput.1]
        omega

end BlockHeader

/-- What stands between two blocks of a frame. -/
structure FrameState where
  progress : Progress
  /-- The Huffman table of the last block that had one. -/
  huffman : Option HuffmanTable
  /-- The sequence tables of the last block that had sequences. -/
  tables : Option SequenceTables

namespace FrameState

/-- The start of a frame. -/
def initial : FrameState := ⟨⟨#[], .initial⟩, none, none⟩

/-- The output so far. -/
def output (state : FrameState) : Array UInt8 := state.progress.output

/-- Appends bytes to the output. -/
def append (state : FrameState) (bytes : Bytes) : FrameState :=
  { state with progress.output := state.output ++ bytes }

/-- Carries a compressed block out, in an output that may grow to `capacity` bytes. -/
def addCompressed (blockMax capacity : Nat) (content : Array UInt8) (state : FrameState) :
    Except Fault FrameState := do
  if blockMax < content.size then .error .wrongInputSize
  let limits : Literals.Limits := ⟨blockMax, capacity - state.output.size⟩
  let literals ← Literals.read limits state.huffman content
  let sequences ← Sequences.read limits.room state.tables
    (content.extract literals.length content.size)
  let capacity := state.output.size + literals.room
  let (rest, progress) ←
    Progress.run capacity sequences.items literals.bytes.toList state.progress
  if !sequences.finished then .error .corrupt
  if capacity < progress.output.size + rest.length then .error .outputTooSmall
  return append ⟨progress, literals.table, sequences.tables⟩ rest

/-- Carries a block out, in an output that may grow to `capacity` bytes. -/
def addBlock (blockMax capacity : Nat) (header : BlockHeader) (content : Bytes)
    (state : FrameState) : Except Fault FrameState :=
  match header.kind with
  | .stored =>
    if capacity < state.output.size + header.size then .error .outputTooSmall
    else .ok (state.append content)
  | .repeated =>
    if capacity < state.output.size + header.size then .error .outputTooSmall
    else .ok (state.append (List.replicate header.size (content.headD 0)))
  | .compressed => state.addCompressed blockMax capacity content.toArray
  | .reserved => .error .corrupt

end FrameState

end BufferBridge.Zstandard
