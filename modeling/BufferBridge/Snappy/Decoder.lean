import BufferBridge.Snappy.Element
import BufferBridge.Snappy.Header

/-! Decompressing: the elements are read one after another and checked, each against what is left of
the input and of the declared length, before it is appended to the output. -/
namespace BufferBridge.Snappy

/-- The literal of `length` bytes at the front of `source`, if input and output have that many left. -/
def takeLiteral (outputLeft length : Nat) (source : Bytes) : Except Fault (Element × Bytes) :=
  if outputLeft < length then .error (.literalCut length source.length outputLeft)
  else
    match Bytes.split? length source with
    | none => .error (.literalCut length source.length outputLeft)
    | some (data, after) => .ok (.literal data, after)

/-- The literal whose tag holds `code`: its length below one if that is under 60, and else the number
of bytes, above 59, that the length below one stands in. -/
def readLiteral (reader : Reader) (outputLeft code : Nat) (source : Bytes) :
    Except Fault (Element × Bytes) :=
  if code < 60 then takeLiteral outputLeft (code + 1) source
  else if source.length < reader.lookAhead then
    .error (.literalCut reader.lookAhead source.length outputLeft)
  else
    match Bytes.split? (code - 59) source with
    | none => .error (.literalCut (code - 59) source.length outputLeft)
    | some (digits, after) => takeLiteral outputLeft (Bytes.littleEndian digits + 1) after

/-- A copy whose offset stands in the next `width` bytes, below `high`, the part of it that the tag
holds. -/
def readCopy (declared produced length width high : Nat) (source : Bytes) :
    Except Fault (Element × Bytes) :=
  match Bytes.split? width source with
  | none => .error (.offsetCut width source.length)
  | some (digits, after) =>
    let offset := Bytes.littleEndian digits + high
    if offset = 0 ∨ produced < offset then .error (.badOffset offset produced)
    else if declared < produced + length then .error (.copyCut length (declared - produced))
    else .ok (.copy offset length, after)

/-- The element that `tag` opens, and what follows it in `source`, the input after the tag. -/
def readElement (reader : Reader) (declared produced : Nat) (tag : UInt8) (source : Bytes) :
    Except Fault (Element × Bytes) :=
  let code := tag.toNat / 4
  match tag.toNat % 4 with
  | 0 => readLiteral reader (declared - produced) code source
  | 1 => readCopy declared produced (4 + code % 8) 1 (tag.toNat / 32 * 256) source
  | 2 => readCopy declared produced (code + 1) 2 0 source
  | _ => readCopy declared produced (code + 1) 4 0 source

theorem takeLiteral_shortens {outputLeft length : Nat} {source after : Bytes} {element : Element}
    (h : takeLiteral outputLeft length source = .ok (element, after)) :
    after.length ≤ source.length := by
  unfold takeLiteral at h
  split at h
  · simp at h
  · split at h
    · simp at h
    · rename_i hs
      simp only [Except.ok.injEq, Prod.mk.injEq] at h
      rw [(Bytes.split?_eq_some hs).2, ← h.2]
      simp

theorem readElement_shortens {reader : Reader} {declared produced : Nat} {tag : UInt8}
    {source after : Bytes} {element : Element}
    (h : readElement reader declared produced tag source = .ok (element, after)) :
    after.length ≤ source.length := by
  have copyShortens : ∀ {length width high : Nat},
      readCopy declared produced length width high source = .ok (element, after) →
        after.length ≤ source.length := by
    intro length width high h
    unfold readCopy at h
    split at h
    · simp at h
    · rename_i hs
      simp only at h
      split at h
      · simp at h
      · split at h
        · simp at h
        · simp only [Except.ok.injEq, Prod.mk.injEq] at h
          rw [(Bytes.split?_eq_some hs).2, ← h.2]
          simp
  unfold readElement at h
  simp only at h
  split at h
  · unfold readLiteral at h
    split at h
    · exact takeLiteral_shortens h
    · split at h
      · simp at h
      · split at h
        · simp at h
        · rename_i hs
          have := takeLiteral_shortens h
          rw [(Bytes.split?_eq_some hs).2, List.length_append]
          omega
  all_goals exact copyShortens h

/-- Appends the elements of `source` to `output`, up to the declared length. The output is also given
where decoding stops at a fault: it then ends before the element at fault. -/
def decodeElements (reader : Reader) (declared : Nat) (source : Bytes) (output : Array UInt8) :
    Array UInt8 × Except Fault Unit :=
  match source with
  | [] =>
    if output.size = declared then (output, .ok ())
    else (output, .error (.lengthMismatch declared output.size))
  | tag :: rest =>
    match _h : readElement reader declared output.size tag rest with
    | .error fault => (output, .error fault)
    | .ok (element, after) => decodeElements reader declared after (element.appendTo output)
termination_by source.length
decreasing_by
  have := readElement_shortens _h
  simp only [List.length_cons]
  omega

/-- Decompresses `block` into an output with `room` bytes. The bytes are those written to the output,
also where the result is a fault. -/
def decompress (reader : Reader) (block : Bytes) (room : Nat) : Bytes × Except Fault Nat :=
  if block.isEmpty then ([], .error .empty)
  else
    match readHeader reader block with
    | .error fault => ([], .error fault)
    | .ok (declared, body) =>
      if room < declared then ([], .error (.outputTooSmall room declared))
      else
        let (output, result) := decodeElements reader declared body #[]
        (output.toList, result.map fun () => declared)

end BufferBridge.Snappy
