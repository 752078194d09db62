/-! What reads Snappy blocks, as far as its releases differ. They agree on the format and on the order of
the checks, but not on how many bytes a header may have, nor on how much of a block a long literal
needs before its length is looked at. What holds of blocks is stated for all of these readers. -/
namespace BufferBridge.Snappy

/-- The limits of a release. -/
structure Reader where
  /-- The most bytes that a header may have. -/
  headerLimit : Nat
  /-- The fewest bytes behind the tag of a literal that does not have its length in the tag. -/
  lookAhead : Nat
  /-- Five groups of seven bits hold every length of 32 bits. -/
  five_le_headerLimit : 5 ≤ headerLimit
  /-- No length is longer than four bytes. -/
  lookAhead_le_four : lookAhead ≤ 4

/-- Release 1.1.2. A sixth byte is one too many for its headers, and the length of a literal is read
wherever its own bytes are there. -/
def Reader.current : Reader := ⟨5, 0, by decide, by decide⟩

/-- The releases before that. Their headers are numbers of 64 bits, and they ask for the bytes of the
longest length, whatever length the tag announces. -/
def Reader.former : Reader := ⟨10, 4, by decide, by decide⟩

end BufferBridge.Snappy
