import BufferBridge.Proofs.Bytes
import BufferBridge.Snappy.Grammar
import BufferBridge.Snappy.Validator

/-!
# The length header

A length written as a header reads back as itself, whatever follows it, and a header that can be read
ends where its first byte with a clear top bit stands.
-/
namespace BufferBridge.Snappy

variable {reader : Reader}

/-- A length of at most `limit + 1` groups of seven bits is read back from the front of any bytes. -/
theorem readGroups_encodeLength {limit n : Nat} (after : Bytes) (h : n < Nat.pow 128 (limit + 1)) :
    readGroups (limit + 1) (encodeLength n ++ after) = some (n, after) := by
  induction limit generalizing n with
  | zero =>
    have hn : n < 128 := h
    rw [encodeLength, if_pos hn, List.singleton_append, readGroups,
      Bytes.toNat_ofNat (by omega), if_pos hn]
  | succ limit ih =>
    rw [encodeLength]
    split
    · rename_i hn
      rw [List.singleton_append, readGroups, Bytes.toNat_ofNat (by omega), if_pos hn]
    · have hhigh : n / 128 < Nat.pow 128 (limit + 1) := Nat.div_lt_of_lt_mul (by
        rw [Nat.mul_comm]; exact h)
      have hbyte : (UInt8.ofNat (n % 128 + 128)).toNat = n % 128 + 128 :=
        Bytes.toNat_ofNat (by omega)
      rw [List.cons_append, readGroups, hbyte, if_neg (by omega), ih hhigh]
      show some (n % 128 + 128 - 128 + 128 * (n / 128), after) = some (n, after)
      rw [show n % 128 + 128 - 128 + 128 * (n / 128) = n from by omega]

@[simp] theorem readHeader_nil : readHeader reader [] = .error .badHeader := by
  rw [readHeader]
  cases reader.headerLimit <;> rfl

/-- Every reader takes the header of a length that the format allows. -/
theorem readHeader_encodeLength {n : Nat} (after : Bytes) (h : n ≤ maxInputLength) :
    readHeader reader (encodeLength n ++ after) = .ok (n, after) := by
  obtain ⟨limit, hlimit⟩ := Nat.exists_eq_add_of_le' reader.five_le_headerLimit
  have hpow : Nat.pow 128 5 ≤ Nat.pow 128 (limit + 4 + 1) :=
    Nat.pow_le_pow_right (by decide) (by omega)
  have hsmall : n < Nat.pow 128 5 := Nat.lt_of_le_of_lt h (by decide)
  have hgroups := readGroups_encodeLength after (Nat.lt_of_lt_of_le hsmall hpow)
  have hword : n % wordValues = n := Nat.mod_eq_of_lt (Nat.lt_of_le_of_lt h (by decide))
  simp only [readHeader, hlimit, hgroups, hword]
  rw [if_neg (Nat.not_lt.mpr h)]

/-- A header takes one byte for each group of seven bits. -/
theorem length_encodeLength_le {limit n : Nat} (h : n < Nat.pow 128 (limit + 1)) :
    (encodeLength n).length ≤ limit + 1 := by
  induction limit generalizing n with
  | zero =>
    have hn : n < 128 := h
    simp [encodeLength, hn]
  | succ limit ih =>
    rw [encodeLength]
    split
    · simp
    · have hhigh : n / 128 < Nat.pow 128 (limit + 1) := Nat.div_lt_of_lt_mul (by
        rw [Nat.mul_comm]; exact h)
      rw [List.length_cons]
      exact Nat.succ_le_succ (ih hhigh)

/-- The groups and the search for the last byte of the header agree on where the elements start. -/
theorem bodyOf_of_readGroups {limit n : Nat} {block body : Bytes}
    (h : readGroups limit block = some (n, body)) : bodyOf block = some body := by
  induction limit generalizing n block with
  | zero => simp [readGroups] at h
  | succ limit ih =>
    cases block with
    | nil => simp [readGroups] at h
    | cons byte rest =>
      simp only [readGroups] at h
      by_cases hlast : byte.toNat < 128
      · rw [if_pos hlast] at h
        cases h
        simp [bodyOf, hlast]
      · rw [if_neg hlast] at h
        obtain ⟨⟨high, after⟩, hrest, hpair⟩ := Option.map_eq_some_iff.mp h
        cases hpair
        simpa [bodyOf, hlast] using ih hrest

/-! Any front that ends itself counts as a header where only the elements behind it are looked for. -/

theorem Closed.bodyOf_append {header : Bytes} (h : Closed header) (after : Bytes) :
    bodyOf (header ++ after) = some after := by
  obtain ⟨front, last, rfl, hfront, hlast⟩ := h
  induction front with
  | nil => simp [bodyOf, hlast]
  | cons byte rest ih =>
    have hbyte := hfront byte (by simp)
    have hrest := ih fun other hmem => hfront other (by simp [hmem])
    simpa [bodyOf, Nat.not_lt.mpr hbyte] using hrest

theorem Closed.cons {byte : UInt8} {header : Bytes} (h : Closed header) (hbyte : 128 ≤ byte.toNat) :
    Closed (byte :: header) := by
  obtain ⟨front, last, rfl, hfront, hlast⟩ := h
  refine ⟨byte :: front, last, rfl, ?_, hlast⟩
  intro other hmem
  rcases List.mem_cons.mp hmem with rfl | hmem
  · exact hbyte
  · exact hfront other hmem

theorem closed_of_bodyOf {block body : Bytes} (h : bodyOf block = some body) :
    ∃ header, block = header ++ body ∧ Closed header := by
  induction block with
  | nil => cases h
  | cons byte rest ih =>
    rw [bodyOf] at h
    split at h
    · rename_i hlast
      cases h
      exact ⟨[byte], rfl, [], byte, rfl, by simp, hlast⟩
    · rename_i hmore
      obtain ⟨header, rfl, hclosed⟩ := ih h
      exact ⟨byte :: header, rfl, hclosed.cons (Nat.le_of_not_lt hmore)⟩

end BufferBridge.Snappy
